import JobContainers.DnsLabel
import Mathlib.Data.List.Basic

set_option autoImplicit false

namespace JobContainers.DnsLabel

def isPlainChar (c : Char) : Bool := c.isLower || c.isDigit || c = '-'

def isPlain (s : String) : Bool :=
  s.toList.all isPlainChar && s.toList.head?.any (· ≠ '-') && s.toList.getLast?.any (· ≠ '-')

theorem isPlain_iff {s : String} :
    isPlain s = true ↔ (∀ c ∈ s.toList, isPlainChar c = true) ∧
      (∃ c, s.toList.head? = some c ∧ c ≠ '-') ∧ ∃ c, s.toList.getLast? = some c ∧ c ≠ '-' := by
  simp [isPlain, Option.any_eq_true, and_assoc]

theorem toLower_of_not_isUpper {c : Char} (other : c.isUpper = false) : c.toLower = c :=
  dif_neg (of_decide_eq_false other)

theorem not_isUpper_of_isLower {c : Char} (lower : c.isLower = true) : c.isUpper = false := by
  have least := of_decide_eq_true (Bool.and_eq_true_iff.mp lower).1
  refine decide_eq_false ?_
  rintro ⟨-, upper⟩
  have apart : 'Z'.val < 'a'.val := by decide
  exact absurd (UInt32.lt_of_lt_of_le apart least) (UInt32.not_lt.mpr upper)

theorem not_isUpper_of_isDigit {c : Char} (digit : c.isDigit = true) : c.isUpper = false := by
  have most := of_decide_eq_true (Bool.and_eq_true_iff.mp digit).2
  refine decide_eq_false ?_
  rintro ⟨upper, -⟩
  have apart : '9'.val < 'A'.val := by decide
  exact absurd (UInt32.lt_of_le_of_lt most apart) (UInt32.not_lt.mpr upper)

theorem normalChar_plain {c : Char} (plain : isPlainChar c = true) : normalChar c = c := by
  have classes : c.isAlphanum = (c.isUpper || c.isLower || c.isDigit) := rfl
  simp only [isPlainChar, Bool.or_eq_true, decide_eq_true_eq] at plain
  rw [normalChar, classes]
  rcases plain with (lower | digit) | rfl
  · rw [lower, Bool.or_true, Bool.true_or, if_pos rfl,
      toLower_of_not_isUpper (not_isUpper_of_isLower lower)]
  · rw [digit, Bool.or_true, if_pos rfl, toLower_of_not_isUpper (not_isUpper_of_isDigit digit)]
  · rfl

theorem dropHyphens_of_head {cs : List Char} {c : Char} (first : cs.head? = some c)
    (other : c ≠ '-') : cs.dropWhile (· = '-') = cs := by
  cases cs with
  | nil => cases first
  | cons d cs =>
      obtain rfl := Option.some.inj first
      exact List.dropWhile_cons_of_neg (by simpa using other)

theorem dropTrailingHyphens_of_last {cs : List Char} {c : Char} (last : cs.getLast? = some c)
    (other : c ≠ '-') : dropTrailingHyphens cs = cs := by
  rw [← List.head?_reverse] at last
  rw [dropTrailingHyphens, dropHyphens_of_head last other, List.reverse_reverse]

theorem sanitize_plain {s : String} (plain : isPlain s = true) (fits : s.length ≤ maxLength) :
    sanitize s = s := by
  obtain ⟨chars, ⟨first, starts, initial⟩, last, ends, final⟩ := isPlain_iff.mp plain
  have same : s.toList.map normalChar = s.toList := by
    rw [List.map_congr_left fun c member => normalChar_plain (chars c member), List.map_id']
  have short : ¬maxLength < s.toList.length := by
    rw [String.length_toList]
    exact Nat.not_lt.mpr fits
  rw [sanitize, same, dropHyphens_of_head starts initial, dropTrailingHyphens_of_last ends final,
    if_neg short, String.ofList_toList]

theorem isPlain_joined {job process : String} (first : isPlain job = true)
    (second : isPlain process = true) : isPlain (job ++ "-" ++ process) = true := by
  obtain ⟨jobChars, ⟨c, starts, initial⟩, -⟩ := isPlain_iff.mp first
  obtain ⟨processChars, -, d, ends, final⟩ := isPlain_iff.mp second
  rw [isPlain_iff]
  simp only [String.toList_append]
  refine ⟨?_, ⟨c, ?_, initial⟩, d, ?_, final⟩
  · intro e member
    rcases List.mem_append.mp member with front | behind
    · rcases List.mem_append.mp front with ofJob | hyphen
      · exact jobChars e ofJob
      · obtain rfl := List.mem_singleton.mp hyphen
        rfl
    · exact processChars e behind
  · rw [List.head?_append, List.head?_append, starts]
    rfl
  · rw [List.getLast?_append, ends]
    rfl

theorem containerName_plain {job process : String} (first : isPlain job = true)
    (second : isPlain process = true) (fits : job.length + process.length < maxLength) :
    containerName job process = job ++ "-" ++ process := by
  refine sanitize_plain (isPlain_joined first second) ?_
  have hyphen : "-".length = 1 := rfl
  rw [String.length_append, String.length_append, hyphen]
  omega

theorem toList_joined (job process : String) :
    (job ++ "-" ++ process).toList = job.toList ++ '-' :: process.toList := by
  have hyphen : "-".toList = ['-'] := rfl
  rw [String.toList_append, String.toList_append, hyphen, List.append_assoc, List.singleton_append]

theorem joined_split {job process other again : String} {rest : List Char}
    (front : other.toList = job.toList ++ rest)
    (behind : '-' :: process.toList = rest ++ '-' :: again.toList) :
    (job = other ∧ process = again) ∨
      ∃ middle, other = job ++ "-" ++ middle ∧ process = middle ++ "-" ++ again := by
  cases rest with
  | nil =>
      rw [List.append_nil] at front
      exact .inl ⟨(String.toList_inj.mp front).symm, String.toList_inj.mp (List.cons.inj behind).2⟩
  | cons c rest =>
      obtain ⟨rfl, tail⟩ := List.cons.inj behind
      refine .inr ⟨.ofList rest, String.toList_inj.mp ?_, String.toList_inj.mp ?_⟩
      · rw [toList_joined, String.toList_ofList, front]
      · rw [toList_joined, String.toList_ofList]
        exact tail

/-- Two pairs that join to one text are the same, or the hyphen of one stands inside a part of the
other. -/
theorem eq_or_shifted_of_joined {job process other again : String}
    (same : job ++ "-" ++ process = other ++ "-" ++ again) :
    (job = other ∧ process = again) ∨
      (∃ middle, other = job ++ "-" ++ middle ∧ process = middle ++ "-" ++ again) ∨
      ∃ middle, job = other ++ "-" ++ middle ∧ again = middle ++ "-" ++ process := by
  have texts := congrArg String.toList same
  rw [toList_joined, toList_joined, List.append_eq_append_iff] at texts
  rcases texts with ⟨rest, front, behind⟩ | ⟨rest, front, behind⟩
  · exact (joined_split front behind).imp_right .inl
  · rcases joined_split front behind with ⟨rfl, rfl⟩ | shifted
    · exact .inl ⟨rfl, rfl⟩
    · exact .inr (.inr shifted)

end JobContainers.DnsLabel

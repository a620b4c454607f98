import JobContainers.Proofs.Labels
import JobContainers.Text.Blank
import Mathlib.Data.List.TakeWhile

/-!
What sanitizing makes of any text: a label, or nothing if there is no letter and no digit to keep.
The cut at the greatest length is one in bytes and never falls into a character.
-/

set_option autoImplicit false

namespace JobContainers.DnsLabel

def IsLowerOrDigit (c : Char) : Prop := ('a' ≤ c ∧ c ≤ 'z') ∨ ('0' ≤ c ∧ c ≤ '9')

/-- A label: one to 63 lower-case letters, digits and hyphens, and no hyphen at either end. -/
structure IsLabel (s : String) : Prop where
  nonempty : 1 ≤ s.length
  short : s.length ≤ 63
  chars : ∀ c ∈ s.toList, IsLowerOrDigit c ∨ c = '-'
  starts : ∃ c, s.toList.head? = some c ∧ IsLowerOrDigit c
  ends : ∃ c, s.toList.getLast? = some c ∧ IsLowerOrDigit c

theorem isPlainChar_iff {c : Char} : isPlainChar c = true ↔ IsLowerOrDigit c ∨ c = '-' := by
  delta isPlainChar IsLowerOrDigit Char.isLower Char.isDigit
  simp [Char.le_def]

theorem not_isLowerOrDigit_hyphen : ¬IsLowerOrDigit '-' := by
  rintro (⟨least, -⟩ | ⟨least, -⟩)
  · exact absurd least (by decide)
  · exact absurd least (by decide)

theorem isLowerOrDigit_iff {c : Char} : IsLowerOrDigit c ↔ isPlainChar c = true ∧ c ≠ '-' := by
  rw [isPlainChar_iff]
  constructor
  · intro inner
    refine ⟨.inl inner, ?_⟩
    rintro rfl
    exact not_isLowerOrDigit_hyphen inner
  · rintro ⟨inner | hyphen, other⟩
    · exact inner
    · exact absurd hyphen other

theorem isLabel_iff {s : String} : IsLabel s ↔ isPlain s = true ∧ s.length ≤ maxLength := by
  rw [isPlain_iff]
  constructor
  · intro label
    obtain ⟨first, starts, initial⟩ := label.starts
    obtain ⟨last, ends, final⟩ := label.ends
    refine ⟨⟨?_, ?_, ?_⟩, label.short⟩
    · intro c member
      exact isPlainChar_iff.mpr (label.chars c member)
    · exact ⟨first, starts, (isLowerOrDigit_iff.mp initial).2⟩
    · exact ⟨last, ends, (isLowerOrDigit_iff.mp final).2⟩
  · rintro ⟨⟨chars, ⟨first, starts, initial⟩, last, ends, final⟩, short⟩
    have head := chars first (List.mem_of_head? starts)
    have tail := chars last (List.mem_of_getLast? ends)
    refine ⟨?_, short, ?_, ?_, ?_⟩
    · rw [← String.length_toList]
      exact List.length_pos_of_mem (List.mem_of_head? starts)
    · intro c member
      exact isPlainChar_iff.mp (chars c member)
    · exact ⟨first, starts, isLowerOrDigit_iff.mpr ⟨head, initial⟩⟩
    · exact ⟨last, ends, isLowerOrDigit_iff.mpr ⟨tail, final⟩⟩

/-! Single characters: those with a code below 128 are checked one by one, all others become
hyphens. -/

theorem isAlphanum_wide {c : Char} (wide : 128 ≤ c.toNat) : c.isAlphanum = false := by
  delta Char.isAlphanum Char.isAlpha Char.isUpper Char.isLower Char.isDigit
  simp [UInt32.le_iff_toNat_le]
  omega

theorem isPlainChar_normalChar (c : Char) : isPlainChar (normalChar c) = true := by
  have checked : ∀ n < 128, isPlainChar (normalChar (.ofNat n)) = true := by decide
  by_cases narrow : c.toNat < 128
  · have here := checked c.toNat narrow
    rwa [Char.ofNat_toNat] at here
  · rw [normalChar, isAlphanum_wide (Nat.not_lt.mp narrow)]
    rfl

theorem normalChar_eq_hyphen {c : Char} : normalChar c = '-' ↔ c.isAlphanum = false := by
  have checked : ∀ n < 128, normalChar (.ofNat n) = '-' ↔ (Char.ofNat n).isAlphanum = false := by
    decide
  by_cases narrow : c.toNat < 128
  · have here := checked c.toNat narrow
    rwa [Char.ofNat_toNat] at here
  · have wide := isAlphanum_wide (Nat.not_lt.mp narrow)
    rw [normalChar, wide]
    exact iff_of_true rfl rfl

theorem utf8Size_plain {c : Char} (plain : isPlainChar c = true) : c.utf8Size = 1 := by
  rw [Char.utf8Size_eq_one_iff]
  rcases isPlainChar_iff.mp plain with (⟨-, most⟩ | ⟨-, most⟩) | rfl
  · exact UInt32.le_trans most (by decide)
  · exact UInt32.le_trans most (by decide)
  · decide

def body (s : String) : List Char := trimBoth (· = '-') (s.toList.map normalChar)

/-- Cuts a text behind so many bytes. Inside a character it cannot be cut. -/
def cut? (s : String) (bytes : Nat) : Option String :=
  if valid : String.Pos.Raw.IsValid s ⟨bytes⟩ then some (s.sliceTo ⟨⟨bytes⟩, valid⟩).copy else none

def sanitizeBytes? (s : String) : Option String :=
  let text := String.ofList (body s)
  if maxLength < text.utf8ByteSize then
    (cut? text maxLength).map fun front => .ofList (dropTrailingHyphens front.toList)
  else some text

theorem cut?_append (front rest : String) : cut? (front ++ rest) front.utf8ByteSize = some front := by
  have valid : String.Pos.Raw.IsValid (front ++ rest) ⟨front.utf8ByteSize⟩ :=
    String.Pos.Raw.isValid_iff_exists_append.mpr ⟨front, rest, rfl, rfl⟩
  rw [cut?, dif_pos valid, Option.some.injEq, String.copy_sliceTo_eq_iff_exists_splits]
  exact ⟨rest, rfl, rfl⟩

theorem utf8ByteSize_plain {cs : List Char} (plain : ∀ c ∈ cs, isPlainChar c = true) :
    (String.ofList cs).utf8ByteSize = cs.length := by
  induction cs with
  | nil => rfl
  | cons c cs ih =>
      have narrow := utf8Size_plain (plain c List.mem_cons_self)
      have parts : String.ofList (c :: cs) = String.singleton c ++ String.ofList cs := by
        rw [← List.singleton_append, String.ofList_append]
        rfl
      rw [parts, String.utf8ByteSize_append, String.utf8ByteSize_singleton, narrow,
        ih fun d member => plain d (List.mem_cons_of_mem c member), List.length_cons, Nat.add_comm]

/-! What is left -/

theorem sublist_trimBoth (cls : Char → Bool) (cs : List Char) : (trimBoth cls cs).Sublist cs := by
  have back : (trimBoth cls cs).Sublist (cs.dropWhile cls) := by
    rw [trimBoth, ← List.reverse_sublist, List.reverse_reverse]
    exact List.dropWhile_sublist cls
  exact back.trans (List.dropWhile_sublist cls)

theorem trimBoth_eq_nil {cls : Char → Bool} {cs : List Char} :
    trimBoth cls cs = [] ↔ ∀ c ∈ cs, cls c = true := by
  rw [← List.dropWhile_eq_nil_iff, trimBoth, List.reverse_eq_nil_iff, List.dropWhile_eq_nil_iff]
  constructor
  · intro dropped
    cases left : cs.dropWhile cls with
    | nil => rfl
    | cons c rest =>
        have outside := head?_dropWhile cls cs c (by rw [left]; rfl)
        have inside := dropped c (by rw [left]; exact List.mem_reverse.mpr List.mem_cons_self)
        rw [outside] at inside
        cases inside
  · intro nothing c member
    rw [nothing] at member
    cases member

theorem dropTrailingHyphens_front (cs : List Char) : dropTrailingHyphens cs <+: cs := by
  rw [dropTrailingHyphens, ← List.reverse_suffix, List.reverse_reverse]
  exact List.dropWhile_suffix _

theorem last_dropTrailingHyphens (cs : List Char) :
    ∀ c ∈ (dropTrailingHyphens cs).getLast?, c ≠ '-' := by
  intro c last
  rw [dropTrailingHyphens, List.getLast?_reverse] at last
  simpa using head?_dropWhile _ _ c last

theorem head_dropTrailingHyphens {c : Char} {cs : List Char} (other : c ≠ '-') :
    ∃ rest, dropTrailingHyphens (c :: cs) = c :: rest := by
  cases kept : dropTrailingHyphens (c :: cs) with
  | nil =>
      rw [dropTrailingHyphens, List.reverse_eq_nil_iff, List.dropWhile_eq_nil_iff] at kept
      have dropped := kept c (List.mem_reverse.mpr List.mem_cons_self)
      exact absurd (of_decide_eq_true dropped) other
  | cons d rest =>
      have front := dropTrailingHyphens_front (c :: cs)
      rw [kept, List.cons_prefix_cons] at front
      exact ⟨rest, by rw [front.1]⟩

theorem isPlainChar_body {s : String} : ∀ c ∈ body s, isPlainChar c = true := by
  intro c member
  obtain ⟨d, -, rfl⟩ := List.mem_map.mp ((sublist_trimBoth _ _).mem member)
  exact isPlainChar_normalChar d

theorem body_eq_nil {s : String} : body s = [] ↔ ∀ c ∈ s.toList, c.isAlphanum = false := by
  simp only [body, trimBoth_eq_nil, List.forall_mem_map, decide_eq_true_eq, normalChar_eq_hyphen]

theorem head_body (s : String) : ∀ c ∈ (body s).head?, c ≠ '-' := by
  intro c first
  simpa using head?_trimBoth _ _ c first

theorem last_body (s : String) : ∀ c ∈ (body s).getLast?, c ≠ '-' := by
  intro c last
  simpa using getLast?_trimBoth _ _ c last

theorem isLabel_ofList {c : Char} {cs : List Char} (fits : (c :: cs).length ≤ maxLength)
    (plain : ∀ d ∈ c :: cs, isPlainChar d = true) (first : c ≠ '-')
    (last : ∀ d ∈ (c :: cs).getLast?, d ≠ '-') : IsLabel (.ofList (c :: cs)) := by
  rw [isLabel_iff, isPlain_iff, String.length_ofList, String.toList_ofList]
  have ends := List.getLast?_eq_getLast_of_ne_nil (List.cons_ne_nil c cs)
  exact ⟨⟨plain, ⟨c, rfl, first⟩, _, ends, last _ ends⟩, fits⟩

theorem sanitize_eq (s : String) : sanitize s = .ofList (if maxLength < (body s).length then
    dropTrailingHyphens ((body s).take maxLength) else body s) := rfl

theorem sanitize_of_nil {s : String} (nothing : body s = []) : sanitize s = "" := by
  rw [sanitize_eq, nothing]
  rfl

/-- What is left and fits is a label. Of what does not fit the front is one, without the hyphens
that the cut leaves at its end. -/
theorem isLabel_sanitize {s : String} (something : body s ≠ []) : IsLabel (sanitize s) := by
  obtain ⟨c, cs, left⟩ := List.exists_cons_of_ne_nil something
  have first : c ≠ '-' := head_body s c (by rw [left]; rfl)
  have plain : ∀ d ∈ c :: cs, isPlainChar d = true := left ▸ isPlainChar_body
  rw [sanitize_eq, left]
  split
  next long =>
    obtain ⟨rest, kept⟩ : ∃ rest, dropTrailingHyphens ((c :: cs).take maxLength) = c :: rest :=
      head_dropTrailingHyphens first
    have part := (dropTrailingHyphens_front ((c :: cs).take maxLength)).sublist
    have last := last_dropTrailingHyphens ((c :: cs).take maxLength)
    rw [kept] at part last ⊢
    apply isLabel_ofList (part.length_le.trans (List.length_take_le _ _)) _ first last
    intro d member
    exact plain d (List.mem_of_mem_take (part.mem member))
  next fits =>
    have last : ∀ d ∈ (c :: cs).getLast?, d ≠ '-' := left ▸ last_body s
    exact isLabel_ofList (Nat.not_lt.mp fits) plain first last

/-- In bytes the text is as long as in characters, and behind 63 bytes there is no character cut
through. -/
theorem sanitizeBytes?_eq (s : String) : sanitizeBytes? s = some (sanitize s) := by
  have size := utf8ByteSize_plain (isPlainChar_body (s := s))
  rw [sanitizeBytes?, sanitize_eq, size]
  split
  next long =>
    have front : (String.ofList ((body s).take maxLength)).utf8ByteSize = maxLength := by
      rw [utf8ByteSize_plain fun c member => isPlainChar_body c (List.mem_of_mem_take member),
        List.length_take, Nat.min_eq_left (Nat.le_of_lt long)]
    have parts : String.ofList (body s) = String.ofList ((body s).take maxLength) ++
        String.ofList ((body s).drop maxLength) := by
      rw [← String.ofList_append, List.take_append_drop]
    have cut := cut?_append (.ofList ((body s).take maxLength)) (.ofList ((body s).drop maxLength))
    rw [front, ← parts] at cut
    rw [cut, Option.map_some, String.toList_ofList]
  next => rfl

theorem sanitize_isLabel {s : String} (label : IsLabel s) : sanitize s = s := by
  obtain ⟨plain, fits⟩ := isLabel_iff.mp label
  exact sanitize_plain plain fits

theorem sanitize_eq_empty {s : String} :
    sanitize s = "" ↔ ∀ c ∈ s.toList, c.isAlphanum = false := by
  rw [← body_eq_nil]
  constructor
  · intro empty
    by_contra something
    have nonempty := (isLabel_sanitize something).nonempty
    rw [empty] at nonempty
    exact absurd nonempty (by decide)
  · exact sanitize_of_nil

theorem isLabel_of_alphanum {s : String} {c : Char} (member : c ∈ s.toList)
    (kept : c.isAlphanum = true) : IsLabel (sanitize s) := by
  apply isLabel_sanitize
  intro nothing
  have dropped := body_eq_nil.mp nothing c member
  rw [kept] at dropped
  cases dropped

/-- Any text is sanitized to a label, or to nothing if it has no letters and digits of ASCII. What is
a label stays as it is, so that sanitizing again changes nothing. -/
theorem sanitize_label (s : String) :
    sanitizeBytes? s = some (sanitize s) ∧
    (sanitize s = "" ∨ IsLabel (sanitize s)) ∧
    (sanitize s = "" ↔ ∀ c ∈ s.toList, c.isAlphanum = false) ∧
    sanitize (sanitize s) = sanitize s ∧
    (IsLabel s → sanitize s = s) ∧
    ∀ job process, (∃ c ∈ job.toList ++ process.toList, c.isAlphanum = true) →
      IsLabel (containerName job process) := by
  have outcome : sanitize s = "" ∨ IsLabel (sanitize s) := by
    by_cases left : body s = []
    · exact .inl (sanitize_of_nil left)
    · exact .inr (isLabel_sanitize left)
  refine ⟨sanitizeBytes?_eq s, outcome, sanitize_eq_empty, ?_, sanitize_isLabel, ?_⟩
  · rcases outcome with empty | label
    · rw [empty]
      rfl
    · exact sanitize_isLabel label
  · rintro job process ⟨c, member, kept⟩
    refine isLabel_of_alphanum ?_ kept
    rw [toList_joined]
    exact (List.mem_append.mp member).elim (List.mem_append_left _)
      fun behind => List.mem_append_right _ (List.mem_cons_of_mem _ behind)

namespace Cut

def text : String := .ofList (List.replicate 61 'a' ++ ['_', '_', '_', 'b'])

theorem label : IsLabel "cloud-controller" := isLabel_iff.mpr ⟨by decide, by decide +kernel⟩

end Cut

theorem sanitize_label_cut :
    IsLabel "cloud-controller" ∧ sanitize "cloud-controller" = "cloud-controller" ∧
      IsLabel (sanitize Cut.text) ∧ (sanitize Cut.text).length = 61 ∧
      sanitize "_ä-" = "" ∧ IsLabel (containerName "ä" "web_1") := by
  have kept := (sanitize_label "cloud-controller").2.2.2.2.1 Cut.label
  have short : (sanitize Cut.text).length = 61 := by decide
  have long := (sanitize_label Cut.text).2.1.resolve_left fun empty => by
    rw [empty] at short
    exact absurd short (by decide)
  have nothing := (sanitize_label "_ä-").2.2.1.mpr (by simp)
  have named := (sanitize_label "").2.2.2.2.2 "ä" "web_1" ⟨'w', by decide, rfl⟩
  exact ⟨Cut.label, kept, long, short, nothing, named⟩

end JobContainers.DnsLabel

import JobContainers.Proofs.CodecLaws
import JobContainers.Proofs.QuantityNumber
import Mathlib.Algebra.Group.Int.Defs

/-!
The language of quantities. A text is a quantity if, between its blanks, it is a number and an
optional suffix; what the scan, the number reader and the suffix tables accept beyond that does not
come together. A quantity keeps its text, and the text reads as the same quantity.
-/

set_option autoImplicit false

namespace JobContainers

/-- What is left of a text without the blanks at both ends. -/
structure Trims (cs body : List Char) : Prop where
  parts : ∃ front back, cs = front ++ body ++ back ∧ (∀ c ∈ front, isBlank c = true) ∧
    ∀ c ∈ back, isBlank c = true
  first : ∀ c ∈ body.head?, isBlank c = false
  last : ∀ c ∈ body.getLast?, isBlank c = false

theorem trims_trimBoth (cs : List Char) : Trims cs (trimBoth isBlank cs) where
  parts := by
    let rest := cs.dropWhile isBlank
    refine ⟨cs.takeWhile isBlank, (rest.reverse.takeWhile isBlank).reverse, ?_, ?_, ?_⟩
    · have back : trimBoth isBlank cs ++ (rest.reverse.takeWhile isBlank).reverse = rest := by
        rw [trimBoth, ← List.reverse_append, List.takeWhile_append_dropWhile, List.reverse_reverse]
      rw [List.append_assoc, back, List.takeWhile_append_dropWhile]
    · exact fun _ member => List.mem_takeWhile_imp member
    · exact fun _ member => List.mem_takeWhile_imp (List.mem_reverse.mp member)
  first := head?_trimBoth isBlank cs
  last := getLast?_trimBoth isBlank cs

namespace Quantity

def binaryUnits : List Char := ['K', 'M', 'G', 'T', 'P', 'E']

def decimalUnits : List Char := ['n', 'u', 'm', 'k', 'M', 'G', 'T', 'P', 'E']

/-- Nothing, a unit, or an exponent of 32 bits. -/
inductive Suffix : List Char → Prop where
  | absent : Suffix []
  | binary {unit : Char} (known : unit ∈ binaryUnits) : Suffix [unit, 'i']
  | decimal {unit : Char} (known : unit ∈ decimalUnits) : Suffix [unit]
  | exponent {mark : Char} {sign ds : List Char} (marked : mark = 'e' ∨ mark = 'E')
      (signText : SignText sign) (digits : Digits ds) (nonempty : ds ≠ [])
      (fits : -2 ^ 31 ≤ signed sign ds ∧ signed sign ds < 2 ^ 31) : Suffix (mark :: (sign ++ ds))

inductive Written : List Char → Prop where
  | intro {sign number suffix : List Char} (signText : SignText sign) (numeral : Numeral number)
      (unit : Suffix suffix) : Written (sign ++ number ++ suffix)

/-! Reading a suffix -/

theorem Suffix.further {suffix : List Char} (unit : Suffix suffix) :
    ∀ c ∈ suffix.head?, isNumeric c = false := by
  cases unit with
  | absent => simp
  | binary known =>
      have units : ∀ c ∈ binaryUnits, isNumeric c = false := by simp [binaryUnits, isNumeric]
      simpa using units _ known
  | decimal known =>
      have units : ∀ c ∈ decimalUnits, isNumeric c = false := by simp [decimalUnits, isNumeric]
      simpa using units _ known
  | exponent marked _ _ _ _ => rcases marked with rfl | rfl <;> simp [isNumeric]

theorem holds_iff {n : Int} : Width.holds 32 n = true ↔ -2 ^ 31 ≤ n ∧ n < 2 ^ 31 := by
  have least : Width.least 32 = -2 ^ 31 := rfl
  have most : Width.most 32 = 2 ^ 31 - 1 := rfl
  simp only [Width.holds, least, most, Bool.and_eq_true, decide_eq_true_eq]
  omega

theorem suffixExponent?_iff {suffix : List Char} :
    (∃ e, suffixExponent? suffix = some e) ↔
      ∃ mark sign ds, suffix = mark :: (sign ++ ds) ∧ (mark = 'e' ∨ mark = 'E') ∧
        SignText sign ∧ Digits ds ∧ ds ≠ [] ∧
        -2 ^ 31 ≤ signed sign ds ∧ signed sign ds < 2 ^ 31 := by
  constructor
  · rintro ⟨e, read⟩
    cases suffix with
    | nil => cases read
    | cons mark cs =>
        simp only [suffixExponent?] at read
        split at read
        · rename_i marked
          obtain ⟨whole, fits⟩ := Option.filter_eq_some_iff.mp read
          obtain ⟨sign, ds, rfl, signText, digits, nonempty, rfl⟩ := integer?_iff.mp whole
          exact ⟨mark, sign, ds, rfl, marked, signText, digits, nonempty, holds_iff.mp fits⟩
        · cases read
  · rintro ⟨mark, sign, ds, rfl, marked, signText, digits, nonempty, fits⟩
    have whole := integer?_iff.mpr ⟨sign, ds, rfl, signText, digits, nonempty, rfl⟩
    refine ⟨signed sign ds, ?_⟩
    simp only [suffixExponent?, if_pos marked]
    exact Option.filter_eq_some_iff.mpr ⟨whole, holds_iff.mpr fits⟩

theorem lookup_isSome_iff {α : Type} {table : List (String × α)} {cs : List Char} :
    (∃ x, table.lookup (.ofList cs) = some x) ↔ cs ∈ table.map (·.1.toList) := by
  induction table with
  | nil => simp
  | cons entry table ih =>
      obtain ⟨name, x⟩ := entry
      rw [Entries.lookup_head, List.map_cons, List.mem_cons, ← ih]
      by_cases here : String.ofList cs = name
      · simp [← here]
      · have differs : cs ≠ name.toList := by
          rintro rfl
          exact here (String.ofList_toList)
        simp [here, differs]

theorem lookup_binary_iff {suffix : List Char} :
    (∃ e, binarySuffixes.lookup (.ofList suffix) = some e) ↔
      ∃ unit ∈ binaryUnits, suffix = [unit, 'i'] := by
  have names : binarySuffixes.map (·.1.toList) = binaryUnits.map ([·, 'i']) := by decide
  rw [lookup_isSome_iff, names, List.mem_map]
  simp only [eq_comm]

theorem lookup_decimal_iff {suffix : List Char} :
    (∃ e, decimalSuffixes.lookup (.ofList suffix) = some e) ↔
      ∃ unit ∈ decimalUnits, suffix = [unit] := by
  have names : decimalSuffixes.map (·.1.toList) = decimalUnits.map ([·]) := by decide
  rw [lookup_isSome_iff, names, List.mem_map]
  simp only [eq_comm]

theorem multiplier?_tables {suffix : List Char} :
    (∃ factor, multiplier? suffix = some factor) ↔
      suffix = [] ∨ (∃ e, binarySuffixes.lookup (.ofList suffix) = some e) ∨
        (∃ e, decimalSuffixes.lookup (.ofList suffix) = some e) ∨
        ∃ e, suffixExponent? suffix = some e := by
  by_cases nothing : suffix = []
  · simp [multiplier?, nothing]
  cases binary : binarySuffixes.lookup (.ofList suffix) with
  | some e => simp only [multiplier?, List.isEmpty_iff, nothing, binary]; simp
  | none =>
      cases decimal : decimalSuffixes.lookup (.ofList suffix) with
      | some e => simp only [multiplier?, List.isEmpty_iff, nothing, binary, decimal]; simp
      | none => simp only [multiplier?, List.isEmpty_iff, nothing, binary, decimal]; simp

theorem multiplier?_iff {suffix : List Char} :
    (∃ factor, multiplier? suffix = some factor) ↔ Suffix suffix := by
  rw [multiplier?_tables, lookup_binary_iff, lookup_decimal_iff, suffixExponent?_iff]
  constructor
  · rintro (rfl | ⟨unit, known, rfl⟩ | ⟨unit, known, rfl⟩ |
      ⟨mark, sign, ds, rfl, marked, signText, digits, nonempty, fits⟩)
    · exact .absent
    · exact .binary known
    · exact .decimal known
    · exact .exponent marked signText digits nonempty fits
  · intro unit
    cases unit with
    | absent => exact .inl rfl
    | binary known => exact .inr (.inl ⟨_, known, rfl⟩)
    | decimal known => exact .inr (.inr (.inl ⟨_, known, rfl⟩))
    | exponent marked signText digits nonempty fits =>
        exact .inr (.inr (.inr ⟨_, _, _, rfl, marked, signText, digits, nonempty, fits⟩))

/-! Reading a quantity -/

theorem parse_ok {input : String} {q : Quantity} :
    parse input = .ok q ↔
      ∃ mantissa factor,
        Decimal.ofChars? (splitNumber (trimBoth isBlank input.toList)).1 = some mantissa ∧
        multiplier? (splitNumber (trimBoth isBlank input.toList)).2 = some factor ∧
        q = ⟨.ofList (trimBoth isBlank input.toList), (Binary64.ofDecimal mantissa).mul factor⟩ := by
  obtain ⟨body, trimmed⟩ : ∃ body, trimBoth isBlank input.toList = body := ⟨_, rfl⟩
  simp only [parse, trimmed]
  cases body with
  | nil =>
      have nothing : Decimal.ofChars? (splitNumber []).1 = none := rfl
      simp [nothing]
  | cons c cs =>
      cases number : Decimal.ofChars? (splitNumber (c :: cs)).1 with
      | none => simp
      | some mantissa =>
          cases suffix : multiplier? (splitNumber (c :: cs)).2 with
          | none => simp
          | some factor => simp [eq_comm]

theorem exists_parse_iff (input : String) :
    (∃ q, parse input = .ok q) ↔ Written (trimBoth isBlank input.toList) := by
  obtain ⟨body, trimmed⟩ : ∃ body, trimBoth isBlank input.toList = body := ⟨_, rfl⟩
  simp only [parse_ok, trimmed]
  constructor
  · rintro ⟨q, mantissa, factor, number, unit, -⟩
    obtain ⟨sign, ns, suffix, split, rfl, signText, numeric⟩ := splitNumber_parts body
    rw [split] at number unit
    exact .intro signText (numeral_of_ofChars? signText numeric number)
      (multiplier?_iff.mp ⟨factor, unit⟩)
  · intro written
    cases written with
    | intro signText numeral unit =>
        rw [splitNumber_append signText numeral unit.further]
        obtain ⟨mantissa, number⟩ := ofChars?_numeral signText numeral
        obtain ⟨factor, scale⟩ := multiplier?_iff.mpr unit
        exact ⟨_, mantissa, factor, number, scale, rfl⟩

/-- A text is a quantity exactly if it is written as one between its blanks. The scan for the end
of the number never stops inside a character, whatever the text is. The quantity keeps the text
without the blanks, and reading that text, or what is written for the quantity, gives the quantity
again with the same value. -/
theorem parse_grammar (input : String) :
    ∃ body : List Char, Trims input.toList body ∧
      ((∃ q, parse input = .ok q) ↔ Written body) ∧
      String.Pos.Raw.IsValid (.ofList body)
        ⟨numberEnd (String.ofList body).toByteArray.data.toList⟩ ∧
      ∀ q, parse input = .ok q →
        q.text = .ofList body ∧ parse q.text = .ok q ∧
          Codec.quantity.read (Codec.quantity.write q) = .ok q := by
  refine ⟨trimBoth isBlank input.toList, trims_trimBoth _, exists_parse_iff input,
    numberEnd_isValid _, ?_⟩
  intro q read
  have again := parse_text read
  have text : q.text = .ofList (trimBoth isBlank input.toList) := by
    obtain ⟨mantissa, factor, -, -, rfl⟩ := parse_ok.mp read
    rfl
  have reread : Codec.quantity.read (Codec.quantity.write q) = .ok q := by
    apply bind_ok.mpr
    exact ⟨q.text, rfl, mapError_ok.mpr again⟩
  exact ⟨text, again, reread⟩

/-- Blanks of two kinds around a number with a sign, a point and an exponent; and an exponent that
is too large. -/
theorem parse_grammar_samples :
    (∃ q, parse " -12.5e-3\u2003" = .ok q ∧ q.text = "-12.5e-3" ∧ parse "-12.5e-3" = .ok q) ∧
      ∃ body, Trims "1E2147483648".toList body ∧ ¬Written body := by
  constructor
  · have text : (parse " -12.5e-3\u2003").toOption.map (·.text) = some "-12.5e-3" := by
      decide
    obtain ⟨q, read, same⟩ := exists_ok text
    obtain ⟨_, _, _, _, kept⟩ := parse_grammar " -12.5e-3\u2003"
    obtain ⟨-, again, -⟩ := kept q read
    rw [same] at again
    exact ⟨q, read, same, again⟩
  · have refused : (parse "1E2147483648").toOption = none := by decide
    obtain ⟨body, trims, accepted, -, -⟩ := parse_grammar "1E2147483648"
    refine ⟨body, trims, ?_⟩
    intro written
    obtain ⟨q, read⟩ := accepted.mpr written
    rw [read] at refused
    cases refused

end Quantity

end JobContainers

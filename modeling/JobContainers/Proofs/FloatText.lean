import JobContainers.Proofs.QuantityNumber
import JobContainers.Yaml.Node

set_option autoImplicit false

namespace JobContainers

open Quantity (SignText Numeral PowerText isSign)

namespace Decimal

theorem written_of_ofChars? {cs : List Char} {d : Decimal} (read : ofChars? cs = some d) :
    ∃ sign number power, cs = sign ++ (number ++ power) ∧ SignText sign ∧ Numeral number ∧
      PowerText power := by
  obtain ⟨sign, signText, parts, -⟩ := Quantity.splitSign_parts cs
  have whole := Quantity.digits_takeWhile (splitSign cs).2
  have body := List.takeWhile_append_dropWhile (p := Char.isDigit) (l := (splitSign cs).2)
  rw [ofChars?] at read
  dsimp only at read
  split at read
  next tail pointed =>
    rw [pointed] at body
    split at read
    next => cases read
    next someDigit =>
      obtain ⟨e, exponent, -⟩ := Option.map_eq_some_iff.mp read
      refine ⟨sign, _ ++ '.' :: tail.takeWhile Char.isDigit, tail.dropWhile Char.isDigit, ?_,
        signText, .pointed whole (Quantity.digits_takeWhile tail) ?_,
        Quantity.exponent?_iff.mp ⟨e, exponent⟩⟩
      · rw [List.append_assoc, List.cons_append, List.takeWhile_append_dropWhile, body]
        exact parts
      · simpa [or_iff_not_imp_left] using someDigit
  next unpointed =>
    split at read
    next => cases read
    next someDigit =>
      obtain ⟨e, exponent, -⟩ := Option.map_eq_some_iff.mp read
      refine ⟨sign, _, _, ?_, signText, .whole whole ?_, Quantity.exponent?_iff.mp ⟨e, exponent⟩⟩
      · rw [body]
        exact parts
      · simpa using someDigit

end Decimal

namespace Yaml.Node

/-- The texts that read as floating-point numbers, the ones that are not finite among them. -/
inductive FloatText : List Char → Prop where
  | number {sign number power : List Char} (signText : SignText sign) (numeral : Numeral number)
      (text : PowerText power) : FloatText (sign ++ (number ++ power))
  | name {sign name : List Char} (signText : SignText sign)
      (named : String.ofList (name.map Char.toLower) ∈ ["inf", "infinity", "nan"]) :
      FloatText (sign ++ name)

theorem isNonFinite_iff {cs : List Char} :
    isNonFinite cs = true ↔ ∃ sign name, cs = sign ++ name ∧ SignText sign ∧
      String.ofList (name.map Char.toLower) ∈ ["inf", "infinity", "nan"] := by
  rw [isNonFinite, List.contains_iff_mem]
  constructor
  · intro named
    obtain ⟨sign, signText, parts, -⟩ := Quantity.splitSign_parts cs
    exact ⟨sign, _, parts, signText, named⟩
  · rintro ⟨sign, name, rfl, signText, named⟩
    have unsigned : ∀ c ∈ name.head?, isSign c = false := by
      have letters : ∀ s ∈ ["inf", "infinity", "nan"], ∀ c ∈ s.toList.head?, isSign c = false := by
        simp [isSign]
      intro c head
      have letter := letters _ named c.toLower (by simp [Option.mem_def.mp head])
      rw [Bool.eq_false_iff] at letter ⊢
      intro signed
      cases Quantity.SignText.of_isSign signed with
      | plus | minus => exact letter rfl
    rw [Quantity.splitSign_append signText unsigned]
    exact named

theorem readsAsFloat_iff {text : String} :
    readsAsFloat text = true ↔ FloatText text.toList := by
  rw [readsAsFloat, Bool.or_eq_true, isNonFinite_iff, Option.isSome_iff_exists]
  constructor
  · rintro (⟨sign, name, parts, signText, named⟩ | ⟨d, read⟩)
    · rw [parts]
      exact .name signText named
    · obtain ⟨sign, number, power, parts, signText, numeral, text⟩ :=
        Decimal.written_of_ofChars? read
      rw [parts]
      exact .number signText numeral text
  · intro written
    generalize text.toList = cs at written
    cases written with
    | number signText numeral text => exact .inr (Quantity.ofChars?_written signText numeral text)
    | name signText named => exact .inl ⟨_, _, rfl, signText, named⟩

end Yaml.Node

end JobContainers

import JobContainers.Proofs.QuantityGrammar
import JobContainers.Tree
import Mathlib.Algebra.Group.Nat.Defs

/-!
Numbers as they are printed are quantities. Whole numbers are digits behind an optional sign; other
numbers have a point, an exponent or both, and the exponent of a double has few digits.
-/

set_option autoImplicit false

namespace JobContainers

namespace Quantity

theorem Digits.append {ds es : List Char} (first : Digits ds) (second : Digits es) :
    Digits (ds ++ es) := by
  intro c member
  rcases List.mem_append.mp member with member | member
  · exact first c member
  · exact second c member

theorem Digits.sublist {ds es : List Char} (digits : Digits ds) (part : es.Sublist ds) :
    Digits es := by
  intro c member
  exact digits c (part.mem member)

theorem digits_zeros (n : Nat) : Digits (Decimal.zeros n) := by
  intro c member
  rw [Decimal.zeros, List.mem_replicate] at member
  rw [member.2]
  rfl

/-! Quantities have no blanks -/

theorem isBlank_of_isDigit {c : Char} (digit : c.isDigit = true) : isBlank c = false := by
  rw [Char.isDigit_iff_toNat] at digit
  simp only [Char.reduceToNat] at digit
  simp [isBlank, blankRanges]
  omega

theorem unblank_of_all {cs : List Char} (all : cs.all (!isBlank ·) = true) :
    ∀ c ∈ cs, isBlank c = false := by
  simpa using all

theorem SignText.unblank {sign : List Char} (signText : SignText sign) :
    ∀ c ∈ sign, isBlank c = false := by
  cases signText <;> exact unblank_of_all (by decide)

theorem Numeral.unblank {number : List Char} (numeral : Numeral number) :
    ∀ c ∈ number, isBlank c = false := by
  intro c member
  rcases isNumeric_iff.mp (numeral.numeric c member) with digit | rfl
  · exact isBlank_of_isDigit digit
  · decide

theorem Suffix.unblank {suffix : List Char} (unit : Suffix suffix) :
    ∀ c ∈ suffix, isBlank c = false := by
  have binary : ∀ c ∈ binaryUnits, isBlank c = false := unblank_of_all (by decide)
  have decimal : ∀ c ∈ decimalUnits, isBlank c = false := unblank_of_all (by decide)
  have marks : isBlank 'i' = false ∧ isBlank 'e' = false ∧ isBlank 'E' = false := by decide
  intro c member
  cases unit with
  | absent => cases member
  | binary known =>
      simp only [List.mem_cons, List.not_mem_nil, or_false] at member
      rcases member with rfl | rfl
      · exact binary c known
      · exact marks.1
  | decimal known =>
      obtain rfl := List.mem_singleton.mp member
      exact decimal c known
  | exponent marked signText digits _ _ =>
      simp only [List.mem_cons, List.mem_append] at member
      rcases member with rfl | sign | digit
      · rcases marked with rfl | rfl
        · exact marks.2.1
        · exact marks.2.2
      · exact signText.unblank c sign
      · exact isBlank_of_isDigit (digits c digit)

theorem Written.unblank {cs : List Char} (written : Written cs) :
    ∀ c ∈ cs, isBlank c = false := by
  cases written with
  | intro signText numeral unit =>
      intro c member
      simp only [List.mem_append] at member
      rcases member with (sign | number) | suffix
      · exact signText.unblank c sign
      · exact numeral.unblank c number
      · exact unit.unblank c suffix

theorem trimBoth_of_unblank {cs : List Char} (unblank : ∀ c ∈ cs, isBlank c = false) :
    trimBoth isBlank cs = cs := by
  have kept : ∀ ds : List Char, (∀ c ∈ ds, isBlank c = false) → ds.dropWhile isBlank = ds := by
    intro ds shown
    cases ds with
    | nil => rfl
    | cons d ds => rw [List.dropWhile_cons, shown d List.mem_cons_self, if_neg Bool.false_ne_true]
  have back : ∀ c ∈ cs.reverse, isBlank c = false := by
    intro c member
    exact unblank c (List.mem_reverse.mp member)
  rw [trimBoth, kept cs unblank, kept cs.reverse back, List.reverse_reverse]

theorem Written.parse {cs : List Char} (written : Written cs) :
    ∃ q, Quantity.parse (.ofList cs) = .ok q ∧ q.text = .ofList cs := by
  have trimmed : trimBoth isBlank (String.ofList cs).toList = cs := by
    rw [String.toList_ofList]
    exact trimBoth_of_unblank written.unblank
  have accepted : ∃ q, Quantity.parse (.ofList cs) = .ok q := by
    rw [exists_parse_iff, trimmed]
    exact written
  obtain ⟨q, read⟩ := accepted
  obtain ⟨mantissa, factor, -, -, made⟩ := parse_ok.mp read
  refine ⟨q, read, ?_⟩
  rw [made, trimmed]

/-! Decimals -/

theorem numeral_positionalText {ds : List Char} (digits : Digits ds) (nonempty : ds ≠ [])
    (exponent : Int) : Numeral (Decimal.positionalText ds exponent) := by
  rw [Decimal.positionalText]
  split
  · have zero : Digits ['0'] := digits_zeros 1
    have padded : Digits (ds ++ Decimal.zeros exponent.toNat) := digits.append (digits_zeros _)
    exact .pointed padded zero (.inr (by simp))
  · dsimp only
    split
    · rename_i places
      have front : Digits (ds.take (ds.length - exponent.natAbs)) :=
        digits.sublist (List.take_sublist _ _)
      have back : Digits (ds.drop (ds.length - exponent.natAbs)) :=
        digits.sublist (List.drop_sublist _ _)
      have some : ds.take (ds.length - exponent.natAbs) ≠ [] := by
        rw [ne_eq, List.take_eq_nil_iff, not_or]
        exact ⟨by omega, nonempty⟩
      exact .pointed front back (.inl some)
    · have zero : Digits ['0'] := digits_zeros 1
      exact .pointed zero ((digits_zeros _).append digits) (.inl (by simp))

theorem suffix_exponent (magnitude : Int) (plusSign : Bool)
    (fits : -2 ^ 31 ≤ magnitude ∧ magnitude < 2 ^ 31) :
    Suffix ('e' :: ((if magnitude < 0 then ['-'] else if plusSign then ['+'] else []) ++
      Decimal.digitText magnitude.natAbs)) := by
  have digits : Digits (Decimal.digitText magnitude.natAbs) := Decimal.digits_digitText _
  have nonempty := Decimal.digitText_ne_nil magnitude.natAbs
  by_cases negative : magnitude < 0
  · have value : signed ['-'] (Decimal.digitText magnitude.natAbs) = magnitude := by
      rw [signed, if_pos rfl, Decimal.ofDigits_digitText]
      omega
    rw [if_pos negative]
    exact .exponent (.inl rfl) .minus digits nonempty (by rw [value]; exact fits)
  · have small : ∀ sign, sign ≠ ['-'] →
        -2 ^ 31 ≤ signed sign (Decimal.digitText magnitude.natAbs) ∧
          signed sign (Decimal.digitText magnitude.natAbs) < 2 ^ 31 := by
      intro sign positive
      rw [signed, if_neg positive, Decimal.ofDigits_digitText]
      omega
    rw [if_neg negative]
    cases plusSign with
    | true => exact .exponent (.inl rfl) .plus digits nonempty (small _ (by decide))
    | false => exact .exponent (.inl rfl) .absent digits nonempty (small _ (by decide))

theorem scientificText_parts {ds : List Char} (digits : Digits ds) (nonempty : ds ≠ [])
    {magnitude : Int} (plusSign : Bool) (fits : -2 ^ 31 ≤ magnitude ∧ magnitude < 2 ^ 31) :
    ∃ number suffix, Decimal.scientificText ds magnitude plusSign = number ++ suffix ∧
      Numeral number ∧ Suffix suffix := by
  have unit := suffix_exponent magnitude plusSign fits
  match ds with
  | [d] => exact ⟨[d], _, rfl, .whole digits nonempty, unit⟩
  | first :: second :: rest =>
      have front : Digits [first] :=
        digits.sublist (List.singleton_sublist.mpr List.mem_cons_self)
      have back : Digits (second :: rest) := digits.sublist (List.sublist_cons_self _ _)
      refine ⟨[first] ++ '.' :: second :: rest, _, ?_, .pointed front back (.inl (by simp)), unit⟩
      simp [Decimal.scientificText]

/-- A decimal is written as a quantity if the power of ten of its leading digit fits 32 bits. -/
theorem written_toChars (style : NumberText) (d : Decimal)
    (fits : -2 ^ 31 ≤ d.magnitude ∧ d.magnitude < 2 ^ 31) : Written (d.toChars style) := by
  have digits : Digits (Decimal.digitText d.digits) := Decimal.digits_digitText _
  have nonempty := Decimal.digitText_ne_nil d.digits
  have body : ∃ number suffix, (if style.positional d.magnitude then
      Decimal.positionalText (Decimal.digitText d.digits) d.exponent
      else Decimal.scientificText (Decimal.digitText d.digits) d.magnitude style.plusSign) =
        number ++ suffix ∧ Numeral number ∧ Suffix suffix := by
    split
    · exact ⟨_, [], (List.append_nil _).symm, numeral_positionalText digits nonempty _, .absent⟩
    · exact scientificText_parts digits nonempty style.plusSign fits
  obtain ⟨number, suffix, parts, numeral, unit⟩ := body
  simp only [Decimal.toChars, parts]
  split
  · exact .intro .minus numeral unit
  · exact .intro .absent numeral unit

theorem written_integerText (n : Int) : Written (integerText n) := by
  have digits : Digits (Decimal.digitText n.natAbs) := Decimal.digits_digitText _
  have numeral : Numeral (Decimal.digitText n.natAbs) :=
    .whole digits (Decimal.digitText_ne_nil n.natAbs)
  rw [integerText]
  split
  · simpa using Written.intro .minus numeral .absent
  · simpa using Written.intro .absent numeral .absent

end Quantity

namespace Binary64

/-! How many digits a double has -/

theorem significand_lt {x : Binary64} {significand : Nat} {exponent : Int}
    (finite : x.magnitude = .finite significand exponent) :
    significand < 2 ^ 53 ∧ -1074 ≤ exponent ∧ exponent ≤ 971 := by
  have fractions : fractionLimit = 4503599627370496 := by decide
  have exponents : exponentLimit = 2048 := by decide
  have fraction : x.bits.toNat % fractionLimit < fractionLimit := Nat.mod_lt _ (by omega)
  have field : x.bits.toNat / fractionLimit % exponentLimit < exponentLimit :=
    Nat.mod_lt _ (by omega)
  simp only [magnitude] at finite
  split at finite
  · split at finite <;> cases finite
  split at finite
  · cases finite
    rw [leastExponent]
    omega
  · cases finite
    rw [leastExponent]
    omega

theorem log2_le {n k : Nat} (small : n ≤ 2 ^ k) : n.log2 ≤ k := by
  by_cases zero : n = 0
  · rw [zero, Nat.log2_zero]
    exact Nat.zero_le k
  · rw [← Nat.lt_succ_iff, Nat.log2_lt zero]
    exact Nat.lt_of_le_of_lt small (Nat.pow_lt_pow_succ (by decide))

/-- How large the numbers of a double's interval are, as powers of two. -/
theorem interval_bounds {significand : Nat} {exponent : Int} (size : significand < 2 ^ 53)
    (least : -1074 ≤ exponent) (most : exponent ≤ 971) :
    ∃ above below : Nat, above ≤ 1024 ∧ below ≤ 1076 ∧
      (interval significand exponent).middle ≤ 2 ^ above ∧
      (interval significand exponent).denominator ≤ 2 ^ below := by
  simp only [interval]
  split
  · refine ⟨55 + (exponent - 2).natAbs, 0, by omega, by omega, ?_, Nat.le_refl 1⟩
    rw [Nat.one_shiftLeft, Nat.pow_add]
    exact Nat.mul_le_mul_right _ (by omega)
  · refine ⟨55, (2 - exponent).natAbs, by omega, by omega, ?_, ?_⟩
    · omega
    · rw [Nat.one_shiftLeft]

theorem topPower_bounds {i : Interval} {above below : Nat} (middle : i.middle ≤ 2 ^ above)
    (denominator : i.denominator ≤ 2 ^ below) (high : above ≤ 1024) (low : below ≤ 1076) :
    -268 ≤ i.topPower ∧ i.topPower ≤ 342 := by
  have numerators : i.middle.log2 ≤ above := log2_le middle
  have denominators : i.denominator.log2 ≤ below := log2_le denominator
  simp only [Interval.topPower]
  split <;> omega

/-- By induction on the fuel: the power goes down by one with each grid that has no point. -/
theorem coarsest_bounds (i : Interval) (fuel : Nat) (power : Int) :
    power - fuel ≤ (i.coarsest fuel power).2 ∧ (i.coarsest fuel power).2 ≤ power ∧
      ((i.coarsest fuel power).1 = 0 ∨
        i.gridPoint? (i.coarsest fuel power).2 = some (i.coarsest fuel power).1) := by
  induction fuel generalizing power with
  | zero => simp [Interval.coarsest]
  | succ fuel ih =>
      rw [Interval.coarsest]
      split
      · rename_i found
        exact ⟨by omega, by omega, .inr found⟩
      · have rest := ih (power - 1)
        exact ⟨by omega, by omega, rest.2.2⟩

theorem gridPoint?_le {i : Interval} {power : Int} {digits : Nat}
    (found : i.gridPoint? power = some digits) : digits ≤ i.middle * 10 ^ power.natAbs + 1 := by
  obtain ⟨up, down, scales, bound⟩ : ∃ up down : Nat,
      (if 0 ≤ power then (Nat.pow 10 power.natAbs, 1) else (1, Nat.pow 10 power.natAbs)) =
        (up, down) ∧ down ≤ 10 ^ power.natAbs := by
    split
    · exact ⟨_, _, rfl, Nat.one_le_pow _ _ (by decide)⟩
    · exact ⟨_, _, rfl, Nat.le_refl _⟩
  have below : i.middle * down / (i.denominator * up) ≤ i.middle * 10 ^ power.natAbs :=
    Nat.le_trans (Nat.div_le_self _ _) (Nat.mul_le_mul_left _ bound)
  -- whichever point is taken, it is the one below the middle or the one behind that
  simp only [Interval.gridPoint?, scales] at found
  split at found
  · split at found
    · cases found
      omega
    · split at found
      · cases found
        omega
      · cases found
        omega
  · cases found
    omega
  · cases found
    omega
  · cases found

theorem length_digitText_le {digits bound : Nat} (small : digits ≤ 10 ^ bound + 1) :
    (Decimal.digitText digits).length ≤ bound + 1 := by
  have grows : 10 ^ bound + 1 < 10 ^ (bound + 1) := by
    have positive : 0 < 10 ^ bound := Nat.pow_pos (by decide)
    rw [Nat.pow_succ]
    omega
  rw [Decimal.digitText, Nat.length_toDigits_le_iff (by decide) (Nat.succ_pos bound)]
  exact Nat.lt_of_le_of_lt small grows

theorem length_coarsest {i : Interval} {above : Nat} (middle : i.middle ≤ 2 ^ above) (fuel : Nat)
    (power : Int) : (Decimal.digitText (i.coarsest fuel power).1).length ≤
      above + (i.coarsest fuel power).2.natAbs + 1 := by
  have reached := (coarsest_bounds i fuel power).2.2
  generalize i.coarsest fuel power = point at reached ⊢
  have base : i.middle ≤ 10 ^ above :=
    Nat.le_trans middle (Nat.pow_le_pow_left (by decide) above)
  apply length_digitText_le
  rcases reached with nothing | found
  · rw [nothing]
    exact Nat.zero_le _
  · calc
      point.1 ≤ i.middle * 10 ^ point.2.natAbs + 1 := gridPoint?_le found
      _ ≤ 10 ^ above * 10 ^ point.2.natAbs + 1 := Nat.succ_le_succ (Nat.mul_le_mul_right _ base)
      _ = 10 ^ (above + point.2.natAbs) + 1 := by rw [Nat.pow_add]

theorem shortest_magnitude (x : Binary64) :
    -325 ≤ x.shortest.magnitude ∧ x.shortest.magnitude ≤ 1708 := by
  have single : (Decimal.digitText 0).length = 1 := rfl
  rw [shortest]
  split
  · rename_i significand exponent finite
    split
    · simp [Decimal.magnitude, single]
    · obtain ⟨size, least, most⟩ := significand_lt finite
      obtain ⟨above, below, high, low, middle, denominator⟩ := interval_bounds size least most
      generalize interval significand exponent = i at middle denominator ⊢
      have top := topPower_bounds middle denominator high low
      have reached := coarsest_bounds i (i.topPower + 325).toNat i.topPower
      have length := length_coarsest middle (i.topPower + 325).toNat i.topPower
      dsimp only
      generalize i.coarsest (i.topPower + 325).toNat i.topPower = point at reached length ⊢
      -- what the power loses on finer grids, the number gains in digits
      have nonempty : 0 < (Decimal.digitText point.1).length :=
        List.length_pos_iff.mpr (Decimal.digitText_ne_nil point.1)
      simp only [Decimal.magnitude]
      omega
  · simp [Decimal.magnitude, single]

end Binary64

def Number.isFinite : Number → Bool
  | .int _ => true
  | .float x => x.isFinite

theorem Number.written_text {n : Number} (finite : n.isFinite = true) :
    Quantity.Written n.text := by
  cases n with
  | int value => exact Quantity.written_integerText value
  | float x =>
      have reals : x.isFinite = true := finite
      have few := x.shortest_magnitude
      rw [text, if_pos reals]
      exact Quantity.written_toChars spelling x.shortest ⟨by omega, by omega⟩

end JobContainers

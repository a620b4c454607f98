import JobContainers.Quantity
import Mathlib.Data.List.Basic
import Mathlib.Data.List.TakeWhile
import Mathlib.Tactic.Common

/-!
The number in front of a quantity. A number is an optional sign and digits with at most one point.
What the scan takes as the number may hold more points; the number reader refuses those. The scan
ends at the same place whether it goes over characters or over bytes.
-/

set_option autoImplicit false

namespace JobContainers

namespace Quantity

inductive SignText : List Char → Prop where
  | absent : SignText []
  | plus : SignText ['+']
  | minus : SignText ['-']

def Digits (ds : List Char) : Prop := ∀ c ∈ ds, c.isDigit = true

/-- Digits with at most one point and at least one digit. -/
inductive Numeral : List Char → Prop where
  | whole {ds : List Char} (digits : Digits ds) (nonempty : ds ≠ []) : Numeral ds
  | pointed {ds es : List Char} (digits : Digits ds) (places : Digits es)
      (nonempty : ds ≠ [] ∨ es ≠ []) : Numeral (ds ++ '.' :: es)

def signed (sign ds : List Char) : Int :=
  if sign = ['-'] then -(Decimal.ofDigits ds : Int) else Decimal.ofDigits ds

def isNumeric (c : Char) : Bool := c.isDigit || c = '.'

theorem isNumeric_iff {c : Char} : isNumeric c = true ↔ c.isDigit = true ∨ c = '.' := by
  simp [isNumeric]

theorem not_isSign_of_isNumeric {c : Char} (numeric : isNumeric c = true) : isSign c = false := by
  rcases isNumeric_iff.mp numeric with digit | rfl
  · by_contra sign
    simp only [isSign, Bool.not_eq_false, Bool.or_eq_true, decide_eq_true_eq] at sign
    rcases sign with rfl | rfl <;> simp at digit
  · rfl

theorem SignText.of_isSign {c : Char} (sign : isSign c = true) : SignText [c] := by
  simp only [isSign, Bool.or_eq_true, decide_eq_true_eq] at sign
  rcases sign with rfl | rfl
  · exact .plus
  · exact .minus

theorem Numeral.numeric {ns : List Char} (numeral : Numeral ns) :
    ∀ c ∈ ns, isNumeric c = true := by
  intro c member
  rw [isNumeric_iff]
  cases numeral with
  | whole digits _ => exact .inl (digits c member)
  | pointed digits places _ =>
      simp only [List.mem_append, List.mem_cons] at member
      rcases member with member | rfl | member
      · exact .inl (digits c member)
      · exact .inr rfl
      · exact .inl (places c member)

theorem Numeral.ne_nil {ns : List Char} (numeral : Numeral ns) : ns ≠ [] := by
  cases numeral with
  | whole _ nonempty => exact nonempty
  | pointed _ _ _ => simp

theorem Numeral.head_unsigned {ns : List Char} (numeral : Numeral ns) :
    ∀ c ∈ ns.head?, isSign c = false := by
  intro c head
  exact not_isSign_of_isNumeric (numeral.numeric c (List.mem_of_mem_head? head))

/-! Reading a number -/

theorem splitSign_append {sign cs : List Char} (signText : SignText sign)
    (unsigned : ∀ c ∈ cs.head?, isSign c = false) :
    Decimal.splitSign (sign ++ cs) = (decide (sign = ['-']), cs) := by
  cases signText with
  | plus | minus => rfl
  | absent =>
      cases cs with
      | nil => rfl
      | cons c cs =>
          have outside : c ≠ '+' ∧ c ≠ '-' := by simpa [isSign] using unsigned
          simp [Decimal.splitSign, outside]

theorem splitSign_parts (cs : List Char) :
    ∃ sign, SignText sign ∧ cs = sign ++ (Decimal.splitSign cs).2 ∧
      (Decimal.splitSign cs).1 = decide (sign = ['-']) := by
  unfold Decimal.splitSign
  split
  · exact ⟨['-'], .minus, rfl, rfl⟩
  · exact ⟨['+'], .plus, rfl, rfl⟩
  · exact ⟨[], .absent, rfl, rfl⟩

theorem Digits.takeWhile {ds : List Char} (digits : Digits ds) : ds.takeWhile Char.isDigit = ds :=
  List.takeWhile_eq_self_iff.mpr digits

theorem integer?_iff {cs : List Char} {n : Int} :
    Decimal.integer? cs = some n ↔
      ∃ sign ds, cs = sign ++ ds ∧ SignText sign ∧ Digits ds ∧ ds ≠ [] ∧ n = signed sign ds := by
  constructor
  · intro read
    obtain ⟨sign, signText, parts, negative⟩ := splitSign_parts cs
    simp only [Decimal.integer?, negative] at read
    split at read
    · cases read
    · rename_i checked
      have shape : (Decimal.splitSign cs).2 ≠ [] ∧ Digits (Decimal.splitSign cs).2 := by
        simpa [Digits] using checked
      refine ⟨sign, (Decimal.splitSign cs).2, parts, signText, shape.2, shape.1, ?_⟩
      simpa [signed] using (Option.some.inj read).symm
  · rintro ⟨sign, ds, rfl, signText, digits, nonempty, rfl⟩
    have unsigned : ∀ c ∈ ds.head?, isSign c = false :=
      (Numeral.whole digits nonempty).head_unsigned
    have checked : ¬(ds.isEmpty || !ds.all Char.isDigit) = true := by
      simpa [nonempty, Digits] using digits
    simp only [Decimal.integer?, splitSign_append signText unsigned, checked, signed]
    simp

theorem integer?_digitText (n : Nat) : Decimal.integer? (Decimal.digitText n) = some (n : Int) := by
  have value : (n : Int) = signed [] (Decimal.digitText n) := by
    rw [signed, if_neg nofun, Decimal.ofDigits_digitText]
  exact integer?_iff.mpr ⟨[], _, rfl, .absent, Decimal.digits_digitText n,
    Decimal.digitText_ne_nil n, value⟩

theorem integer?_integerText (n : Int) : Decimal.integer? (integerText n) = some n := by
  rw [integerText]
  split
  · have value : n = signed ['-'] (Decimal.digitText n.natAbs) := by
      rw [signed, if_pos rfl, Decimal.ofDigits_digitText]
      omega
    exact integer?_iff.mpr ⟨['-'], _, rfl, .minus, Decimal.digits_digitText _,
      Decimal.digitText_ne_nil _, value⟩
  · rw [integer?_digitText]
    congr 1
    omega

inductive PowerText : List Char → Prop where
  | absent : PowerText []
  | marked {mark : Char} {sign ds : List Char} (marked : mark = 'e' ∨ mark = 'E')
      (signText : SignText sign) (digits : Digits ds) (nonempty : ds ≠ []) :
      PowerText (mark :: (sign ++ ds))

theorem exponent?_iff {cs : List Char} : (∃ e, Decimal.exponent? cs = some e) ↔ PowerText cs := by
  constructor
  · rintro ⟨e, read⟩
    cases cs with
    | nil => exact .absent
    | cons mark rest =>
        rw [Decimal.exponent?] at read
        split at read
        next marked =>
          obtain ⟨sign, ds, rfl, signText, digits, nonempty, -⟩ := integer?_iff.mp read
          exact .marked marked signText digits nonempty
        next => cases read
  · intro power
    cases power with
    | absent => exact ⟨0, rfl⟩
    | @marked mark sign ds marked signText digits nonempty =>
        refine ⟨signed sign ds, ?_⟩
        rw [Decimal.exponent?, if_pos marked]
        exact integer?_iff.mpr ⟨sign, ds, rfl, signText, digits, nonempty, rfl⟩

theorem PowerText.further {power : List Char} (text : PowerText power) :
    ∀ c ∈ power.head?, isNumeric c = false := by
  cases text with
  | absent => simp
  | marked marked _ _ _ => rcases marked with rfl | rfl <;> simp [isNumeric]

theorem digits_append {ds rest : List Char} (digits : Digits ds)
    (further : ∀ c ∈ rest.head?, c.isDigit = false) :
    (ds ++ rest).takeWhile Char.isDigit = ds ∧ (ds ++ rest).dropWhile Char.isDigit = rest := by
  rw [List.takeWhile_append_of_pos digits, List.dropWhile_append_of_pos digits]
  cases rest with
  | nil => exact ⟨List.append_nil ds, rfl⟩
  | cons c rest =>
      have outside : c.isDigit = false := further c rfl
      simp [outside]

theorem ofChars?_written {sign number power : List Char} (signText : SignText sign)
    (numeral : Numeral number) (text : PowerText power) :
    ∃ m, Decimal.ofChars? (sign ++ (number ++ power)) = some m := by
  obtain ⟨e, read⟩ := exponent?_iff.mpr text
  have unsigned : ∀ c ∈ (number ++ power).head?, isSign c = false := by
    rw [List.head?_append_of_ne_nil number numeral.ne_nil]
    exact numeral.head_unsigned
  have outside : ∀ c ∈ power.head?, c.isDigit = false ∧ c ≠ '.' := by
    intro c head
    have further := text.further c head
    rw [Bool.eq_false_iff, ne_eq, isNumeric_iff, not_or] at further
    exact ⟨Bool.eq_false_iff.mpr further.1, further.2⟩
  have ends := fun c head => (outside c head).1
  rw [Decimal.ofChars?, splitSign_append signText unsigned]
  cases numeral with
  | whole digits nonempty =>
      obtain ⟨front, behind⟩ := digits_append digits ends
      simp only [front, behind]
      split
      next tail => exact absurd rfl (outside '.' rfl).2
      next => simp [nonempty, read]
  | @pointed ds es digits places nonempty =>
      obtain ⟨fraction, rest⟩ := digits_append places ends
      have point : ∀ c ∈ ('.' :: (es ++ power)).head?, c.isDigit = false := by simp
      obtain ⟨front, behind⟩ := digits_append digits point
      have someDigit : ¬(ds = [] ∧ es = []) := by tauto
      simp [front, behind, fraction, rest, someDigit, read]

theorem ofChars?_numeral {sign ns : List Char} (signText : SignText sign) (numeral : Numeral ns) :
    ∃ m, Decimal.ofChars? (sign ++ ns) = some m := by
  have read := ofChars?_written signText numeral .absent
  rwa [List.append_nil] at read

theorem digits_takeWhile (cs : List Char) : Digits (cs.takeWhile Char.isDigit) :=
  fun _ member => List.mem_takeWhile_imp member

theorem point_of_dropWhile {ns tail : List Char} {d : Char}
    (numeric : ∀ c ∈ ns, isNumeric c = true)
    (behind : ns.dropWhile Char.isDigit = d :: tail) :
    d = '.' ∧ ∀ c ∈ tail, isNumeric c = true := by
  have within : ∀ c ∈ d :: tail, isNumeric c = true := by
    intro c member
    rw [← behind] at member
    exact numeric c ((List.dropWhile_suffix _).mem member)
  have outside : d.isDigit = false := by
    apply head?_dropWhile Char.isDigit ns
    rw [behind]
    rfl
  have first := isNumeric_iff.mp (within d List.mem_cons_self)
  rw [outside] at first
  exact ⟨by simpa using first, fun c member => within c (List.mem_cons_of_mem _ member)⟩

theorem digits_of_exponent? {ns : List Char} {e : Int} (numeric : ∀ c ∈ ns, isNumeric c = true)
    (read : Decimal.exponent? (ns.dropWhile Char.isDigit) = some e) : Digits ns := by
  cases behind : ns.dropWhile Char.isDigit with
  | nil =>
      have parts := List.takeWhile_append_dropWhile (p := Char.isDigit) (l := ns)
      rw [behind, List.append_nil] at parts
      rw [← parts]
      exact digits_takeWhile ns
  | cons d tail =>
      obtain ⟨rfl, -⟩ := point_of_dropWhile numeric behind
      rw [behind] at read
      simp [Decimal.exponent?] at read

theorem numeral_of_ofChars? {sign ns : List Char} {m : Decimal} (signText : SignText sign)
    (numeric : ∀ c ∈ ns, isNumeric c = true)
    (read : Decimal.ofChars? (sign ++ ns) = some m) : Numeral ns := by
  have unsigned : ∀ c ∈ ns.head?, isSign c = false := by
    intro c head
    exact not_isSign_of_isNumeric (numeric c (List.mem_of_mem_head? head))
  have parts := List.takeWhile_append_dropWhile (p := Char.isDigit) (l := ns)
  have digits := digits_takeWhile ns
  rw [Decimal.ofChars?, splitSign_append signText unsigned] at read
  cases behind : ns.dropWhile Char.isDigit with
  | nil =>
      rw [behind, List.append_nil] at parts
      rw [parts] at digits
      apply Numeral.whole digits
      rintro rfl
      simp at read
  | cons d tail =>
      obtain ⟨rfl, numeric'⟩ := point_of_dropWhile numeric behind
      simp only [behind] at read
      split at read
      · cases read
      · rename_i someDigit
        obtain ⟨e, exponent, -⟩ := Option.map_eq_some_iff.mp read
        have places := digits_of_exponent? numeric' exponent
        rw [places.takeWhile] at someDigit
        rw [← parts, behind]
        apply Numeral.pointed digits places
        simpa [or_iff_not_imp_left] using someDigit

/-! Where the number ends -/

/-- A single sign is taken off; of two signs the second one is not part of the number. -/
theorem splitNumber_sign {sign rest : List Char} (signText : SignText sign)
    (unsigned : sign = [] → ∀ c ∈ rest.head?, isSign c = false) :
    splitNumber (sign ++ rest) =
      (sign ++ rest.takeWhile isNumeric, rest.dropWhile isNumeric) := by
  cases signText with
  | plus | minus => rfl
  | absent =>
      cases rest with
      | nil => rfl
      | cons c rest =>
          have outside : isSign c = false := unsigned rfl c rfl
          simp only [splitNumber, List.take_succ_cons, List.take_zero, List.nil_append,
            List.filter_cons, outside]
          rfl

theorem exists_sign (cs : List Char) :
    ∃ sign rest, cs = sign ++ rest ∧ SignText sign ∧
      (sign = [] → ∀ c ∈ rest.head?, isSign c = false) := by
  cases cs with
  | nil => exact ⟨[], [], rfl, .absent, by simp⟩
  | cons c cs =>
      cases sign : isSign c with
      | true => exact ⟨[c], cs, rfl, .of_isSign sign, by simp⟩
      | false => exact ⟨[], c :: cs, rfl, .absent, by simp [sign]⟩

theorem splitNumber_append {sign ns suffix : List Char} (signText : SignText sign)
    (numeral : Numeral ns) (further : ∀ c ∈ suffix.head?, isNumeric c = false) :
    splitNumber (sign ++ ns ++ suffix) = (sign ++ ns, suffix) := by
  have unsigned : sign = [] → ∀ c ∈ (ns ++ suffix).head?, isSign c = false := by
    intro _ c head
    rw [List.head?_append_of_ne_nil ns numeral.ne_nil] at head
    exact numeral.head_unsigned c head
  have stops : suffix.takeWhile isNumeric = [] ∧ suffix.dropWhile isNumeric = suffix := by
    cases suffix with
    | nil => exact ⟨rfl, rfl⟩
    | cons c suffix =>
        have outside : isNumeric c = false := further c rfl
        simp [outside]
  rw [List.append_assoc, splitNumber_sign signText unsigned,
    List.takeWhile_append_of_pos numeral.numeric, List.dropWhile_append_of_pos numeral.numeric,
    stops.1, stops.2, List.append_nil]

theorem splitNumber_parts (cs : List Char) :
    ∃ sign ns suffix, splitNumber cs = (sign ++ ns, suffix) ∧ cs = sign ++ ns ++ suffix ∧
      SignText sign ∧ ∀ c ∈ ns, isNumeric c = true := by
  obtain ⟨sign, rest, rfl, signText, unsigned⟩ := exists_sign cs
  refine ⟨sign, rest.takeWhile isNumeric, rest.dropWhile isNumeric,
    splitNumber_sign signText unsigned, ?_, signText, ?_⟩
  · rw [List.append_assoc, List.takeWhile_append_dropWhile]
  · exact fun _ member => List.mem_takeWhile_imp member

/-! The same place in bytes -/

def isSignByte (b : UInt8) : Bool := b = 43 || b = 45

def isNumericByte (b : UInt8) : Bool := (48 ≤ b && b ≤ 57) || b = 46

/-- Where a scan of bytes stops that goes over a sign and then digits and points. -/
def numberEnd (bytes : List UInt8) : Nat :=
  let sign := (bytes.take 1).filter isSignByte
  sign.length + ((bytes.drop sign.length).takeWhile isNumericByte).length

def encoded (cs : List Char) : List UInt8 := cs.flatMap String.utf8EncodeChar

/-- A character is one byte that stands for itself, or it begins with a byte that stands for no
character. -/
theorem encode_cases (c : Char) :
    (c.toNat < 128 ∧ String.utf8EncodeChar c = [.ofNat c.toNat]) ∨
      (128 ≤ c.toNat ∧ ∃ b rest, String.utf8EncodeChar c = b :: rest ∧ 128 ≤ b.toNat) := by
  by_cases ascii : c.toNat ≤ 127
  · left
    refine ⟨by omega, ?_⟩
    simp only [String.utf8EncodeChar, Char.toNat_val, ascii, if_true]
  · right
    refine ⟨by omega, ?_⟩
    simp only [String.utf8EncodeChar, Char.toNat_val, ascii, if_false]
    split
    · exact ⟨_, _, rfl, by simp; omega⟩
    split
    · exact ⟨_, _, rfl, by simp; omega⟩
    · exact ⟨_, _, rfl, by simp; omega⟩

theorem bytes_ascii {c : Char} (ascii : c.toNat < 128) :
    isNumericByte (.ofNat c.toNat) = isNumeric c ∧ isSignByte (.ofNat c.toNat) = isSign c := by
  have checked : ∀ n < 128, isNumericByte (.ofNat n) = isNumeric (.ofNat n) ∧
      isSignByte (.ofNat n) = isSign (.ofNat n) := by decide
  have here := checked c.toNat ascii
  rwa [Char.ofNat_toNat] at here

theorem bytes_wide {b : UInt8} (wide : 128 ≤ b.toNat) :
    isNumericByte b = false ∧ isSignByte b = false := by
  simp [isNumericByte, isSignByte, UInt8.le_iff_toNat_le, ← UInt8.toNat_inj]
  omega

theorem chars_wide {c : Char} (wide : 128 ≤ c.toNat) :
    isNumeric c = false ∧ isSign c = false := by
  have differs : ∀ d : Char, d.toNat < 128 → c ≠ d := by
    rintro d ascii rfl
    omega
  have nondigit : c.isDigit = false := by
    rw [Bool.eq_false_iff, ne_eq, Char.isDigit_iff_toNat]
    simp only [Char.reduceToNat]
    omega
  constructor
  · simp [isNumeric, nondigit, differs '.' (by decide)]
  · simp [isSign, differs '+' (by decide), differs '-' (by decide)]

theorem takeWhile_encoded (cs : List Char) :
    (encoded cs).takeWhile isNumericByte = encoded (cs.takeWhile isNumeric) := by
  induction cs with
  | nil => rfl
  | cons c cs ih =>
      rw [encoded, List.flatMap_cons, ← encoded, List.takeWhile_cons]
      rcases encode_cases c with ⟨ascii, single⟩ | ⟨wide, b, rest, bytes, outside⟩
      · rw [single, List.singleton_append, List.takeWhile_cons, (bytes_ascii ascii).1, ih]
        split
        · rw [encoded, encoded, List.flatMap_cons, single, List.singleton_append]
        · rfl
      · rw [bytes, List.cons_append, List.takeWhile_cons, (bytes_wide outside).1,
          (chars_wide wide).1]
        rfl

theorem head_encoded {cs : List Char} (unsigned : ∀ c ∈ cs.head?, isSign c = false) :
    ∀ b ∈ (encoded cs).head?, isSignByte b = false := by
  cases cs with
  | nil => simp [encoded]
  | cons c cs =>
      have outside : isSign c = false := unsigned c rfl
      rw [encoded, List.flatMap_cons]
      rcases encode_cases c with ⟨ascii, single⟩ | ⟨-, b, rest, bytes, wide⟩
      · simp [single, (bytes_ascii ascii).2, outside]
      · simp [bytes, (bytes_wide wide).2]

theorem numberEnd_unsigned {bytes : List UInt8}
    (unsigned : ∀ b ∈ bytes.head?, isSignByte b = false) :
    numberEnd bytes = (bytes.takeWhile isNumericByte).length := by
  cases bytes with
  | nil => rfl
  | cons b rest =>
      have outside : isSignByte b = false := unsigned b rfl
      simp [numberEnd, outside]

theorem numberEnd_signed {b : UInt8} (sign : isSignByte b = true) (rest : List UInt8) :
    numberEnd (b :: rest) = (b :: rest.takeWhile isNumericByte).length := by
  simp [numberEnd, sign, Nat.add_comm]

theorem numberEnd_encoded (cs : List Char) :
    numberEnd (encoded cs) = (encoded (splitNumber cs).1).length := by
  obtain ⟨sign, rest, rfl, signText, unsigned⟩ := exists_sign cs
  rw [splitNumber_sign signText unsigned]
  cases signText with
  | plus =>
      have front : ∀ cs, encoded (['+'] ++ cs) = 43 :: encoded cs := fun _ => rfl
      rw [front, front, ← takeWhile_encoded, numberEnd_signed rfl]
  | minus =>
      have front : ∀ cs, encoded (['-'] ++ cs) = 45 :: encoded cs := fun _ => rfl
      rw [front, front, ← takeWhile_encoded, numberEnd_signed rfl]
  | absent =>
      rw [List.nil_append, List.nil_append, ← takeWhile_encoded,
        numberEnd_unsigned (head_encoded (unsigned rfl))]

theorem bytes_ofList (cs : List Char) :
    (String.ofList cs).toByteArray.data.toList = encoded cs := by
  rw [String.toByteArray_ofList, List.utf8Encode, List.data_toByteArray, encoded]

/-- The scan of the bytes never ends inside a character. -/
theorem numberEnd_isValid (cs : List Char) :
    String.Pos.Raw.IsValid (.ofList cs) ⟨numberEnd (String.ofList cs).toByteArray.data.toList⟩ := by
  obtain ⟨sign, ns, suffix, split, parts, -⟩ := splitNumber_parts cs
  rw [bytes_ofList, numberEnd_encoded, String.Pos.Raw.isValid_iff_exists_append, split]
  refine ⟨.ofList (sign ++ ns), .ofList suffix, ?_, ?_⟩
  · rw [← String.ofList_append, ← parts]
  · have size : (String.ofList (sign ++ ns)).utf8ByteSize = (encoded (sign ++ ns)).length := by
      rw [← String.size_toByteArray, ← bytes_ofList]
      rfl
    rw [String.rawEndPos, size]

end Quantity

end JobContainers

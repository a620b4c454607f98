/-!
Decimal numbers as they are written: a sign, the digits as one natural number and a power of ten.
Reading accepts an optional sign, digits with at most one point and an optional exponent; writing
follows a `NumberText`, which says where positional form ends.
-/

set_option autoImplicit false

namespace JobContainers

structure Decimal where
  negative : Bool
  digits : Nat
  exponent : Int
  deriving DecidableEq, Repr

/-- How a number is spelled: `positional` decides on the power of ten of the leading digit. -/
structure NumberText where
  positional : Int → Bool
  plusSign : Bool

namespace Decimal

def digitValue (c : Char) : Nat := c.toNat - '0'.toNat

def ofDigits (cs : List Char) : Nat :=
  cs.foldl (fun n c => n * 10 + digitValue c) 0

def splitSign : List Char → Bool × List Char
  | '-' :: rest => (true, rest)
  | '+' :: rest => (false, rest)
  | cs => (false, cs)

def integer? (cs : List Char) : Option Int :=
  let (negative, ds) := splitSign cs
  if ds.isEmpty || !ds.all Char.isDigit then none
  else some (if negative then -(ofDigits ds : Int) else ofDigits ds)

def exponent? : List Char → Option Int
  | [] => some 0
  | c :: cs => if c = 'e' ∨ c = 'E' then integer? cs else none

def ofChars? (cs : List Char) : Option Decimal :=
  let (negative, body) := splitSign cs
  let whole := body.takeWhile Char.isDigit
  let (fraction, rest) := match body.dropWhile Char.isDigit with
    | '.' :: tail => (tail.takeWhile Char.isDigit, tail.dropWhile Char.isDigit)
    | tail => ([], tail)
  if whole.isEmpty && fraction.isEmpty then none
  else (exponent? rest).map fun e => ⟨negative, ofDigits (whole ++ fraction), e - fraction.length⟩

def digitText (n : Nat) : List Char := Nat.toDigits 10 n

theorem digits_digitText (n : Nat) : ∀ c ∈ digitText n, c.isDigit = true := by
  intro c member
  exact Nat.isDigit_of_mem_toDigits (by decide) (by decide) member

theorem digitText_ne_nil (n : Nat) : digitText n ≠ [] := Nat.toDigits_ne_nil

theorem ofDigits_digitText (n : Nat) : ofDigits (digitText n) = n := by
  have read : Nat.ofDigitChars 10 (digitText n) 0 = n := Nat.ofDigitChars_ten_toDigits
  rw [Nat.ofDigitChars_eq_foldl] at read
  simp only [Nat.mul_comm 10] at read
  exact read

theorem digitText_inj {n m : Nat} : digitText n = digitText m ↔ n = m := by
  constructor
  · intro same
    rw [← ofDigits_digitText n, same, ofDigits_digitText]
  · exact congrArg digitText

def magnitude (d : Decimal) : Int := d.exponent + (digitText d.digits).length - 1

def zeros (n : Nat) : List Char := List.replicate n '0'

/-- Always shows a point and at least one digit on both sides of it. -/
def positionalText (ds : List Char) (exponent : Int) : List Char :=
  if 0 ≤ exponent then ds ++ zeros exponent.toNat ++ ['.', '0']
  else
    let places := exponent.natAbs
    if places < ds.length then
      ds.take (ds.length - places) ++ '.' :: ds.drop (ds.length - places)
    else '0' :: '.' :: zeros (places - ds.length) ++ ds

def scientificText (ds : List Char) (magnitude : Int) (plusSign : Bool) : List Char :=
  let mantissa := match ds with
    | first :: second :: rest => first :: '.' :: second :: rest
    | short => short
  let sign := if magnitude < 0 then ['-'] else if plusSign then ['+'] else []
  mantissa ++ 'e' :: sign ++ digitText magnitude.natAbs

def toChars (style : NumberText) (d : Decimal) : List Char :=
  let ds := digitText d.digits
  let body :=
    if style.positional d.magnitude then positionalText ds d.exponent
    else scientificText ds d.magnitude style.plusSign
  if d.negative then '-' :: body else body

end Decimal

def integerText (n : Int) : List Char :=
  if n < 0 then '-' :: Decimal.digitText n.natAbs else Decimal.digitText n.natAbs

end JobContainers

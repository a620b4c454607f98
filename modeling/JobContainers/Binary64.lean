import JobContainers.Decimal
import JobContainers.Width

/-!
Double-precision numbers as words. Every operation is exact arithmetic on naturals followed by one
rounding to the nearest word, ties to the even one, so nothing depends on a machine's arithmetic.
-/

set_option autoImplicit false

namespace JobContainers

/-- A double-precision number by its 64 bits: sign, eleven exponent bits, 52 fraction bits. -/
structure Binary64 where
  bits : UInt64
  deriving DecidableEq, Repr

namespace Binary64

inductive Magnitude where
  | nan
  | infinite
  | finite (significand : Nat) (exponent : Int)
  deriving DecidableEq, Repr

def fractionLimit : Nat := Width.limit 52
def exponentLimit : Nat := Width.limit 11

def signWord : Nat := Width.limit 63

def leastExponent : Int := -1074

def negative (x : Binary64) : Bool := signWord ≤ x.bits.toNat

def magnitude (x : Binary64) : Magnitude :=
  let fraction := x.bits.toNat % fractionLimit
  let field := x.bits.toNat / fractionLimit % exponentLimit
  if field = exponentLimit - 1 then if fraction = 0 then .infinite else .nan
  else if field = 0 then .finite fraction leastExponent
  else .finite (fractionLimit + fraction) (leastExponent + field - 1)

def isFinite (x : Binary64) : Bool :=
  match x.magnitude with
  | .finite _ _ => true
  | _ => false

def isNaN (x : Binary64) : Bool := x.magnitude = .nan

def ofWord (negative : Bool) (word : Nat) : Binary64 :=
  ⟨.ofNat (if negative then signWord + word else word)⟩

def zero (negative : Bool) : Binary64 := ofWord negative 0

def infinityWord : Nat := (exponentLimit - 1) * fractionLimit

def infinity (negative : Bool) : Binary64 := ofWord negative infinityWord

def nan : Binary64 := ofWord false (infinityWord + fractionLimit / 2)

instance : Inhabited Binary64 := ⟨zero false⟩

def scale (num den : Nat) (exponent : Int) : Nat × Nat :=
  if 0 ≤ exponent then (num, den <<< exponent.natAbs) else (num <<< exponent.natAbs, den)

def roundDiv (num den : Nat) : Nat :=
  let quotient := num / den
  let twice := 2 * (num % den)
  if twice < den then quotient
  else if den < twice then quotient + 1
  else quotient + quotient % 2

def unitExponent (num den : Nat) : Int :=
  let guess := max ((num.log2 : Int) - den.log2 - 53) leastExponent
  let (n, d) := scale num den guess
  if 2 * fractionLimit ≤ n / d then guess + 1 else guess

/-- The nearest double to `num / den`; a significand rounded up to 54 bits carries into the
exponent field by itself. -/
def ofRatio (negative : Bool) (num den : Nat) : Binary64 :=
  if num = 0 then zero negative
  else
    let exponent := unitExponent num den
    let (n, d) := scale num den exponent
    let word := (exponent - leastExponent).toNat * fractionLimit + roundDiv n d
    if infinityWord ≤ word then infinity negative else ofWord negative word

/-- The nearest double to a decimal. Exponents far outside the range are decided from the number
of digits, so that no huge power of ten is formed. -/
def ofDecimal (d : Decimal) : Binary64 :=
  if d.digits = 0 then zero d.negative
  else if 310 < d.exponent then infinity d.negative
  else if d.exponent + d.digits.log2 / 3 + 1 < -330 then zero d.negative
  else if 0 ≤ d.exponent then ofRatio d.negative (d.digits * Nat.pow 10 d.exponent.natAbs) 1
  else ofRatio d.negative d.digits (Nat.pow 10 d.exponent.natAbs)

def ofNat (n : Nat) : Binary64 := ofRatio false n 1

def ofInt (n : Int) : Binary64 := ofRatio (n < 0) n.natAbs 1

def ofScaled (negative : Bool) (significand : Nat) (exponent : Int) : Binary64 :=
  if 0 ≤ exponent then ofRatio negative (significand <<< exponent.natAbs) 1
  else ofRatio negative significand (1 <<< exponent.natAbs)

def mul (x y : Binary64) : Binary64 :=
  let sign := x.negative != y.negative
  match x.magnitude, y.magnitude with
  | .finite m e, .finite m' e' => ofScaled sign (m * m') (e + e')
  | .finite m _, .infinite => if m = 0 then nan else infinity sign
  | .infinite, .finite m _ => if m = 0 then nan else infinity sign
  | .infinite, .infinite => infinity sign
  | .nan, _ => nan
  | _, .nan => nan

def negate (x : Binary64) : Binary64 := ofWord (!x.negative) (x.bits.toNat % signWord)

def aligned (negative : Bool) (significand : Nat) (exponent low : Int) : Int :=
  let n : Int := significand <<< (exponent - low).natAbs
  if negative then -n else n

def add (x y : Binary64) : Binary64 :=
  match x.magnitude, y.magnitude with
  | .nan, _ => nan
  | _, .nan => nan
  | .infinite, .infinite => if x.negative = y.negative then x else nan
  | .infinite, .finite _ _ => x
  | .finite _ _, .infinite => y
  | .finite m e, .finite m' e' =>
    let low := min e e'
    let sum := aligned x.negative m e low + aligned y.negative m' e' low
    if sum = 0 then zero (x.negative && y.negative) else ofScaled (sum < 0) sum.natAbs low

def sub (x y : Binary64) : Binary64 := x.add y.negate

def div (x y : Binary64) : Binary64 :=
  let sign := x.negative != y.negative
  match x.magnitude, y.magnitude with
  | .nan, _ => nan
  | _, .nan => nan
  | .infinite, .infinite => nan
  | .infinite, .finite _ _ => infinity sign
  | .finite _ _, .infinite => zero sign
  | .finite m e, .finite m' e' =>
    if m' = 0 then if m = 0 then nan else infinity sign
    else if e' ≤ e then ofRatio sign (m <<< (e - e').natAbs) m'
    else ofRatio sign m (m' <<< (e' - e).natAbs)

def remainder (x y : Binary64) : Binary64 :=
  match x.magnitude, y.magnitude with
  | .nan, _ => nan
  | _, .nan => nan
  | .infinite, _ => nan
  | .finite _ _, .infinite => x
  | .finite m e, .finite m' e' =>
    if m' = 0 then nan
    else
      let low := min e e'
      ofScaled x.negative ((m <<< (e - low).natAbs) % (m' <<< (e' - low).natAbs)) low

def truncate (x : Binary64) : Binary64 :=
  match x.magnitude with
  | .finite m e => if 0 ≤ e then x else ofScaled x.negative (m >>> e.natAbs) 0
  | _ => x

def quotient (x y : Binary64) : Binary64 :=
  let q := (x.div y).truncate
  let r := x.remainder y
  if r.negative && !r.isNaN && r != zero true then
    if !y.negative then q.sub (ofNat 1) else q.add (ofNat 1)
  else q

def inverse (x : Binary64) : Binary64 :=
  match x.magnitude with
  | .nan => nan
  | .infinite => zero x.negative
  | .finite m e =>
    if m = 0 then infinity x.negative
    else if 0 ≤ e then ofRatio x.negative 1 (m <<< e.natAbs)
    else ofRatio x.negative (1 <<< e.natAbs) m

def powering (base result : Binary64) (exponent : Nat) : Binary64 :=
  let result := if exponent % 2 = 1 then result.mul base else result
  if exponent / 2 = 0 then result else powering (base.mul base) result (exponent / 2)
termination_by exponent

def power (base : Binary64) (exponent : Int) : Binary64 :=
  let r := powering base (ofNat 1) exponent.natAbs
  if exponent < 0 then r.inverse else r

def isPositive (x : Binary64) : Bool :=
  !x.negative &&
    match x.magnitude with
    | .nan => false
    | .infinite => true
    | .finite m _ => m != 0

/-- The reals that round to a positive double, as numerators over one common denominator. -/
structure Interval where
  low : Nat
  middle : Nat
  high : Nat
  denominator : Nat
  closed : Bool

def interval (significand : Nat) (exponent : Int) : Interval :=
  let below := if significand = fractionLimit ∧ leastExponent < exponent then 1 else 2
  let (unit, denominator) := if 2 ≤ exponent then (1 <<< (exponent - 2).natAbs, 1)
    else (1, 1 <<< (2 - exponent).natAbs)
  { low := (4 * significand - below) * unit
    middle := 4 * significand * unit
    high := (4 * significand + 2) * unit
    denominator := denominator
    closed := significand % 2 = 0 }

def Interval.holds (i : Interval) (digits up down : Nat) : Bool :=
  let point := digits * up * i.denominator
  if i.closed then i.low * down ≤ point && point ≤ i.high * down
  else i.low * down < point && point < i.high * down

def Interval.gridPoint? (i : Interval) (power : Int) : Option Nat :=
  let (up, down) :=
    if 0 ≤ power then (Nat.pow 10 power.natAbs, 1) else (1, Nat.pow 10 power.natAbs)
  let below := i.middle * down / (i.denominator * up)
  match i.holds below up down, i.holds (below + 1) up down with
  | true, true =>
    let twice := 2 * (i.middle * down)
    let ends := (2 * below + 1) * up * i.denominator
    if twice < ends then some below
    else if ends < twice then some (below + 1)
    else some (below + below % 2)
  | true, false => some below
  | false, true => some (below + 1)
  | false, false => none

def Interval.coarsest (i : Interval) : Nat → Int → Nat × Int
  | 0, power => (0, power)
  | fuel + 1, power =>
    match i.gridPoint? power with
    | some digits => (digits, power)
    | none => i.coarsest fuel (power - 1)

def Interval.topPower (i : Interval) : Int :=
  let bits := (i.middle.log2 : Int) - i.denominator.log2
  if 0 ≤ bits then bits / 3 + 1 else bits / 4 + 1

/-- The decimal with the fewest digits that reads back as the same double, and of those the
nearest one. The grid of `10 ^ -324` is finer than the gap between any two doubles. -/
def shortest (x : Binary64) : Decimal :=
  match x.magnitude with
  | .finite m e =>
    if m = 0 then ⟨x.negative, 0, 0⟩
    else
      let i := interval m e
      let top := i.topPower
      let (digits, power) := i.coarsest (top + 325).toNat top
      ⟨x.negative, digits, power⟩
  | _ => ⟨x.negative, 0, 0⟩

end Binary64

end JobContainers

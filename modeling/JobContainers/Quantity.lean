import JobContainers.Binary64
import JobContainers.Text.Blank

set_option autoImplicit false

namespace JobContainers

structure Quantity where
  text : String
  value : Binary64
  deriving DecidableEq

inductive QuantityError where
  | empty
  | noNumber (input : String)
  | unknownSuffix (input suffix : String)
  deriving DecidableEq, Repr

namespace QuantityError

def message : QuantityError → String
  | empty => "quantity is empty"
  | noNumber input => "quantity '" ++ input ++ "' has no valid number"
  | unknownSuffix input suffix =>
    "quantity '" ++ input ++ "' has unknown suffix '" ++ suffix ++ "'"

end QuantityError

namespace Quantity

def binarySuffixes : List (String × Int) :=
  [("Ki", 10), ("Mi", 20), ("Gi", 30), ("Ti", 40), ("Pi", 50), ("Ei", 60)]

def decimalSuffixes : List (String × Int) :=
  [("n", -9), ("u", -6), ("m", -3), ("k", 3), ("M", 6), ("G", 9), ("T", 12), ("P", 15), ("E", 18)]

def isSign (c : Char) : Bool := c = '+' || c = '-'

def splitNumber (cs : List Char) : List Char × List Char :=
  let sign := cs.take 1 |>.filter isSign
  let rest := cs.drop sign.length
  let numeric := fun c : Char => c.isDigit || c = '.'
  (sign ++ rest.takeWhile numeric, rest.dropWhile numeric)

def suffixExponent? : List Char → Option Int
  | c :: cs =>
    if c = 'e' ∨ c = 'E' then
      (Decimal.integer? cs).filter (Width.holds 32)
    else none
  | [] => none

def multiplier? (suffix : List Char) : Option Binary64 :=
  let name := String.ofList suffix
  if suffix.isEmpty then some (.ofNat 1)
  else match binarySuffixes.lookup name with
    | some e => some ((Binary64.ofNat 2).power e)
    | none => match decimalSuffixes.lookup name with
      | some e => some ((Binary64.ofNat 10).power e)
      | none => (suffixExponent? suffix).map (Binary64.ofNat 10).power

/-- Blanks around the quantity do not count; the errors quote the input with them. -/
def parse (input : String) : Except QuantityError Quantity :=
  let body := trimBoth isBlank input.toList
  let (number, suffix) := splitNumber body
  if body.isEmpty then .error .empty
  else match Decimal.ofChars? number with
    | none => .error (.noNumber input)
    | some mantissa => match multiplier? suffix with
      | none => .error (.unknownSuffix input (.ofList suffix))
      | some factor => .ok ⟨.ofList body, (Binary64.ofDecimal mantissa).mul factor⟩

def isPositive (q : Quantity) : Bool := q.value.isPositive

end Quantity

end JobContainers

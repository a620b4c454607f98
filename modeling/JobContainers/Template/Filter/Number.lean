import JobContainers.Template.Filter.Text
import JobContainers.Template.Operator

set_option autoImplicit false

namespace JobContainers.Template.Filter

def roundAt (x : Binary64) (digits : Int) : Binary64 :=
  let unit := (Binary64.ofNat 10).power digits
  let scaled := x.mul unit
  let rounded :=
    match scaled.magnitude with
    | .finite m e =>
      if 0 ≤ e then scaled
      else Binary64.ofScaled x.negative ((m + 1 <<< (e.natAbs - 1)) >>> e.natAbs) 0
    | _ => scaled
  rounded.div unit

def round : Filter := do
  let v ← Taking.any
  let digits := (← Taking.optional (Value.asInteger 32)).getD 0
  return match v with
    | .float x => .ok (.float (roundAt x digits))
    | .int n => .ok (.int n)
    | _ => .error .invalidOperation

def absolute : Filter := do
  let v ← Taking.any
  return match v with
    | .int n => if 0 ≤ n then .ok (.int n) else Value.bounded (-n)
    | .float x => .ok (.float (if x.negative then x.negate else x))
    | _ => .error .invalidOperation

def unbounded? (negative : Bool) (cs : List Char) : Option Binary64 :=
  match String.ofList (cs.map Char.toLower) with
  | "inf" | "infinity" => some (.infinity negative)
  | "nan" => some .nan
  | _ => none

def decimal? (s : String) : Option Binary64 :=
  let (negative, body) := Decimal.splitSign s.toList
  match unbounded? negative body with
  | some x => some x
  | none => (Decimal.ofChars? s.toList).map Binary64.ofDecimal

/-- The nearest whole number of 128 bits towards zero; what is no number gives zero. -/
def truncated (x : Binary64) : Int :=
  match x.magnitude with
  | .nan => 0
  | .infinite => if x.negative then Width.least 128 else Width.most 128
  | .finite _ _ =>
    let n := (x.truncate.whole?).getD 0
    max (Width.least 128) (min (Width.most 128) n)

def toInt (v : Value) : Except Error Value :=
  match v with
  | .float x => .ok (.int (truncated x))
  | .string s _ =>
    match (Decimal.integer? s.toList).filter (Width.holds 128), decimal? s with
    | some n, _ => .ok (.int n)
    | none, some x => .ok (.int (truncated x))
    | none, none => .error .invalidOperation
  | .none => .ok (.int 0)
  | .undefined silent => if silent then .ok (.int 0) else .error .undefinedValue
  | v =>
    match v.int? with
    | some n => .ok (.int n)
    | none => .error .invalidOperation

def toFloat (v : Value) : Except Error Value :=
  match v with
  | .string s _ =>
    match decimal? s with
    | some x => .ok (.float x)
    | none => .error .invalidOperation
  | .none => .ok (.float (.zero false))
  | .undefined silent => if silent then .ok (.float (.zero false)) else .error .undefinedValue
  | v =>
    match v.float? with
    | some x => .ok (.float x)
    | none => .error .invalidOperation

def ofValue (f : Value → Except Error Value) : Filter := do
  let v ← Taking.any
  return f v

def numberFilters : List (String × Filter) :=
  [("round", round), ("abs", absolute), ("int", ofValue toInt), ("float", ofValue toFloat),
    ("bool", ofValue fun v => .ok (.bool v.truth))]

end JobContainers.Template.Filter

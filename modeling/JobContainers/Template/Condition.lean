import JobContainers.Template.Filter.Collection

set_option autoImplicit false

namespace JobContainers.Template

abbrev Condition := Taking (Except Error Bool)

def filterNames : List String :=
  (Filter.textFilters ++ Filter.numberFilters ++ Filter.listFilters).map (·.1) ++
    ["map", "select", "reject", "selectattr", "rejectattr"]

namespace Condition

def ofValue (holds : Value → Bool) : Condition := do
  let v ← Taking.any
  return .ok (holds v)

def ofKind (kind : Value.Kind) : Condition := ofValue fun v => v.kind = kind

def isWhole : Value → Bool
  | .int _ => true
  | _ => false

def isFloat : Value → Bool
  | .float _ => true
  | _ => false

def ofString (holds : Char → Bool) : Condition := do
  let s ← Taking.string
  return .ok (s.toList.all holds)

def ofTexts (holds : List Char → List Char → Bool) : Condition := do
  let s ← Taking.text
  let t ← Taking.text
  return .ok (holds s.toList t.toList)

def ofValues (holds : Value → Value → Except Error Bool) : Condition := do
  let v ← Taking.any
  let w ← Taking.any
  return holds v w

/-- Whether a value can be written as a double without loss. -/
def isExact (v : Value) : Bool := (v.float?).any fun x => v == .float x

def divides (v w : Value) : Bool :=
  match v.operands? w with
  | some (.ints a b) => b != 0 && a % b = 0
  | some (.floats x y) => isExact v && isExact w && (x.remainder y).isZero
  | none => false

def same (v w : Value) : Bool :=
  match v, w with
  | .map (.record a) _, .map (.record b) _ => a = b
  | v, w => v.kind = w.kind && isWhole v = isWhole w && v == w

/-- Whether a value is in another one; nothing is in what holds no values. -/
def isIn (v w : Value) : Except Error Bool := do
  match v.isIn (← w.checked) with
  | .ok b => return b
  | .error _ => return false

def table : List (String × Condition) :=
  [("undefined", ofKind .undefined), ("defined", ofValue (!·.isUndefined)),
    ("none", ofKind .none), ("boolean", ofKind .bool), ("number", ofKind .number),
    ("string", ofKind .string), ("sequence", ofKind .sequence), ("mapping", ofKind .mapping),
    ("true", ofValue (· matches .bool true)), ("false", ofValue (· matches .bool false)),
    ("integer", ofValue isWhole), ("int", ofValue isWhole), ("float", ofValue isFloat),
    ("iterable", ofValue (·.items?.isSome)),
    ("safe", ofValue (· matches .string _ true)), ("escaped", ofValue (· matches .string _ true)),
    ("odd", ofValue fun v => v.whole?.any (· % 2 != 0)),
    ("even", ofValue fun v => v.whole?.any (· % 2 == 0)),
    ("divisibleby", ofValues fun v w => .ok (divides v w)),
    ("lower", ofString LetterCase.isLower), ("upper", ofString LetterCase.isUpper),
    ("startingwith", ofTexts fun s t => t.isPrefixOf s),
    ("endingwith", ofTexts fun s t => t.isSuffixOf s),
    ("sameas", ofValues fun v w => .ok (same v w)), ("in", ofValues isIn),
    ("eq", ofValues Comparison.eq.holds), ("equalto", ofValues Comparison.eq.holds),
    ("==", ofValues Comparison.eq.holds), ("ne", ofValues Comparison.ne.holds),
    ("!=", ofValues Comparison.ne.holds), ("lt", ofValues Comparison.lt.holds),
    ("lessthan", ofValues Comparison.lt.holds), ("<", ofValues Comparison.lt.holds),
    ("le", ofValues Comparison.le.holds), ("<=", ofValues Comparison.le.holds),
    ("gt", ofValues Comparison.gt.holds), ("greaterthan", ofValues Comparison.gt.holds),
    (">", ofValues Comparison.gt.holds), ("ge", ofValues Comparison.ge.holds),
    (">=", ofValues Comparison.ge.holds)]

def names : List String := "filter" :: "test" :: table.map (·.1)

def isName (ids : List String) : Condition := do
  let s ← Taking.string
  return .ok (ids.contains s)

def lookup? (id : String) : Option Condition :=
  match id with
  | "filter" => some (isName filterNames)
  | "test" => some (isName names)
  | id => table.lookup id

def apply (id : String) (v : Value) (args : List Value) : Except Error Bool :=
  match lookup? id with
  | some test => test.run (v :: args)
  | none => .error .unknownTest

end Condition

end JobContainers.Template

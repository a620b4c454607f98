import JobContainers.Template.Arguments
import JobContainers.Template.Heap

set_option autoImplicit false

namespace JobContainers.Template

namespace Value

def descend? : Value → List String → Option Value
  | v, [] => some v
  | v, key :: keys =>
    match v.attribute? key with
    | some w => if w.isUndefined then Option.none else w.descend? keys
    | .none => Option.none

/-- The value under a dotted name. What is missing or none is replaced by the fallback. -/
def property (root : Option Value) (path : String) (fallback : Option Value) :
    Except Error Value :=
  match root.bind (·.descend? (Property.Path.ofText path).segments) with
  | some none | .none =>
    match fallback with
    | some v => .ok v
    | .none => .error (.propertyNotFound path)
  | some v => .ok v

end Value

namespace Function

def ids : List String := ["p", "range", "dict", "namespace", "debug"]

def maxRange : Nat := 100000

def property (root : Option Value) : Taking (Except Error Value) := do
  let path ← Taking.string
  let fallback ← Taking.optional .ok
  return Value.property root path fallback

def range : Taking (Except Error Value) := do
  let first ← Taking.one (Value.asInteger 64)
  let second ← Taking.optional (Value.asInteger 64)
  let step := (← Taking.optional (Value.asInteger 64)).getD 1
  return do
    let (start, stop) := match second with
      | some stop => (first, stop)
      | none => (0, first)
    if step = 0 then throw .invalidOperation
    let distance := if 0 < step then stop - start else start - stop
    let size := ((distance + step.natAbs - 1) / step.natAbs).toNat
    if maxRange < size then throw .invalidOperation
    return .series ((List.range size).map fun (i : Nat) => .int (start + i * step))

def entriesOf (v : Value) : Except Error Named :=
  match v with
  | .map _ entries => .ok entries
  | _ => .error .invalidOperation

def dict : Taking (Except Error Value) := do
  let named ← Taking.named
  let base ← Taking.optional .ok
  return do
    let entries ← (base.map entriesOf).getD (.ok [])
    return .sorted (entries ++ named)

def namespaceNames : Taking (Except Error Names) := do
  let base ← Taking.optional entriesOf
  return .ok ((base.getD []).filterMap fun e =>
    match e.1 with
    | .string key _ => some (key, e.2)
    | _ => none)

def debug : Taking (Except Error Value) := do
  let args ← Taking.rest
  return .ok (match args with
    | [] => .ofString ""
    | [v] => .ofChars v.spread
    | vs => .ofChars (Value.ofList vs).spread)

def call (id : String) (root : Option Value) (args : List Value) : Eval Value := do
  let h ← getThe Heap
  let args := args.map h.settled
  match id with
  | "p" => (property (root.map h.settled)).run args
  | "range" => range.run args
  | "dict" => dict.run args
  | "namespace" => do
    let names ← namespaceNames.run args
    Heap.expose (names.foldl (fun es e => Entries.insert e.1 e.2 es) [])
  | "debug" => debug.run args
  | _ => throw .unknownFunction

end Function

end JobContainers.Template

import JobContainers.Template.Condition

set_option autoImplicit false

namespace JobContainers.Template.Filter

def testOf (id : Option String) (args : List Value) : Except Error (Value → Except Error Bool) :=
  match id with
  | none => .ok fun v => .ok v.truth
  | some id =>
    match Condition.lookup? id with
    | some test => .ok fun v => test.run (v :: args)
    | none => .error .unknownTest

def keep (wanted : Bool) (part : Value → Except Error Value) (id : Option String)
    (args : List Value) (v : Value) : Except Error Value := do
  let test ← testOf id args
  return .ofList (← (← v.checkedItems).filterM fun w => return (← test (← part w)) == wanted)

def select (wanted : Bool) : Filter := do
  let v ← Taking.any
  let id ← Taking.optional Value.asText
  let args ← Taking.rest
  return keep wanted .ok id args v

def selectBy (wanted : Bool) : Filter := do
  let v ← Taking.any
  let path ← Taking.text
  let id ← Taking.optional Value.asText
  let args ← Taking.rest
  return keep wanted (Value.walk path) id args v

def pick (key other v : Value) : Except Error Value :=
  let found := match key with
    | .string path _ => v.walk path
    | key => v.found (v.item? key)
  match found, other.isUndefined with
  | .ok w, _ => .ok (if w.isUndefined then other else w)
  | .error _, false => .ok other
  | .error e, true => .error e

def table : List (String × Filter) :=
  textFilters ++ numberFilters ++ listFilters ++
    [("select", select true), ("reject", select false), ("selectattr", selectBy true),
      ("rejectattr", selectBy false)]

/-- Takes a property of every item, or sends every item through a filter. Items may be sent through
this filter again, to a depth. -/
def map : Nat → Filter
  | 0 => return .error .unknownFilter
  | depth + 1 => do
    let v ← Taking.any
    let args ← Taking.rest
    return do
      let (named, places) ← Taking.named args
      match ← named.optional "attribute" .ok with
      | some key =>
        unless places.isEmpty do throw .tooManyArguments
        let other := (named.get? "default").getD (.undefined false)
        let picked ← (← v.checkedItems).mapM (pick key other)
        named.only ["attribute", "default"]
        return .ofList picked
      | none =>
        match places with
        | .string id _ :: _ =>
          match if id = "map" then some (map depth) else table.lookup id with
          | some filter =>
            return .ofList (← (← v.checkedItems).mapM fun w => filter.run (w :: args.drop 1))
          | none => throw .unknownFilter
        | _ => throw .invalidOperation

def maxDepth : Nat := 100

def lookup? (id : String) : Option Filter :=
  if id = "map" then some (map maxDepth) else table.lookup id

def apply (id : String) (v : Value) (args : List Value) : Except Error Value :=
  match lookup? id with
  | some filter => filter.run (v :: args)
  | none => .error .unknownFilter

end JobContainers.Template.Filter

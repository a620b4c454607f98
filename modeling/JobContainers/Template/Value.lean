import JobContainers.Binary64.Order
import JobContainers.Property
import JobContainers.Template.Ast
import JobContainers.Template.Error

set_option autoImplicit false

namespace JobContainers.Template

inductive ListShape where
  | list
  | series
  | group
  deriving DecidableEq

/-- The order of a mapping: that of its keys or that of their declaration. Named arguments are a
mapping that is handed over as the last argument. A record can be changed; its number says which
one it is, and its entries are those it had when it was last looked at. -/
inductive MapShape where
  | sorted
  | declared
  | arguments
  | record (id : Nat)
  deriving DecidableEq

structure Position where
  index : Nat
  size : Nat
  depth : Nat
  deriving DecidableEq

inductive Value where
  /-- A silent one may be written and tested; any other one may not. -/
  | undefined (silent : Bool)
  | none
  | bool (value : Bool)
  | int (value : Int)
  | float (value : Binary64)
  | string (value : String) (safe : Bool)
  | list (shape : ListShape) (items : List Value)
  | map (shape : MapShape) (entries : List (Value × Value))
  | loop (position : Position) (previous next : Value) (memory : Nat)
      (again : Option (Target × List Stmt))
  | function (id : String)
  /-- A function of the template, with the record of the names around it. -/
  | definition (id : String) (params : List Param) (body : List Stmt) (takesBody : Bool)
      (captured : Nat)

namespace Value

instance : Inhabited Value := ⟨undefined false⟩

def ofString (s : String) : Value := string s false

def ofChars (cs : List Char) : Value := ofString (.ofList cs)

def ofChar (c : Char) : Value := ofChars [c]

def ofList (items : List Value) : Value := list .list items

def ofStrings (ss : List String) : Value := ofList (ss.map ofString)

def series (items : List Value) : Value := list .series items

def group (key : Value) (items : List Value) : Value := list .group [key, series items]

def isUndefined : Value → Bool
  | undefined _ => true
  | _ => false

def isNone : Value → Bool
  | none => true
  | _ => false

mutual

def ofTree : Tree → Value
  | .null => none
  | .bool b => bool b
  | .number (.int n) => int n
  | .number (.float x) => float x
  | .string s => ofString s
  | .list items => ofList (ofItems items)
  | .map entries => map .sorted (ofEntries entries)

def ofItems : List Tree → List Value
  | [] => []
  | t :: ts => ofTree t :: ofItems ts

def ofEntries : List (String × Tree) → List (Value × Value)
  | [] => []
  | (key, t) :: rest => (ofString key, ofTree t) :: ofEntries rest

end

def ofLiteral : Literal → Value
  | .none => none
  | .bool b => bool b
  | .int n => int n
  | .float x => float x
  | .string s => ofString s

def declared (entries : List (String × Value)) : Value :=
  map .declared (entries.map fun e => (ofString e.1, e.2))

inductive Kind where
  | undefined
  | none
  | bool
  | number
  | string
  | sequence
  | mapping
  | series
  | other
  deriving DecidableEq

def kind : Value → Kind
  | undefined _ => .undefined
  | none => .none
  | bool _ => .bool
  | int _ | float _ => .number
  | string _ _ => .string
  | list .series _ => .series
  | list _ _ => .sequence
  | map _ _ | loop _ _ _ _ _ | definition _ _ _ _ _ => .mapping
  | function _ => .other

def isObject (v : Value) : Bool :=
  match v.kind with
  | .sequence | .mapping | .series | .other => true
  | _ => false

def loopNames : List String :=
  ["index0", "index", "length", "revindex", "revindex0", "first", "last", "depth", "depth0",
    "previtem", "nextitem"]

def definitionNames : List String := ["name", "arguments", "caller"]

def items? : Value → Option (List Value)
  | list _ items => some items
  | map _ entries => some (entries.map (·.1))
  | string s _ => some (s.toList.map ofChar)
  | loop _ _ _ _ _ => some (loopNames.map ofString)
  | definition _ _ _ _ _ => some (definitionNames.map ofString)
  | none | undefined _ => some []
  | _ => .none

def truth : Value → Bool
  | undefined _ | none => false
  | bool b => b
  | int n => n != 0
  | float x => !x.isZero
  | string s _ => s != ""
  | list _ items => !items.isEmpty
  | map _ entries => !entries.isEmpty
  | loop _ _ _ _ _ | function _ | definition _ _ _ _ _ => true

def length? : Value → Option Nat
  | string s _ => some s.length
  | list _ items => some items.length
  | map _ entries => some entries.length
  | loop _ _ _ _ _ => some loopNames.length
  | definition _ _ _ _ _ => some definitionNames.length
  | _ => .none

def checked (v : Value) : Except Error Value :=
  match v with
  | undefined false => .error .undefinedValue
  | v => .ok v

def checkedTruth (v : Value) : Except Error Bool := do return (← v.checked).truth

def checkedItems (v : Value) : Except Error (List Value) := do
  match (← v.checked).items? with
  | some items => return items
  | .none => throw .invalidOperation

end Value

end JobContainers.Template

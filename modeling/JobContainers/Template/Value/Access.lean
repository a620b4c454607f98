import JobContainers.Decimal
import JobContainers.Template.Value.Order

set_option autoImplicit false

namespace JobContainers.Template.Value

def whole? : Value → Option Int
  | float x => x.whole?.filter (Width.holds 64)
  | v => int? v

def index? (size : Nat) (key : Value) : Option Nat := do
  let i ← whole? key
  if 0 ≤ i then some i.toNat else if i.natAbs ≤ size then some (size - i.natAbs) else .none

def loopProperty? (p : Position) (previous next : Value) (key : String) : Option Value :=
  match key with
  | "index" => some (int (p.index + 1))
  | "index0" => some (int p.index)
  | "revindex" => some (int (p.size - p.index))
  | "revindex0" => some (int (p.size - p.index - 1))
  | "first" => some (bool (p.index = 0))
  | "last" => some (bool (p.index + 1 = p.size))
  | "length" => some (int p.size)
  | "depth" => some (int (p.depth + 1))
  | "depth0" => some (int p.depth)
  | "previtem" => some previous
  | "nextitem" => some next
  | _ => .none

def attribute? (v : Value) (key : String) : Option Value :=
  match v with
  | map _ entries => atKey? entries (ofString key)
  | list .group [grouper, items] =>
    match key with
    | "grouper" => some grouper
    | "list" => some items
    | _ => .none
  | loop position previous next _ _ => loopProperty? position previous next key
  | definition id params _ takesBody _ =>
    match key with
    | "name" => some (ofString id)
    | "arguments" => some (ofStrings (params.map (·.1)))
    | "caller" => some (bool takesBody)
    | _ => .none
  | _ => .none

def item? (v key : Value) : Option Value :=
  match v with
  | map _ entries => atKey? entries key
  | string s _ =>
    let cs := s.toList
    ((index? cs.length key).bind (cs[·]?)).map ofChar
  | list _ items =>
    match index? items.length key, key with
    | some i, _ => items[i]?
    | .none, string key _ => v.attribute? key
    | .none, _ => .none
  | v =>
    match key with
    | string key _ => v.attribute? key
    | _ => .none

/-- What a look-up that may fail gives: nothing can be looked up in the undefined. -/
def found (v : Value) (x : Option Value) : Except Error Value :=
  match x, v with
  | some w, _ => .ok w
  | .none, undefined _ => .error .undefinedValue
  | .none, _ => .ok (undefined false)

def partIndex? (part : String) : Option Nat :=
  let digits := match part.toList with
    | '+' :: cs => cs
    | cs => cs
  let n := Decimal.ofDigits digits
  if digits.isEmpty || !digits.all Char.isDigit || Width.limit 64 ≤ n then .none else some n

def walk (path : String) (v : Value) : Except Error Value :=
  (Property.Path.ofText path).segments.foldlM (fun v part =>
    match partIndex? part with
    | some i => v.found (v.item? (int i))
    | .none => v.found (v.attribute? part)) v

def walkOr (v : Value) (path : String) (other : Value) : Value :=
  match v.walk path with
  | .ok w => if w.isUndefined then other else w
  | .error _ => other

end JobContainers.Template.Value

import JobContainers.Template.Value.Access

/-!
Records that change while a template is rendered: the names around definitions, namespaces, and
what loops were last asked. Values refer to records by number, so that all who do see a change.
-/

set_option autoImplicit false

namespace JobContainers.Template

abbrev Names := List (String × Value)

structure Heap where
  records : Array Names
  exposed : Bool

abbrev Eval (α : Type) := StateT Heap (Except Error) α

namespace Heap

def empty : Heap := ⟨#[], false⟩

def get (h : Heap) (id : Nat) : Names := h.records.getD id []

def allocate (names : Names) : Eval Nat :=
  modifyGet fun h => (h.records.size, { h with records := h.records.push names })

def store (id : Nat) (name : String) (v : Value) : Eval Unit :=
  modify fun h => { h with records := h.records.modify id (Entries.insert name v) }

def expose (names : Names) : Eval Value := do
  let id ← allocate names
  modify fun h => { h with exposed := true }
  return .map (.record id) []

def read (h : Heap) (id : Nat) : Value :=
  .map (.record id) ((h.get id).map fun e => (.ofString e.1, e.2))

def shown (h : Heap) (v : Value) : Value :=
  match v with
  | .map (.record id) _ => h.read id
  | v => v

def refresh (h : Heap) : Nat → Value → Value
  | 0, v => v
  | depth + 1, v =>
    match h.shown v with
    | .list shape items => .list shape (items.map (h.refresh depth))
    | .map shape entries =>
      .map shape (entries.map fun e => (h.refresh depth e.1, h.refresh depth e.2))
    | v => v

def maxDepth : Nat := 100

/-- A value as it is now, with the values inside it. Without records no value changes. -/
def settled (h : Heap) (v : Value) : Value := if h.exposed then h.refresh maxDepth v else v

def attribute? (h : Heap) (v : Value) (key : String) : Option Value := (h.shown v).attribute? key

def item? (h : Heap) (v key : Value) : Option Value := (h.shown v).item? key

end Heap

end JobContainers.Template

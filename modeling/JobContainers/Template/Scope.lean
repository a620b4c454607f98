import JobContainers.Template.FreeNames
import JobContainers.Template.Function

/-!
The names that a statement sees. Loops, scopes and definitions open frames; a definition sees only
its own frames, the names around it when it was made, and those that the template begins with.
-/

set_option autoImplicit false

namespace JobContainers.Template

structure Frame where
  names : Names
  loop : Option Value
  captured : Option Nat
  shared : Option Nat

namespace Frame

def empty : Frame := ⟨[], none, none, none⟩

/-- The value of a name in a frame. A name that was undefined around a definition has none. -/
def lookup? (h : Heap) (f : Frame) (id : String) : Option Value :=
  match f.names.lookup id, if id = "loop" then f.loop else none with
  | some v, _ => some v
  | none, some v => some v
  | none, none =>
    (f.captured.bind fun c => (h.get c).lookup id).filter fun v => !v.isUndefined

end Frame

structure Scope where
  context : Names
  frames : List Frame
  depth : Nat
  escapes : Bool
  blocks : List (String × List Stmt)

namespace Scope

def maxDepth : Nat := 500

def lookup? (h : Heap) (σ : Scope) (id : String) : Option Value :=
  match σ.frames.findSome? (·.lookup? h id), σ.context.lookup id with
  | some v, _ => some v
  | none, some v => some v
  | none, none => if id ∈ Function.ids then some (.function id) else none

def get (h : Heap) (σ : Scope) (id : String) : Value := (σ.lookup? h id).getD (.undefined false)

def loop? (σ : Scope) : Option Value := σ.frames.findSome? (·.loop)

/-- How many loops were called to get to the innermost one, that one counted if it can be
called. -/
def loopDepth (σ : Scope) : Nat :=
  match σ.loop? with
  | some (.loop p _ _ _ (some _)) => p.depth + 1
  | _ => 0

def enter (σ : Scope) (levels : Nat) (frame : Frame) : Eval Scope :=
  let depth := σ.depth + levels
  if maxDepth < depth then throw .invalidOperation
  else return { σ with frames := frame :: σ.frames, depth := depth }

def set (σ : Scope) (id : String) (v : Value) : Eval Scope := do
  match σ.frames with
  | [] => return σ
  | frame :: frames =>
    if let some record := frame.shared then Heap.store record id v
    return { σ with frames := { frame with names := (id, v) :: frame.names } :: frames }

def capture (σ : Scope) (ids : List String) : Eval (Scope × Nat) := do
  match σ.frames with
  | [] => return (σ, ← Heap.allocate [])
  | frame :: frames =>
    let record ← match frame.shared with
      | some record => pure record
      | none => Heap.allocate []
    ids.forM fun id => do
      let h ← getThe Heap
      if ((h.get record).lookup id).isNone then Heap.store record id (σ.get h id)
    return ({ σ with frames := { frame with shared := some record } :: frames }, record)

def recordAt (h : Heap) (σ : Scope) (id : String) (path : List String) : Except Error Nat := do
  let v ← path.foldlM (fun (v : Value) key => v.found (h.attribute? v key)) (σ.get h id)
  match v with
  | .map (.record record) _ => return record
  | _ => throw .invalidOperation

mutual

def assign (σ : Scope) : Target → Value → Eval Scope
  | .name id, v => σ.set id v
  | .member id path key, v => do
    Heap.store (← σ.recordAt (← getThe Heap) id path) key v
    return σ
  | .items targets, v => do
    match v.isObject, ((← getThe Heap).shown v).items? with
    | true, some items =>
      if items.length = targets.length then assignItems σ targets items else throw .cannotUnpack
    | _, _ => throw .cannotUnpack

def assignItems (σ : Scope) : List Target → List Value → Eval Scope
  | t :: ts, v :: vs => do assignItems (← assign σ t v) ts vs
  | _, _ => return σ

end

end Scope

end JobContainers.Template

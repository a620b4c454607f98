import JobContainers.Quantity
import JobContainers.Tree
import JobContainers.Width

/-!
Typed values as trees. A codec reads a type from a tree and writes it back; the codec of a record
comes from one list of fields. A record may also be given as the list of its field values.

Of several faults in a mapping the one under the smallest key is reported, and missing fields only
if every field that is there can be read.
-/

set_option autoImplicit false

namespace JobContainers

inductive ReadError where
  | invalidType
  | invalidValue
  | invalidLength (length : Nat)
  | missingField (name : String)
  | duplicateField (name : String)
  | noAlternative (type : String)
  | quantity (cause : QuantityError)
  deriving DecidableEq, Repr

namespace ReadError

def message : ReadError → String
  | invalidType => "invalid type"
  | invalidValue => "invalid value"
  | invalidLength length => "invalid length " ++ .ofList (Decimal.digitText length)
  | missingField name => "missing field \x60" ++ name ++ "\x60"
  | duplicateField name => "duplicate field \x60" ++ name ++ "\x60"
  | noAlternative type => "data did not match any variant of untagged enum " ++ type
  | quantity cause => cause.message

end ReadError

structure Codec (α : Type) where
  read : Tree → Except ReadError α
  write : α → Tree

namespace Codec

variable {α β : Type}

def tree : Codec Tree := ⟨.ok, id⟩

def bool : Codec Bool where
  read
    | .bool b => .ok b
    | _ => .error .invalidType
  write := .bool

def string : Codec String where
  read
    | .string s => .ok s
    | _ => .error .invalidType
  write := .string

def integer (least most : Int) : Codec Int where
  read
    | .number (.int n) => if least ≤ n ∧ n ≤ most then .ok n else .error .invalidValue
    | _ => .error .invalidType
  write := .int

def int32 : Codec Int := integer (Width.least 32) (Width.most 32)
def int64 : Codec Int := integer (Width.least 64) (Width.most 64)

def natural (bits : Nat) : Codec Nat where
  read t := ((integer 0 (Width.limit bits - 1)).read t).map Int.toNat
  write := .nat

def quantity : Codec Quantity where
  read t := do
    let s ← string.read t
    (Quantity.parse s).mapError .quantity
  write q := .string q.text

def option (c : Codec α) : Codec (Option α) where
  read
    | .null => .ok none
    | t => (c.read t).map some
  write
    | none => .null
    | some x => c.write x

def list (c : Codec α) : Codec (List α) where
  read
    | .list items => items.mapM c.read
    | _ => .error .invalidType
  write xs := .list (xs.map c.write)

def dict (c : Codec α) : Codec (Dict α) where
  read
    | .map entries => (entries.mapM fun e => (c.read e.2).map (e.1, ·)).map .ofList
    | _ => .error .invalidType
  write d := .map (d.entries.map fun e => (e.1, c.write e.2))

def scalarText? : Tree → Option String
  | .null => none
  | .string s => some s
  | t => some t.text

def scalar : Codec (Option String) where
  read t := .ok (scalarText? t)
  write := (option string).write

def scalars : Codec (Dict String) where
  read
    | .null => .ok ∅
    | .map entries => .ok (.ofList (entries.filterMap fun e => (scalarText? e.2).map (e.1, ·)))
    | _ => .error .invalidType
  write := (dict string).write

end Codec

inductive Fault where
  | bad (key : String) (cause : ReadError)
  | missing (name : String)
  deriving DecidableEq, Repr

namespace Fault

def first : Fault → Fault → Fault
  | bad k c, bad l d => if l < k then bad l d else bad k c
  | missing _, bad l d => bad l d
  | f, missing _ => f

def error : Fault → ReadError
  | bad _ cause => cause
  | missing name => .missingField name

end Fault

/-- Fields of a record `ρ` that together give an `α`. -/
structure Fields (ρ α : Type) where
  byName : List (String × Tree) → Except Fault α
  /-- Reads the fields from the front of a list; the number counts the fields before them. -/
  byPlace : Nat → List Tree → Except ReadError (α × Nat × List Tree)
  entries : ρ → List (String × Tree)

namespace Fields

variable {ρ α β : Type}

def both (f : Except Fault (α → β)) (x : Except Fault α) : Except Fault β :=
  match f, x with
  | .ok f, .ok x => .ok (f x)
  | .error a, .error b => .error (a.first b)
  | .error a, .ok _ => .error a
  | .ok _, .error b => .error b

instance : Applicative (Fields ρ) where
  pure x := ⟨fun _ => .ok x, fun n ts => .ok (x, n, ts), fun _ => []⟩
  seq f x :=
    { byName := fun es => both (f.byName es) ((x ()).byName es)
      byPlace := fun n ts => do
        let (g, n, ts) ← f.byPlace n ts
        let (a, n, ts) ← (x ()).byPlace n ts
        return (g a, n, ts)
      entries := fun r => f.entries r ++ (x ()).entries r }

def place (c : Codec α) (absent : Option α) (n : Nat) :
    List Tree → Except ReadError (α × Nat × List Tree)
  | t :: ts => (c.read t).map fun x => (x, n + 1, ts)
  | [] =>
    match absent with
    | some x => .ok (x, n + 1, [])
    | none => .error (.invalidLength n)

/-- A field with the value that stands for its absence and the values that are not written. -/
def field (name : String) (c : Codec α) (absent : Option α) (hidden : α → Bool) (get : ρ → α) :
    Fields ρ α where
  byName es :=
    match es.lookup name with
    | some t => (c.read t).mapError (.bad name)
    | none =>
      match absent with
      | some x => .ok x
      | none => .error (.missing name)
  byPlace := place c absent
  entries r := if hidden (get r) then [] else [(name, c.write (get r))]

def required (name : String) (c : Codec α) (get : ρ → α) : Fields ρ α :=
  field name c none (fun _ => false) get

def defaulted (name : String) (c : Codec α) (absent : α) (get : ρ → α) : Fields ρ α :=
  field name c (some absent) (fun _ => false) get

def optional (name : String) (c : Codec α) (get : ρ → Option α) : Fields ρ (Option α) :=
  field name c.option (some none) Option.isNone get

def items (name : String) (c : Codec α) (get : ρ → List α) : Fields ρ (List α) :=
  field name c.list (some []) List.isEmpty get

def table (name : String) (c : Codec α) (get : ρ → Dict α) : Fields ρ (Dict α) :=
  field name c.dict (some ∅) Dict.isEmpty get

def aliased (name second : String) (c : Codec α) (get : ρ → Option α) : Fields ρ (Option α) where
  byName es :=
    match es.filter fun e => e.1 = name || e.1 = second with
    | [] => .ok none
    | [(key, t)] => (c.option.read t).mapError (.bad key)
    | (key, t) :: (next, _) :: _ =>
      match c.option.read t with
      | .error cause => .error (.bad key cause)
      | .ok _ => .error (.bad next (.duplicateField name))
  byPlace := place c.option (some none)
  entries r := [(name, c.option.write (get r))]

end Fields

/-- The codec of a record. A list may be shorter than the record only by fields that may be absent,
and not longer. -/
def Codec.record {ρ : Type} (fields : Fields ρ ρ) : Codec ρ where
  read
    | .map entries => (fields.byName entries).mapError Fault.error
    | .list items => do
      let (x, _, rest) ← fields.byPlace 0 items
      if rest.isEmpty then return x else throw (.invalidLength items.length)
    | _ => .error .invalidType
  write x := .ofEntries (fields.entries x)

end JobContainers

import JobContainers.Tree

/-!
Dotted property names. A name such as `nats.port` addresses the value under `port` in the mapping
under `nats`; segments may be empty. Setting a value creates the mappings on its way; merging goes
key by key where both sides are mappings and otherwise lets the overlay win.
-/

set_option autoImplicit false

namespace JobContainers.Property

def splitFirst : List Char → List Char × Option (List Char)
  | [] => ([], none)
  | c :: cs =>
    if c = '.' then ([], some cs)
    else
      let (first, rest) := splitFirst cs
      (c :: first, rest)

structure Path where
  first : String
  rest : List String
  deriving DecidableEq, Repr

namespace Path

def split : List Char → List Char × List String
  | [] => ([], [])
  | c :: cs =>
    let (first, rest) := split cs
    if c = '.' then ([], .ofList first :: rest) else (c :: first, rest)

def ofText (text : String) : Path :=
  let (first, rest) := split text.toList
  ⟨.ofList first, rest⟩

def segments (p : Path) : List String := p.first :: p.rest

end Path

def walk : Tree → List String → Option Tree
  | t, [] => some t
  | t, key :: keys => (t.entries.lookup key).bind (walk · keys)

def lookup (t : Tree) (path : String) : Option Tree :=
  walk t (Path.ofText path).segments

def lookupIn (d : Dict Tree) (path : String) : Option Tree :=
  match splitFirst path.toList with
  | (first, none) => d.get? (.ofList first)
  | (first, some rest) => (d.get? (.ofList first)).bind (lookup · (.ofList rest))

/-- What a new value is put into below an existing one: only the entries of a mapping survive. -/
def surviving (t : Option Tree) : List (String × Tree) := (t.getD .null).entries

theorem length_splitFirst {text first rest : List Char}
    (split : splitFirst text = (first, some rest)) : rest.length < text.length := by
  induction text generalizing first with
  | nil => cases split
  | cons c text ih =>
    rw [splitFirst] at split
    split at split
    · cases split
      exact Nat.lt_succ_self _
    · have inner : splitFirst text = ((splitFirst text).1, some rest) :=
        Prod.ext rfl (Prod.ext_iff.mp split).2
      exact Nat.lt_succ_of_lt (ih inner)

/-- Puts a value under a dotted name. Values on the way that are not mappings are replaced. -/
def setText (entries : List (String × Tree)) (value : Tree) (text : List Char) :
    List (String × Tree) :=
  match _ : splitFirst text with
  | (first, none) => Entries.insert (.ofList first) value entries
  | (first, some rest) =>
    Entries.insert (.ofList first)
      (.map (setText (surviving (entries.lookup (.ofList first))) value rest)) entries
termination_by text.length
decreasing_by exact length_splitFirst ‹_›

theorem ascending_setText (value : Tree) (text : List Char) {entries : List (String × Tree)}
    (h : Entries.Ascending entries) : Entries.Ascending (setText entries value text) := by
  rw [setText]
  split <;> exact Entries.ascending_insert _ _ h

def set (d : Dict Tree) (path : String) (value : Tree) : Dict Tree :=
  ⟨setText d.entries value path.toList, ascending_setText value path.toList d.ascending⟩

mutual

def mergeValue (base : Option Tree) : Tree → Tree
  | .map overlay =>
    match base with
    | some (.map entries) => .map (mergeEntries entries overlay)
    | _ => .map overlay
  | overlay => overlay

def mergeEntries (base : List (String × Tree)) : List (String × Tree) → List (String × Tree)
  | [] => base
  | (key, value) :: overlay =>
    Entries.insert key (mergeValue (base.lookup key) value) (mergeEntries base overlay)

end

theorem ascending_mergeEntries {base : List (String × Tree)} (overlay : List (String × Tree))
    (h : Entries.Ascending base) : Entries.Ascending (mergeEntries base overlay) := by
  induction overlay with
  | nil => simpa [mergeEntries] using h
  | cons entry overlay ih =>
    obtain ⟨key, value⟩ := entry
    rw [mergeEntries]
    exact Entries.ascending_insert _ _ ih

def merge (base overlay : Dict Tree) : Dict Tree :=
  ⟨mergeEntries base.entries overlay.entries,
    ascending_mergeEntries overlay.entries base.ascending⟩

end JobContainers.Property

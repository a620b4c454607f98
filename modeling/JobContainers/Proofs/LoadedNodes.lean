import JobContainers.Yaml.Document
import Mathlib.Data.List.Nodup

/-!
Nodes as they are loaded. A mapping has no two equal keys, at whatever depth it stands: every part
of the builder's state keeps that, event by event.
-/

set_option autoImplicit false

namespace JobContainers.Yaml

namespace Node

def entries : Node → List (Node × Node)
  | .mapping entries => entries
  | _ => []

def parts : Node → List Node
  | .sequence items => items
  | .mapping entries => entries.map (·.2)
  | _ => []

theorem sizeOf_lt_of_part {n m : Node} (part : m ∈ n.parts) : sizeOf m < sizeOf n := by
  cases n with
  | sequence items =>
      have smaller : sizeOf m < sizeOf items := List.sizeOf_lt_of_mem part
      rw [sequence.sizeOf_spec]
      omega
  | mapping entries =>
      obtain ⟨⟨k, v⟩, member, rfl⟩ := List.mem_map.mp part
      have smaller := List.sizeOf_lt_of_mem member
      simp only [mapping.sizeOf_spec, Prod.mk.sizeOf_spec] at smaller ⊢
      omega
  | _ => cases part

/-- What holds of a node if it holds of its parts holds of every node. -/
theorem parts_induction {motive : Node → Prop}
    (step : ∀ n, (∀ m ∈ n.parts, motive m) → motive n) (n : Node) : motive n :=
  step n fun m _ => parts_induction step m
termination_by sizeOf n
decreasing_by exact sizeOf_lt_of_part ‹_›

/-- No mapping has two equal keys, as far as parts lead into a node. -/
inductive Keyed : Node → Prop where
  | intro {n : Node} (distinct : (n.entries.map (·.1)).Nodup) (each : ∀ m ∈ n.parts, Keyed m) :
      Keyed n

theorem Keyed.of_scalar {n : Node} (flat : n.entries = [] ∧ n.parts = []) : n.Keyed := by
  refine ⟨?_, ?_⟩
  · rw [flat.1]
    exact .nil
  · rw [flat.2]
    exact List.forall_mem_nil _

theorem Keyed.sequence {items : List Node} (each : ∀ n ∈ items, n.Keyed) :
    (Node.sequence items).Keyed := .intro .nil each

theorem Keyed.mapping {entries : List (Node × Node)} (distinct : (entries.map (·.1)).Nodup)
    (each : ∀ e ∈ entries, e.2.Keyed) : (Node.mapping entries).Keyed :=
  .intro distinct (List.forall_mem_map.mpr each)

theorem keyed_bad : bad.Keyed := .of_scalar ⟨rfl, rfl⟩

theorem ofPlain_scalar (text : String) :
    (ofPlain text).entries = [] ∧ (ofPlain text).parts = [] := by
  rw [ofPlain]
  repeat' split
  all_goals exact ⟨rfl, rfl⟩

theorem ofTagged_scalar (tag : Tag) (text : String) :
    (ofTagged tag text).entries = [] ∧ (ofTagged tag text).parts = [] := by
  rw [ofTagged]
  cases integer64? text.toList <;> repeat' split
  all_goals exact ⟨rfl, rfl⟩

theorem keyed_ofScalar (plain : Bool) (text : String) (tag : Option Tag) :
    (ofScalar plain text tag).Keyed := by
  apply Keyed.of_scalar
  match plain, tag with
  | false, _ => exact ⟨rfl, rfl⟩
  | true, none => exact ofPlain_scalar text
  | true, some tag => exact ofTagged_scalar tag text

end Node

def Frame.Keyed : Frame → Prop
  | .sequence _ items => ∀ n ∈ items, n.Keyed
  | .mapping _ entries _ => (entries.map (·.1)).Nodup ∧ ∀ e ∈ entries, e.2.Keyed

namespace Builder

structure Keyed (b : Builder) : Prop where
  documents : ∀ n ∈ b.documents, n.Keyed
  frames : ∀ f ∈ b.frames, f.Keyed
  root : ∀ n ∈ b.root, n.Keyed
  anchored : ∀ e ∈ b.anchored, e.2.Keyed

theorem keyed_start : start.Keyed where
  documents := List.forall_mem_nil _
  frames := List.forall_mem_nil _
  root := nofun
  anchored := List.forall_mem_nil _

variable {b c : Builder} {n : Node}

theorem Keyed.tail (keyed : b.Keyed) {frame : Frame} {rest : List Frame}
    (frames : b.frames = frame :: rest) : frame.Keyed ∧ Keyed { b with frames := rest } := by
  have each := keyed.frames
  rw [frames, List.forall_mem_cons] at each
  exact ⟨each.1, { keyed with frames := each.2 }⟩

theorem Keyed.push (keyed : b.Keyed) {frame : Frame} (kept : frame.Keyed) :
    Keyed { b with frames := frame :: b.frames } :=
  { keyed with frames := List.forall_mem_cons.mpr ⟨kept, keyed.frames⟩ }

theorem keyed_take (keyed : b.Keyed) (node : n.Keyed) (taken : b.add none n = some c) :
    c.Keyed := by
  rw [add] at taken
  split at taken
  next =>
    obtain rfl := Option.some.inj taken
    refine { keyed with root := ?_ }
    rintro m ⟨⟩
    exact node
  next a items rest frames =>
    obtain rfl := Option.some.inj taken
    obtain ⟨each, below⟩ := keyed.tail frames
    exact below.push (List.forall_mem_cons.mpr ⟨node, each⟩)
  next a entries rest frames =>
    obtain rfl := Option.some.inj taken
    obtain ⟨each, below⟩ := keyed.tail frames
    exact below.push each
  next a entries key rest frames =>
    split at taken
    next => cases taken
    next fresh =>
      obtain rfl := Option.some.inj taken
      obtain ⟨⟨distinct, each⟩, below⟩ := keyed.tail frames
      have free : key ∉ entries.map (·.1) := by simpa using fresh
      exact below.push ⟨List.nodup_cons.mpr ⟨free, distinct⟩, List.forall_mem_cons.mpr ⟨node, each⟩⟩

theorem keyed_add (keyed : b.Keyed) (node : n.Keyed) {anchor : Option Nat}
    (added : b.add anchor n = some c) : c.Keyed := by
  cases anchor with
  | none => exact keyed_take keyed node added
  | some a =>
      have anchored : Keyed { b with anchored := (a, n) :: b.anchored } :=
        { keyed with anchored := List.forall_mem_cons.mpr ⟨node, keyed.anchored⟩ }
      exact keyed_take anchored node added

theorem keyed_close (keyed : b.Keyed) (closed : b.event .sequenceEnd = some c) : c.Keyed := by
  rw [event] at closed
  split at closed
  next a items rest frames =>
    obtain ⟨each, below⟩ := keyed.tail frames
    refine keyed_add below (.sequence ?_) closed
    intro n member
    exact each n (List.mem_reverse.mp member)
  next a entries key rest frames =>
    obtain ⟨⟨distinct, each⟩, below⟩ := keyed.tail frames
    refine keyed_add below (.mapping ?_ ?_) closed
    · rw [List.map_reverse]
      exact List.nodup_reverse.mpr distinct
    · intro e member
      exact each e (List.mem_reverse.mp member)
  next => cases closed

theorem keyed_event (keyed : b.Keyed) {e : Event} (next : b.event e = some c) : c.Keyed := by
  cases e with
  | documentStart =>
      obtain rfl := Option.some.inj next
      exact keyed
  | documentEnd =>
      obtain rfl := Option.some.inj next
      have whole : (b.root.getD .bad).Keyed := by
        cases root : b.root with
        | none => exact Node.keyed_bad
        | some n => exact keyed.root n root
      exact { keyed with
        documents := List.forall_mem_cons.mpr ⟨whole, keyed.documents⟩
        root := nofun }
  | «alias» a =>
      have copied : ((b.anchored.lookup a).getD .bad).Keyed := by
        cases found : b.anchored.lookup a with
        | none => exact Node.keyed_bad
        | some n =>
            obtain ⟨before, behind, anchored, -⟩ := List.lookup_eq_some_iff.mp found
            refine keyed.anchored (a, n) ?_
            rw [anchored]
            exact List.mem_append_right before List.mem_cons_self
      rw [event] at next
      exact keyed_add keyed copied next
  | scalar plain text anchor tag => exact keyed_add keyed (Node.keyed_ofScalar plain text tag) next
  | sequenceStart anchor =>
      obtain rfl := Option.some.inj next
      exact keyed.push (List.forall_mem_nil _)
  | mappingStart anchor =>
      obtain rfl := Option.some.inj next
      exact keyed.push ⟨.nil, List.forall_mem_nil _⟩
  | sequenceEnd => exact keyed_close keyed next
  | mappingEnd => exact keyed_close keyed next

theorem keyed_events (keyed : b.Keyed) {es : List Event} (done : b.events es = some c) :
    c.Keyed := by
  induction es generalizing b with
  | nil =>
      obtain rfl := Option.some.inj done
      exact keyed
  | cons e es ih =>
      obtain ⟨next, first, rest⟩ := Option.bind_eq_some_iff.mp done
      exact ih (keyed_event keyed first) rest

end Builder

theorem Node.keyed_of_ofText? {text : String} {docs : List Node} (loaded : ofText? text = some docs) :
    ∀ n ∈ docs, n.Keyed := by
  intro n member
  obtain ⟨es, -, built⟩ := Option.bind_eq_some_iff.mp loaded
  obtain ⟨b, done, rfl⟩ := Option.map_eq_some_iff.mp built
  exact (Builder.keyed_events Builder.keyed_start done).documents n (List.mem_reverse.mp member)

end JobContainers.Yaml

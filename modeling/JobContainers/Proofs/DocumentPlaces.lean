import JobContainers.Proofs.LoadedNodes
import JobContainers.Proofs.Passes
import JobContainers.Proofs.QuantityNumber
import Mathlib.Data.List.Dedup

/-!
Documents as property trees, place by place. A tree has the places that its document has, with the
same at each of them, but for two losses: keys of different kinds that have one text become one key,
and a number beyond the finite ones becomes null.
-/

set_option autoImplicit false

namespace JobContainers

universe u

namespace Dict

variable {α : Type u}

theorem mem_keys_ofList {pairs : List (String × α)} {key : String} :
    key ∈ (ofList pairs).keys ↔ key ∈ pairs.map (·.1) := by
  rw [mem_keys, ← Option.ne_none_iff_isSome, get?_ofList, ne_eq, List.lookup_eq_none_iff]
  simp only [List.mem_reverse, bne_iff_ne, ne_eq, not_forall, Decidable.not_not, List.mem_map]
  constructor
  · rintro ⟨e, member, same⟩
    exact ⟨e, member, same.symm⟩
  · rintro ⟨e, member, same⟩
    exact ⟨e, member, same.symm⟩

theorem size_ofList {pairs : List (String × α)} :
    (ofList pairs).size = pairs.length ↔ (pairs.map (·.1)).Nodup := by
  have kept : (ofList pairs).keys.Perm (pairs.map (·.1)).dedup := by
    rw [List.perm_ext_iff_of_nodup (nodup_keys _) (List.nodup_dedup _)]
    intro key
    rw [mem_keys_ofList, List.mem_dedup]
  have size : (ofList pairs).size = (pairs.map (·.1)).dedup.length := by
    rw [← kept.length_eq, keys, List.length_map, Dict.size]
  have length : pairs.length = (pairs.map (·.1)).length := (List.length_map _).symm
  rw [size, length, ← List.dedup_eq_self]
  constructor
  · exact (List.dedup_sublist _).eq_of_length
  · exact congrArg List.length

end Dict

inductive TreeStep where
  | item (index : Nat)
  | value (key : String)

def Tree.part? : Tree → TreeStep → Option Tree
  | .list items, .item i => items[i]?
  | .map entries, .value key => entries.lookup key
  | _, _ => none

def Tree.at? (t : Tree) (place : List TreeStep) : Option Tree := place.foldlM Tree.part? t

theorem boolText_inj : ∀ b c, boolText b = boolText c → b = c := by decide

theorem integerText_inj {m n : Int} (same : integerText m = integerText n) : m = n := by
  have read := Quantity.integer?_integerText m
  rw [same, Quantity.integer?_integerText] at read
  exact (Option.some.inj read).symm

namespace Yaml.Node

/-- The value of the last entry whose key has a text. -/
def valueAt? (entries : List (Node × Node)) (key : String) : Option Node :=
  (entries.reverse.find? fun e => e.1.keyText.toOption = some key).map (·.2)

def part? : Node → TreeStep → Option Node
  | .sequence items, .item i => items[i]?
  | .mapping entries, .value key => valueAt? entries key
  | _, _ => none

def at? (n : Node) (place : List TreeStep) : Option Node := place.foldlM part? n

/-- Whether a text spells a number that a finite double is nearest to. -/
def IsFiniteText (text : String) : Prop :=
  ∃ d, Decimal.ofChars? text.toList = some d ∧ (Binary64.ofDecimal d).isFinite = true

def sameKind : Node → Node → Bool
  | .null, .null => true
  | .bool _, .bool _ => true
  | .int _, .int _ => true
  | .real _, .real _ => true
  | .string _, .string _ => true
  | _, _ => false

/-- What a tree shows of a node. A mapping has each of its keys there, with the value of the last
key that has the same text; as many keys are there exactly if no two of them are of different kinds
and have one text. -/
inductive Mirrors : Node → Tree → Prop where
  | null : Mirrors .null .null
  | bool (b : Bool) : Mirrors (.bool b) (.bool b)
  | int (i : Int) : Mirrors (.int i) (.int i)
  | string (s : String) : Mirrors (.string s) (.string s)
  | finite {text : String} {d : Decimal} (spelled : Decimal.ofChars? text.toList = some d)
      (finite : (Binary64.ofDecimal d).isFinite = true) :
      Mirrors (.real text) (.number (.float (.ofDecimal d)))
  | endless {text : String} (endless : ¬IsFiniteText text) : Mirrors (.real text) .null
  | sequence {items : List Node} {trees : List Tree}
      (each : List.Forall₂ (fun m u => m.toTree = .ok u) items trees) :
      Mirrors (.sequence items) (.list trees)
  | mapping {entries : List (Node × Node)} {d : Dict Tree}
      (named : ∀ e ∈ entries, ∃ key ∈ d.keys, e.1.keyText = .ok key)
      (held : ∀ key, d.get? key = (valueAt? entries key).bind fun m => m.toTree.toOption)
      (size : d.size = entries.length ↔
        ∀ e ∈ entries, ∀ f ∈ entries, e.1.keyText = f.1.keyText → e.1.sameKind f.1 = true) :
      Mirrors (.mapping entries) (.ofDict d)

/-! The texts of keys -/

theorem eq_of_keyText {k l : Node} {key : String} (first : k.keyText = .ok key)
    (second : l.keyText = .ok key) (kind : k.sameKind l = true) : k = l := by
  have same : k.keyText = l.keyText := first.trans second.symm
  cases k with
  | null =>
      cases l with
      | null => rfl
      | _ => cases kind
  | bool b =>
      cases l with
      | bool c => rw [boolText_inj b c (String.ofList_injective (Except.ok.inj same))]
      | _ => cases kind
  | int i =>
      cases l with
      | int j => rw [integerText_inj (String.ofList_injective (Except.ok.inj same))]
      | _ => cases kind
  | real text =>
      cases l with
      | real other => rw [Except.ok.inj same]
      | _ => cases kind
  | string s =>
      cases l with
      | string other => rw [Except.ok.inj same]
      | _ => cases kind
  | sequence | mapping | «alias» | bad => cases first

theorem sameKind_self {k : Node} {key : String} (text : k.keyText = .ok key) :
    k.sameKind k = true := by
  cases k with
  | null | bool | int | real | string => rfl
  | sequence | mapping | «alias» | bad => cases text

/-! Parts and places -/

def Converts (e : Node × Node) (p : String × Tree) : Prop :=
  e.1.keyText = .ok p.1 ∧ e.2.toTree = .ok p.2

theorem getElem?_rel {items : List Node} {trees : List Tree}
    (each : List.Forall₂ (fun m u => m.toTree = .ok u) items trees) (i : Nat) :
    Option.Rel (fun m u => m.toTree = .ok u) items[i]? trees[i]? := by
  induction each generalizing i with
  | nil => exact .none
  | cons first rest ih =>
      cases i with
      | zero => exact .some first
      | succ i => exact ih i

theorem itemTrees_eq (items : List Node) : itemTrees items = items.mapM toTree := by
  induction items with
  | nil => rfl
  | cons n rest ih =>
      rw [itemTrees, List.mapM_cons, ih]

def entryTree (e : Node × Node) : Except Error (String × Tree) := do
  let key ← e.1.keyText
  return (key, ← e.2.toTree)

theorem entryTrees_eq (entries : List (Node × Node)) :
    entryTrees entries = entries.mapM entryTree := by
  induction entries with
  | nil => rfl
  | cons e rest ih =>
      rw [entryTrees, List.mapM_cons, ih, entryTree]
      cases e.1.keyText with
      | error cause => rfl
      | ok key => cases e.2.toTree <;> rfl

theorem entryTree_ok {e : Node × Node} {p : String × Tree} :
    entryTree e = .ok p ↔ Converts e p := by
  constructor
  · intro done
    obtain ⟨key, text, rest⟩ := bind_ok.mp done
    obtain ⟨t, value, same⟩ := bind_ok.mp rest
    cases same
    exact ⟨text, value⟩
  · rintro ⟨text, value⟩
    exact bind_ok.mpr ⟨_, text, bind_ok.mpr ⟨_, value, rfl⟩⟩

theorem entryTrees_ok {entries : List (Node × Node)} {pairs : List (String × Tree)}
    (done : entryTrees entries = .ok pairs) : List.Forall₂ Converts entries pairs := by
  rw [entryTrees_eq, mapM_ok] at done
  exact done.imp fun _ _ => entryTree_ok.mp

theorem find?_pairs {entries : List (Node × Node)} {pairs : List (String × Tree)} (key : String)
    (each : List.Forall₂ Converts entries pairs) :
    Option.Rel (fun m u => m.toTree = .ok u)
      ((entries.find? fun e => e.1.keyText.toOption = some key).map (·.2)) (pairs.lookup key) := by
  induction each with
  | nil => exact .none
  | @cons e p entries pairs here rest ih =>
      obtain ⟨k, v⟩ := p
      have text : e.1.keyText.toOption = some k := by rw [here.1]; rfl
      rw [Entries.lookup_head]
      by_cases same : key = k
      · rw [if_pos same, List.find?_cons_of_pos (by simp [text, same])]
        exact .some here.2
      · rw [if_neg same, List.find?_cons_of_neg (by simp [text, Ne.symm same])]
        exact ih

theorem valueAt?_rel {entries : List (Node × Node)} {pairs : List (String × Tree)} (key : String)
    (each : List.Forall₂ Converts entries pairs) :
    Option.Rel (fun m u => m.toTree = .ok u) (valueAt? entries key)
      ((Dict.ofList pairs).get? key) := by
  rw [Dict.get?_ofList]
  exact find?_pairs key (List.forall₂_reverse_iff.mpr each)

theorem realTree_ok {text : String} {t : Tree} (done : realTree text = .ok t) :
    (∃ d, Decimal.ofChars? text.toList = some d ∧ (Binary64.ofDecimal d).isFinite = true ∧
      t = .number (.float (.ofDecimal d))) ∨ (¬IsFiniteText text ∧ t = .null) := by
  rw [realTree] at done
  split at done
  next d spelled =>
    obtain rfl := Except.ok.inj done
    split
    next finite => exact .inl ⟨d, spelled, finite, rfl⟩
    next endless =>
      refine .inr ⟨?_, rfl⟩
      rintro ⟨other, again, finite⟩
      obtain rfl := Option.some.inj (spelled.symm.trans again)
      exact endless finite
  next unspelled =>
    split at done
    next =>
      obtain rfl := Except.ok.inj done
      refine .inr ⟨?_, rfl⟩
      rintro ⟨d, spelled, -⟩
      rw [unspelled] at spelled
      cases spelled
    next => cases done

theorem part?_rel {n : Node} {t : Tree} (done : n.toTree = .ok t) (step : TreeStep) :
    Option.Rel (fun m u => m.toTree = .ok u) (n.part? step) (t.part? step) := by
  cases n with
  | sequence items =>
      obtain ⟨trees, each, same⟩ := bind_ok.mp done
      cases same
      rw [itemTrees_eq, mapM_ok] at each
      cases step with
      | item i => exact getElem?_rel each i
      | value key => exact .none
  | mapping entries =>
      obtain ⟨pairs, each, same⟩ := bind_ok.mp done
      cases same
      cases step with
      | item i => exact .none
      | value key => exact valueAt?_rel key (entryTrees_ok each)
  | real text =>
      rcases realTree_ok done with ⟨d, -, -, rfl⟩ | ⟨-, rfl⟩
      · exact .none
      · exact .none
  | null | bool | int | string =>
      cases done
      exact .none
  | «alias» | bad => cases done

theorem at?_rel {n : Node} {t : Tree} (done : n.toTree = .ok t) (place : List TreeStep) :
    Option.Rel (fun m u => m.toTree = .ok u) (n.at? place) (t.at? place) := by
  -- the place is walked in both at once, so what is behind a step is a conversion again
  induction place generalizing n t with
  | nil => exact .some done
  | cons step place ih =>
      have here := part?_rel done step
      rw [at?, Tree.at?, List.foldlM_cons, List.foldlM_cons]
      generalize n.part? step = m at here ⊢
      generalize t.part? step = u at here ⊢
      cases here with
      | none => exact .none
      | some part => exact ih part

theorem keyed_part? {n m : Node} (keyed : n.Keyed) {step : TreeStep} (part : n.part? step = some m) :
    m.Keyed := by
  obtain ⟨-, each⟩ := keyed
  apply each
  cases n with
  | sequence items =>
      cases step with
      | item i => exact List.mem_of_getElem? part
      | value key => cases part
  | mapping entries =>
      cases step with
      | item i => cases part
      | value key =>
          obtain ⟨e, found, rfl⟩ := Option.map_eq_some_iff.mp part
          have member := List.mem_reverse.mp (List.mem_of_find?_eq_some found)
          exact List.mem_map_of_mem member
  | _ => cases part

theorem keyed_at? {n m : Node} (keyed : n.Keyed) {place : List TreeStep}
    (found : n.at? place = some m) : m.Keyed := by
  induction place generalizing n with
  | nil =>
      obtain rfl := Option.some.inj found
      exact keyed
  | cons step place ih =>
      obtain ⟨next, part, rest⟩ := Option.bind_eq_some_iff.mp found
      exact ih (keyed_part? keyed part) rest

/-- Keys that are different have different texts exactly if none of them has the text of a key of
another kind. -/
theorem nodup_texts {entries : List (Node × Node)} {pairs : List (String × Tree)}
    (distinct : (entries.map (·.1)).Nodup)
    (each : List.Forall₂ Converts entries pairs) :
    (pairs.map (·.1)).Nodup ↔
      ∀ e ∈ entries, ∀ f ∈ entries, e.1.keyText = f.1.keyText → e.1.sameKind f.1 = true := by
  have texts : (pairs.map (·.1)).map .ok = (entries.map (·.1)).map keyText := by
    rw [List.map_map, List.map_map]
    exact map_eq_map each fun e p both => both.1.symm
  have same : (pairs.map (·.1)).Nodup ↔ ((entries.map (·.1)).map keyText).Nodup := by
    rw [← texts]
    exact (List.nodup_map_iff fun _ _ => Except.ok.inj).symm
  rw [same, List.nodup_map_iff_inj_on distinct]
  have spelled : ∀ e ∈ entries, ∃ key, e.1.keyText = .ok key := by
    intro e member
    obtain ⟨p, -, text, -⟩ := exists_item each.flip member
    exact ⟨p.1, text⟩
  constructor
  · intro inj e first f second same
    obtain ⟨key, text⟩ := spelled e first
    rw [← inj _ (List.mem_map_of_mem first) _ (List.mem_map_of_mem second) same]
    exact sameKind_self text
  · intro kinds k one l other same
    obtain ⟨e, first, rfl⟩ := List.mem_map.mp one
    obtain ⟨f, second, rfl⟩ := List.mem_map.mp other
    obtain ⟨key, text⟩ := spelled e first
    exact eq_of_keyText text (same ▸ text) (kinds e first f second same)

theorem mirrors_of_toTree {n : Node} {t : Tree} (keyed : n.Keyed) (done : n.toTree = .ok t) :
    Mirrors n t := by
  cases n with
  | null =>
      cases done
      exact .null
  | bool b =>
      cases done
      exact .bool b
  | int i =>
      cases done
      exact .int i
  | string s =>
      cases done
      exact .string s
  | real text =>
      rcases realTree_ok done with ⟨d, spelled, finite, rfl⟩ | ⟨endless, rfl⟩
      · exact .finite spelled finite
      · exact .endless endless
  | sequence items =>
      obtain ⟨trees, each, same⟩ := bind_ok.mp done
      cases same
      rw [itemTrees_eq, mapM_ok] at each
      exact .sequence each
  | mapping entries =>
      obtain ⟨pairs, converted, same⟩ := bind_ok.mp done
      cases same
      have each := entryTrees_ok converted
      refine .mapping ?_ ?_ ?_
      · intro e member
        obtain ⟨p, pIn, text, -⟩ := exists_item each.flip member
        exact ⟨p.1, Dict.mem_keys_ofList.mpr (List.mem_map_of_mem pIn), text⟩
      · intro key
        have held := valueAt?_rel key each
        generalize valueAt? entries key = m at held ⊢
        generalize (Dict.ofList pairs).get? key = u at held ⊢
        cases held with
        | none => rfl
        | some value =>
            rw [Option.bind_some, value]
            rfl
      · obtain ⟨distinct, -⟩ := keyed
        rw [each.length_eq, Dict.size_ofList]
        exact nodup_texts distinct each
  | «alias» | bad => cases done

theorem null_iff {n : Node} {t : Tree} (mirrors : Mirrors n t) :
    t = .null ↔ n = .null ∨ ∃ text, n = .real text ∧ ¬IsFiniteText text := by
  cases mirrors with
  | null => simp
  | endless endless => simpa using endless
  | finite spelled finite =>
      have known : IsFiniteText _ := ⟨_, spelled, finite⟩
      simp [known]
  | bool | int | string | sequence | mapping => simp [Tree.ofDict, Tree.int]

/-- At every place of a document that is converted stands the conversion of what the document has
there, and nothing else stands in the tree. -/
theorem toTree_places {text : String} {docs : List Node} (loaded : ofText? text = some docs)
    {n : Node} (member : n ∈ docs) {t : Tree} (done : n.toTree = .ok t) (place : List TreeStep) :
    Option.Rel (fun m u => m.toTree = .ok u ∧ Mirrors m u ∧
      (u = .null ↔ m = .null ∨ ∃ text, m = .real text ∧ ¬IsFiniteText text))
      (n.at? place) (t.at? place) := by
  have keyed : ∀ m, n.at? place = some m → m.Keyed :=
    fun _ found => keyed_at? (keyed_of_ofText? loaded n member) found
  have there := at?_rel done place
  generalize n.at? place = m at keyed there ⊢
  generalize t.at? place = u at there ⊢
  cases there with
  | none => exact .none
  | @some m u converted =>
      have mirrors := mirrors_of_toTree (keyed m rfl) converted
      exact .some ⟨converted, mirrors, null_iff mirrors⟩

/-! A number and a text that is the same as a key, and a number that is rounded to infinity -/

def ports : Node :=
  .mapping [(.string "ports", .mapping [(.int 1, .string "a"), (.string "1", .sequence [.null])])]

def portsTree : Tree := .map [("ports", .map [("1", .list [.null])])]

theorem ofText?_ports : ofText? "ports:\n  1: a\n  '1': [~]" = some [ports] := by decide +kernel

theorem toTree_ports : ports.toTree = .ok portsTree := by
  have done : ports.toTree.toOption.map id = some portsTree := by decide +kernel
  obtain ⟨t, done, rfl⟩ := exists_ok done
  exact done

theorem toTree_places_ports :
    ofText? "ports:\n  1: a\n  '1': [~]" = some [ports] ∧ ports.toTree = .ok portsTree ∧
      Option.Rel (fun m u => m.toTree = .ok u ∧ Mirrors m u ∧
          (u = .null ↔ m = .null ∨ ∃ text, m = .real text ∧ ¬IsFiniteText text))
        (ports.at? [.value "ports", .value "1", .item 0])
        (portsTree.at? [.value "ports", .value "1", .item 0]) :=
  ⟨ofText?_ports, toTree_ports,
    toTree_places ofText?_ports List.mem_cons_self toTree_ports _⟩

/-- One of two entries is lost, and so is a number. -/
theorem toTree_lossy :
    (ofText? "1: a\n'1': b" =
        some [.mapping [(.int 1, .string "a"), (.string "1", .string "b")]] ∧
      (Node.mapping [(.int 1, .string "a"), (.string "1", .string "b")]).toTree.toOption =
        some (.map [("1", .string "b")])) ∧
    ofText? "consumes:\n  db: 1e400" =
      some [.mapping [(.string "consumes", .mapping [(.string "db", .real "1e400")])]] ∧
    (Node.mapping [(.string "consumes", .mapping [(.string "db", .real "1e400")])]).toTree.toOption =
      some (.map [("consumes", .map [("db", .null)])]) := by
  decide +kernel

end Yaml.Node

end JobContainers

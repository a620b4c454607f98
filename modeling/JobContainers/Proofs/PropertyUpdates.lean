import JobContainers.Proofs.Passes
import JobContainers.Proofs.PropertyPaths
import JobContainers.Yaml.Document

set_option autoImplicit false

namespace JobContainers.Property

theorem walk_append (t : Tree) (front rest : List String) :
    walk t (front ++ rest) = (walk t front).bind (walk · rest) := by
  induction front generalizing t with
  | nil => rfl
  | cons key front ih =>
      rw [List.cons_append, walk, walk, Option.bind_assoc]
      congr 1
      funext child
      exact ih child

theorem walk_leaf {t : Tree} (leaf : t.isMap = false) {path : List String} (further : path ≠ []) :
    walk t path = none := by
  obtain ⟨key, rest, rfl⟩ := List.exists_cons_of_ne_nil further
  cases t with
  | map entries => cases leaf
  | null | bool | number | string | list => rfl

theorem lookup_append (t : Tree) (parent rest : String) :
    lookup t (parent ++ "." ++ rest) = (lookup t parent).bind (lookup · rest) := by
  have parts : lookup t (parent ++ "." ++ rest) = walk t (segments (parent ++ "." ++ rest)) := rfl
  rw [parts, segments_append, walk_append]
  rfl

theorem lookupIn_eq_lookup (d : Dict Tree) (path : String) :
    lookupIn d path = lookup (.ofDict d) path := lookupIn_eq_walk d path

theorem lookupIn_append (d : Dict Tree) (parent rest : String) :
    lookupIn d (parent ++ "." ++ rest) = (lookupIn d parent).bind (lookup · rest) := by
  rw [lookupIn_eq_lookup, lookup_append, ← lookupIn_eq_lookup]

/-- Both look-ups find the same at every name, whatever segments of it are empty, and what stands
behind a name is looked up in what stands at it. -/
theorem lookups_agree (d : Dict Tree) (t : Tree) (path rest : String) :
    lookupIn d path = lookup (.ofDict d) path ∧
      lookup t (path ++ "." ++ rest) = (lookup t path).bind (lookup · rest) ∧
      lookupIn d (path ++ "." ++ rest) = (lookupIn d path).bind (lookup · rest) :=
  ⟨lookupIn_eq_lookup d path, lookup_append t path rest, lookupIn_append d path rest⟩

example : lookup (.map [("", .map [("", .map [("a", .null)])])]) "..a" = some .null := by
  decide

theorem walk_setEntries_front (entries : List (String × Tree)) (value : Tree) (key : String)
    (front : List String) (next : String) (more : List String) :
    walk (.map (setEntries entries value key (front ++ next :: more))) (key :: front) =
      some (.map (setEntries (surviving (walk (.map entries) (key :: front))) value next more)) := by
  induction front generalizing entries key with
  | nil =>
      rw [List.nil_append, walk, walk, setEntries, Tree.entries, Tree.entries,
        Entries.lookup_insert, if_pos rfl]
      cases entries.lookup key <;> rfl
  | cons second front ih =>
      rw [List.cons_append, walk, setEntries, Tree.entries, Entries.lookup_insert, if_pos rfl,
        Option.bind_some, ih, walk_surviving]
      rfl

theorem lookupIn_set_parent (d : Dict Tree) (parent rest : String) (value : Tree) :
    lookupIn (set d (parent ++ "." ++ rest) value) parent =
      some (.map (setEntries (surviving (lookupIn d parent)) value (Path.ofText rest).first
        (Path.ofText rest).rest)) := by
  obtain ⟨first, behind⟩ := List.cons.inj (segments_append parent rest)
  rw [lookupIn_eq_walk, lookupIn_eq_walk, ofDict_set, first, behind]
  exact walk_setEntries_front d.entries value _ _ _ _

/-- A value that is set is seen at its name, and what it holds behind the name. Every name in front
of it leads to a mapping, and a name beside it to what was there before. -/
theorem lookupIn_set_paths (d : Dict Tree) (path : String) (value : Tree) :
    lookupIn (set d path value) path = some value ∧
    (∀ rest, lookupIn (set d path value) (path ++ "." ++ rest) = lookup value rest) ∧
    (∀ parent, Below path parent →
      ∃ entries, lookupIn (set d path value) parent = some (.map entries)) ∧
    ∀ other, Apart path other → lookupIn (set d path value) other = lookupIn d other := by
  refine ⟨lookupIn_set d path value, ?_, ?_, ?_⟩
  · intro rest
    rw [lookupIn_append, lookupIn_set, Option.bind_some]
  · intro parent below
    obtain ⟨rest, rfl⟩ := below
    exact ⟨_, lookupIn_set_parent d parent rest value⟩
  · intro other apart
    exact lookupIn_set_apart d value apart

namespace Blank

def tree : Dict Tree :=
  .ofList [("a", .nat 5), ("b", .ofEntries [("c", .bool true)]), ("", .ofEntries [("b", .null)])]

def value : Tree := .ofEntries [("x", .string "new")]

end Blank

/-- A name with an empty segment, through a value that is given up. -/
theorem lookupIn_set_blank :
    Below "a..b" "a" ∧ lookupIn Blank.tree "a" = some (.nat 5) ∧ Apart "a..b" ".b" ∧
      lookupIn (set Blank.tree "a..b" Blank.value) "a..b.x" = lookup Blank.value "x" ∧
      (∃ entries, lookupIn (set Blank.tree "a..b" Blank.value) "a" = some (.map entries)) ∧
      lookupIn (set Blank.tree "a..b" Blank.value) ".b" = some .null := by
  have number : lookupIn Blank.tree "a" = some (.nat 5) := by decide
  have blank : lookupIn Blank.tree ".b" = some .null := by decide
  have below : Below "a..b" "a" := by decide
  have apart : Apart "a..b" ".b" := ⟨by decide, by decide, by decide +kernel⟩
  obtain ⟨-, behind, above, beside⟩ := lookupIn_set_paths Blank.tree "a..b" Blank.value
  exact ⟨below, number, apart, behind "x", above "a" below, (beside ".b" apart).trans blank⟩

/-- The keys of every mapping stand in order, as far as keys lead into a tree. -/
inductive InOrder : Tree → Prop where
  | leaf {t : Tree} (leaf : t.isMap = false) : InOrder t
  | map {entries : List (String × Tree)} (ascending : Entries.Ascending entries)
      (children : ∀ e ∈ entries, InOrder e.2) : InOrder (.map entries)

namespace InOrder

theorem entries {t : Tree} (ordered : InOrder t) :
    Entries.Ascending t.entries ∧ ∀ e ∈ t.entries, InOrder e.2 := by
  cases ordered with
  | map ascending children => exact ⟨ascending, children⟩
  | leaf leaf =>
      cases t with
      | map entries => cases leaf
      | null | bool | number | string | list => exact ⟨.nil, List.forall_mem_nil _⟩

theorem child {entries : List (String × Tree)} (children : ∀ e ∈ entries, InOrder e.2)
    {key : String} {value : Tree} (found : entries.lookup key = some value) : InOrder value :=
  children _ (Entries.mem_of_lookup found)

theorem ofEntries {entries : List (String × Tree)} (children : ∀ e ∈ entries, InOrder e.2) :
    InOrder (.ofEntries entries) := by
  apply map (Dict.ofList entries).ascending
  intro e member
  exact children e (Dict.mem_ofList member)

theorem flat {entries : List (String × Tree)} (leaves : ∀ e ∈ entries, e.2.isMap = false) :
    InOrder (.ofEntries entries) := by
  apply ofEntries
  intro e member
  exact leaf (leaves e member)

mutual

theorem toTree : (n : Yaml.Node) → {t : Tree} → n.toTree = .ok t → InOrder t
  | .mapping entries, t, read => by
      obtain ⟨trees, inside, same⟩ := bind_ok.mp read
      cases same
      exact ofEntries (entryTrees entries inside)
  | .sequence items, t, read => by
      obtain ⟨trees, -, same⟩ := bind_ok.mp read
      cases same
      exact leaf rfl
  | .real text, t, read => by
      apply leaf
      rw [Yaml.Node.toTree, Yaml.Node.realTree] at read
      split at read
      · cases read
        split <;> rfl
      · split at read
        · cases read
          rfl
        · cases read
  | .null, t, read | .bool _, t, read | .int _, t, read | .string _, t, read => by
      cases read
      exact leaf rfl
  | .alias _, t, read | .bad, t, read => by cases read

theorem entryTrees : (entries : List (Yaml.Node × Yaml.Node)) →
    {trees : List (String × Tree)} → Yaml.Node.entryTrees entries = .ok trees →
    ∀ e ∈ trees, InOrder e.2
  | [], trees, read => by
      cases read
      exact List.forall_mem_nil _
  | (k, n) :: rest, trees, read => by
      obtain ⟨key, -, read⟩ := bind_ok.mp read
      obtain ⟨t, first, read⟩ := bind_ok.mp read
      obtain ⟨others, behind, same⟩ := bind_ok.mp read
      cases same
      exact List.forall_mem_cons.mpr ⟨toTree n first, entryTrees rest behind⟩

end

end InOrder

theorem mergeEntries_nil {overlay : List (String × Tree)}
    (ascending : Entries.Ascending overlay) : mergeEntries [] overlay = overlay := by
  apply Entries.ext_lookup (ascending_mergeEntries overlay .nil) ascending
  intro key
  rw [lookup_mergeEntries, List.lookup_nil]
  cases overlay.lookup key with
  | none => rfl
  | some value => exact congrArg some (mergeValue_none value)

theorem mergeValue_map (base : Option Tree) {overlay : List (String × Tree)}
    (ascending : Entries.Ascending overlay) :
    mergeValue base (.map overlay) = .map (mergeEntries (surviving base) overlay) := by
  by_cases mapping : ∃ under, base = some (.map under)
  · obtain ⟨under, rfl⟩ := mapping
    rfl
  · rw [not_exists] at mapping
    rw [surviving_apart mapping, mergeEntries_nil ascending]
    apply mergeValue_apart
    intro under same
    exact absurd same (mapping under)

theorem mergeValue_again {overlay : Tree} (ordered : InOrder overlay) (base : Option Tree)
    (under : InOrder (base.getD .null)) :
    mergeValue (some (mergeValue base overlay)) overlay = mergeValue base overlay := by
  induction ordered generalizing base with
  | @leaf overlay leaf =>
      have kept : ∀ base, mergeValue base overlay = overlay :=
        fun base => mergeValue_apart fun _ _ => leaf
      rw [kept, kept]
  | @map overlay ascending children ih =>
      obtain ⟨belowAscending, below⟩ := under.entries
      rw [← surviving] at belowAscending below
      have once := ascending_mergeEntries overlay belowAscending
      rw [mergeValue_map base ascending, mergeValue]
      congr 1
      apply Entries.ext_lookup (ascending_mergeEntries overlay once) once
      intro key
      rw [lookup_mergeEntries, lookup_mergeEntries]
      cases found : overlay.lookup key with
      | none => rfl
      | some value =>
          dsimp only
          congr 1
          apply ih _ (Entries.mem_of_lookup found)
          cases kept : (surviving base).lookup key with
          | none => exact .leaf rfl
          | some child => exact InOrder.child below kept

theorem ofDict_inj {d e : Dict Tree} (same : Tree.ofDict d = Tree.ofDict e) : d = e := by
  cases d
  cases e
  cases same
  rfl

theorem merge_again {base overlay : Dict Tree} (below : InOrder (.ofDict base))
    (ordered : InOrder (.ofDict overlay)) :
    merge (merge base overlay) overlay = merge base overlay := by
  apply ofDict_inj
  exact mergeValue_again ordered (some (.ofDict base)) below

theorem empty_merge (overlay : Dict Tree) : merge ∅ overlay = overlay := by
  apply ofDict_inj
  exact congrArg Tree.map (mergeEntries_nil overlay.ascending)

theorem merge_empty (base : Dict Tree) : merge base ∅ = base := by
  apply ofDict_inj
  rfl

/-- At a name where the overlay has anything, a merge has that, or the merge of both mappings if it
is one on either side. Behind a value of the overlay that is no mapping it has nothing, and at any
other name what the base has. -/
theorem lookupIn_merge_paths (base overlay : Dict Tree) :
    (∀ path value, lookupIn overlay path = some value → value.isMap = false →
      lookupIn (merge base overlay) path = some value) ∧
    (∀ path upper under, lookupIn overlay path = some (.map upper) →
      lookupIn base path = some (.map under) →
      lookupIn (merge base overlay) path = some (.map (mergeEntries under upper))) ∧
    (∀ path upper, lookupIn overlay path = some (.map upper) →
      (∀ under, lookupIn base path ≠ some (.map under)) →
      lookupIn (merge base overlay) path = some (.map upper)) ∧
    (∀ path parent value, Below path parent → lookupIn overlay parent = some value →
      value.isMap = false → lookupIn (merge base overlay) path = none) ∧
    (∀ path, lookupIn overlay path = none →
      (∀ parent value, Below path parent → lookupIn overlay parent = some value →
        value.isMap = true) →
      lookupIn (merge base overlay) path = lookupIn base path) ∧
    (InOrder (.ofDict base) → InOrder (.ofDict overlay) →
      merge (merge base overlay) overlay = merge base overlay) ∧
    merge base ∅ = base ∧ merge ∅ overlay = overlay := by
  have replaces : ∀ path value, lookupIn overlay path = some value → value.isMap = false →
      lookupIn (merge base overlay) path = some value := by
    intro path value given leaf
    rw [lookupIn_merge_some base given, mergeValue_apart fun _ _ => leaf]
  refine ⟨replaces, ?_, ?_, ?_, ?_, merge_again, merge_empty base, empty_merge overlay⟩
  · intro path upper under given present
    rw [lookupIn_merge_some base given, present, mergeValue]
  · intro path upper given apart
    rw [lookupIn_merge_some base given, mergeValue_apart]
    intro under present
    exact absurd present (apart under)
  · intro path parent value below given leaf
    obtain ⟨rest, rfl⟩ := below
    rw [lookupIn_append, replaces parent value given leaf, Option.bind_some]
    exact walk_leaf leaf (segments_ne_nil rest)
  · intro path absent clear
    exact lookupIn_merge_none base absent clear

namespace Clash

def base : Dict Tree :=
  .ofList [("db", .ofEntries [("host", .string "a"), ("port", .nat 5432)]), ("log", .string "off"),
    ("keep", .ofEntries [("deep", .nat 1)])]

def overlay : Dict Tree :=
  .ofList [("db", .ofEntries [("port", .null)]), ("log", .ofEntries [("level", .string "info")]),
    ("keep", .list [.nat 2])]

theorem base_inOrder : InOrder (.ofDict base) := by
  apply InOrder.ofEntries
  rw [List.forall_mem_cons, List.forall_mem_cons, List.forall_mem_singleton]
  exact ⟨.flat (by decide), .leaf rfl, .flat (by decide)⟩

theorem overlay_inOrder : InOrder (.ofDict overlay) := by
  apply InOrder.ofEntries
  rw [List.forall_mem_cons, List.forall_mem_cons, List.forall_mem_singleton]
  exact ⟨.flat (by decide), .flat (by decide), .leaf rfl⟩

end Clash

theorem lookupIn_merge_clash :
    lookupIn (merge Clash.base Clash.overlay) "db.port" = some .null ∧
      lookupIn (merge Clash.base Clash.overlay) "db" =
        some (.map (mergeEntries [("host", .string "a"), ("port", .nat 5432)] [("port", .null)])) ∧
      lookupIn (merge Clash.base Clash.overlay) "log" = some (.map [("level", .string "info")]) ∧
      lookupIn Clash.base "keep.deep" = some (.nat 1) ∧
      lookupIn (merge Clash.base Clash.overlay) "keep.deep" = none ∧
      lookupIn (merge Clash.base Clash.overlay) "db.host" = some (.string "a") ∧
      merge (merge Clash.base Clash.overlay) Clash.overlay = merge Clash.base Clash.overlay := by
  obtain ⟨replaces, merges, adds, hides, keeps, again, -, -⟩ :=
    lookupIn_merge_paths Clash.base Clash.overlay
  have text : lookupIn Clash.base "log" = some (.string "off") := by decide
  have sequence : lookupIn Clash.overlay "keep" = some (.list [.nat 2]) := by decide
  have host : lookupIn Clash.base "db.host" = some (.string "a") := by decide
  have clear : ∀ parent value, Below "db.host" parent →
      lookupIn Clash.overlay parent = some value → value.isMap = true := by
    intro parent value below given
    have pair : segments "db.host" = ["db", "host"] := by decide
    rw [lookupIn_eq_walk, below.segments_of_pair pair] at given
    obtain rfl := Option.some.inj given
    rfl
  refine ⟨replaces _ _ (by decide) rfl, merges _ _ _ (by decide +kernel) (by decide +kernel),
    adds _ _ (by decide) ?_, by decide +kernel,
    hides _ "keep" _ (by decide) sequence rfl,
    (keeps _ (by decide) clear).trans host, again Clash.base_inOrder Clash.overlay_inOrder⟩
  intro under present
  rw [text] at present
  cases present

end JobContainers.Property

import JobContainers.JobSpec
import Mathlib.Data.String.Basic

/-!
Laws of dotted names. Looking up is going down segment by segment; setting a value is seen at its
own name and at no name beside it; a merge shows at each name what the overlay says there, and else
the base.
-/

set_option autoImplicit false

namespace JobContainers.Property

namespace Path

theorem split_dot (text : List Char) :
    split ('.' :: text) = ([], .ofList (split text).1 :: (split text).2) := rfl

theorem split_char {c : Char} (plain : c ≠ '.') (text : List Char) :
    split (c :: text) = (c :: (split text).1, (split text).2) := by
  rw [split]
  exact if_neg plain

theorem split_append (front rest : List Char) :
    split (front ++ '.' :: rest) =
      ((split front).1, (split front).2 ++ .ofList (split rest).1 :: (split rest).2) := by
  induction front with
  | nil => rfl
  | cons c front ih =>
      rw [List.cons_append]
      by_cases dot : c = '.'
      · rw [dot, split_dot, split_dot, ih, List.cons_append]
      · rw [split_char dot, split_char dot, ih]

def dotted (segments : List String) : List Char := segments.flatMap fun s => '.' :: s.toList

theorem dotted_cons (segment : String) (rest : List String) :
    dotted (segment :: rest) = '.' :: (segment.toList ++ dotted rest) := by
  rw [dotted, List.flatMap_cons, List.cons_append, ← dotted]

theorem split_dotted (text : List Char) : (split text).1 ++ dotted (split text).2 = text := by
  induction text with
  | nil => rfl
  | cons c text ih =>
      by_cases dot : c = '.'
      · rw [dot, split_dot, dotted_cons, String.toList_ofList, ih, List.nil_append]
      · rw [split_char dot, List.cons_append, ih]

theorem split_splitFirst (text : List Char) :
    split text = match splitFirst text with
      | (first, none) => (first, [])
      | (first, some rest) => (first, .ofList (split rest).1 :: (split rest).2) := by
  induction text with
  | nil => rfl
  | cons c text ih =>
      by_cases dot : c = '.'
      · rw [dot]
        rfl
      · rw [split_char dot, splitFirst, if_neg dot, ih]
        rcases splitFirst text with ⟨first, _ | rest⟩ <;> rfl

theorem split_cut {text : List Char} {middle more : List String} {segment : String}
    (parts : (split text).2 = middle ++ segment :: more) :
    ∃ front rest, text = front ++ '.' :: rest ∧ split front = ((split text).1, middle) := by
  induction text generalizing middle with
  | nil => cases middle <;> cases parts
  | cons c text ih =>
      by_cases dot : c = '.'
      · subst dot
        cases middle with
        | nil => exact ⟨[], text, rfl, rfl⟩
        | cons next middle =>
            rw [split_dot, List.cons_append] at parts
            obtain ⟨first, behind⟩ := List.cons.inj parts
            obtain ⟨front, rest, rfl, done⟩ := ih behind
            refine ⟨'.' :: front, rest, rfl, ?_⟩
            rw [split_dot, split_dot, done, first]
      · rw [split_char dot] at parts
        obtain ⟨front, rest, rfl, done⟩ := ih parts
        refine ⟨c :: front, rest, rfl, ?_⟩
        rw [split_char dot, split_char dot, done]

end Path

def segments (path : String) : List String := (Path.ofText path).segments

theorem segments_ne_nil (path : String) : segments path ≠ [] := List.cons_ne_nil _ _

/-- The name continues another one behind a dot. -/
def Below (path parent : String) : Prop := ∃ rest, path = parent ++ "." ++ rest

structure Apart (path other : String) : Prop where
  ne : path ≠ other
  notBelow : ¬Below path other
  notAbove : ¬Below other path

theorem Apart.symm {path other : String} (apart : Apart path other) : Apart other path :=
  ⟨apart.ne.symm, apart.notAbove, apart.notBelow⟩

theorem toList_behind (parent rest : String) :
    (parent ++ "." ++ rest).toList = parent.toList ++ '.' :: rest.toList := by
  rw [String.toList_append, String.toList_append, List.append_assoc]
  rfl

theorem segments_append (parent rest : String) :
    segments (parent ++ "." ++ rest) = segments parent ++ segments rest := by
  simp only [segments, Path.segments, Path.ofText, toList_behind, Path.split_append,
    List.cons_append]

theorem toList_of_segments {path first : String} {rest : List String}
    (parts : segments path = first :: rest) : path.toList = first.toList ++ Path.dotted rest := by
  obtain ⟨rfl, rfl⟩ := List.cons.inj parts
  rw [Path.ofText, String.toList_ofList, Path.split_dotted]

theorem below_of_extends {path parent : String} (inside : segments parent <+: segments path) :
    path = parent ∨ Below path parent := by
  obtain ⟨more, parts⟩ := inside
  have whole : path.toList = parent.toList ++ Path.dotted more := by
    rcases split : segments parent with _ | ⟨first, middle⟩
    · exact absurd split (segments_ne_nil parent)
    · rw [split, List.cons_append] at parts
      rw [toList_of_segments parts.symm, toList_of_segments split, List.append_assoc, Path.dotted,
        List.flatMap_append, ← Path.dotted, ← Path.dotted]
  cases more with
  | nil =>
      left
      exact String.toList_inj.mp (whole.trans (List.append_nil _))
  | cons segment more =>
      right
      refine ⟨.ofList (segment.toList ++ Path.dotted more), String.toList_inj.mp ?_⟩
      rw [whole, toList_behind, String.toList_ofList, Path.dotted_cons]

theorem below_iff {path parent : String} :
    Below path parent ↔ segments parent <+: segments path ∧ path ≠ parent := by
  constructor
  · rintro ⟨rest, rfl⟩
    refine ⟨⟨segments rest, (segments_append parent rest).symm⟩, ?_⟩
    intro same
    have parts := segments_append parent rest
    rw [same] at parts
    exact segments_ne_nil rest (List.self_eq_append_right.mp parts)
  · rintro ⟨inside, differs⟩
    exact (below_of_extends inside).resolve_left differs

instance (path parent : String) : Decidable (Below path parent) := decidable_of_iff' _ below_iff

theorem apart_iff {path other : String} :
    Apart path other ↔ path ≠ other ∧ ¬Below path other ∧ ¬Below other path :=
  ⟨fun apart => ⟨apart.ne, apart.notBelow, apart.notAbove⟩,
    fun ⟨ne, notBelow, notAbove⟩ => ⟨ne, notBelow, notAbove⟩⟩

instance (path other : String) : Decidable (Apart path other) := decidable_of_iff' _ apart_iff

theorem Apart.diverges {path other : String} (apart : Apart path other) :
    ¬segments path <+: segments other := by
  intro inside
  rcases below_of_extends inside with same | below
  · exact apart.ne same.symm
  · exact apart.notAbove below

theorem exists_parent {path : String} {front rest : List String}
    (parts : segments path = front ++ rest) (nonempty : front ≠ []) (more : rest ≠ []) :
    ∃ parent, segments parent = front ∧ Below path parent := by
  obtain ⟨first, middle, rfl⟩ := List.exists_cons_of_ne_nil nonempty
  obtain ⟨segment, rest, rfl⟩ := List.exists_cons_of_ne_nil more
  obtain ⟨head, behind⟩ := List.cons.inj parts
  obtain ⟨cut, tail, text, done⟩ := Path.split_cut behind
  refine ⟨.ofList cut, ?_, .ofList tail, ?_⟩
  · rw [segments, Path.segments, Path.ofText, String.toList_ofList, done, ← head]
    rfl
  · apply String.toList_inj.mp
    rw [text, toList_behind, String.toList_ofList, String.toList_ofList]

theorem Below.segments_of_pair {path parent first second : String} (below : Below path parent)
    (pair : segments path = [first, second]) : segments parent = [first] := by
  obtain ⟨rest, rfl⟩ := below
  rw [segments_append] at pair
  obtain ⟨head, front, parts⟩ := List.exists_cons_of_ne_nil (segments_ne_nil parent)
  obtain ⟨next, more, behind⟩ := List.exists_cons_of_ne_nil (segments_ne_nil rest)
  rw [parts, behind] at pair
  cases front with
  | nil => rw [parts, (List.cons.inj pair).1]
  | cons second front => simp at pair

theorem Below.lt {path parent : String} (below : Below path parent) : parent < path := by
  obtain ⟨rest, rfl⟩ := below
  have longer : parent.toList ++ [] < parent.toList ++ '.' :: rest.toList :=
    List.append_left_lt (List.nil_lt_cons '.' rest.toList)
  rw [String.lt_iff_toList_lt, toList_behind]
  rwa [List.append_nil] at longer

theorem lookupIn_eq_walk (d : Dict Tree) (path : String) :
    lookupIn d path = walk (.ofDict d) (segments path) := by
  have parts := Path.split_splitFirst path.toList
  rw [lookupIn, segments, Path.segments, Path.ofText]
  split
  · rename_i first found
    rw [found] at parts
    rw [parts]
    simp [walk, Tree.ofDict, Tree.entries, Dict.get?]
  · rename_i first rest found
    rw [found] at parts
    rw [parts]
    simp [walk, Tree.ofDict, Tree.entries, Dict.get?, lookup, Path.segments, Path.ofText]

def setEntries (entries : List (String × Tree)) (value : Tree) :
    String → List String → List (String × Tree)
  | key, [] => Entries.insert key value entries
  | key, next :: rest =>
    Entries.insert key (.map (setEntries (surviving (entries.lookup key)) value next rest)) entries

theorem setText_eq (entries : List (String × Tree)) (value : Tree) (text : List Char) :
    setText entries value text =
      setEntries entries value (.ofList (Path.split text).1) (Path.split text).2 := by
  induction entries, text using setText.induct with
  | case1 entries text first alone =>
      rw [setText, alone, Path.split_splitFirst, alone]
      rfl
  | case2 entries text first rest parts ih =>
      rw [setText, parts, Path.split_splitFirst, parts]
      simp only [ih, setEntries]

theorem entries_set (d : Dict Tree) (path : String) (value : Tree) :
    (set d path value).entries =
      setEntries d.entries value (Path.ofText path).first (Path.ofText path).rest :=
  setText_eq d.entries value path.toList

theorem ofDict_set (d : Dict Tree) (path : String) (value : Tree) :
    Tree.ofDict (set d path value) =
      .map (setEntries d.entries value (Path.ofText path).first (Path.ofText path).rest) :=
  congrArg Tree.map (entries_set d path value)

theorem walk_setEntries (entries : List (String × Tree)) (value : Tree) (key : String)
    (rest : List String) :
    walk (.map (setEntries entries value key rest)) (key :: rest) = some value := by
  induction rest generalizing entries key with
  | nil => simp [walk, setEntries, Tree.entries, Entries.lookup_insert]
  | cons next rest ih =>
      rw [walk, Tree.entries, setEntries, Entries.lookup_insert, if_pos rfl, Option.bind_some]
      exact ih _ _

/-- Below a value that is replaced by a mapping there was nothing before. -/
theorem walk_surviving (t : Option Tree) (key : String) (rest : List String) :
    walk (.map (surviving t)) (key :: rest) = t.bind (walk · (key :: rest)) := by
  cases t <;> rfl

theorem walk_setEntries_apart {entries : List (String × Tree)} {value : Tree} {key : String}
    {rest other : List String} (notPrefix : ¬key :: rest <+: other)
    (notInside : ¬other <+: key :: rest) :
    walk (.map (setEntries entries value key rest)) other = walk (.map entries) other := by
  induction rest generalizing entries key other with
  | nil =>
      cases other with
      | nil => exact absurd List.nil_prefix notInside
      | cons first other =>
          have differs : first ≠ key := by
            rintro rfl
            exact notPrefix (List.cons_prefix_cons.mpr ⟨rfl, List.nil_prefix⟩)
          simp only [walk, Tree.entries, setEntries, Entries.lookup_insert, if_neg differs]
  | cons next rest ih =>
      cases other with
      | nil => exact absurd List.nil_prefix notInside
      | cons first other =>
          rw [walk, Tree.entries, setEntries, Entries.lookup_insert]
          by_cases same : first = key
          · -- both paths go on below one key, where a value that is no mapping is given up
            subst same
            rw [List.cons_prefix_cons, not_and] at notPrefix notInside
            rw [if_pos rfl, Option.bind_some, ih (notPrefix rfl) (notInside rfl)]
            cases other with
            | nil => exact absurd List.nil_prefix (notInside rfl)
            | cons second other => exact walk_surviving _ second other
          · rw [if_neg same]
            rfl

theorem lookupIn_set (d : Dict Tree) (path : String) (value : Tree) :
    lookupIn (set d path value) path = some value := by
  rw [lookupIn_eq_walk, ofDict_set]
  exact walk_setEntries d.entries value _ _

theorem lookupIn_set_apart (d : Dict Tree) {path other : String} (value : Tree)
    (apart : Apart path other) : lookupIn (set d path value) other = lookupIn d other := by
  rw [lookupIn_eq_walk, lookupIn_eq_walk, ofDict_set]
  exact walk_setEntries_apart apart.diverges apart.symm.diverges

theorem lookupIn_foldl_kept (f : String → Tree) {d : Dict Tree} {after : List String}
    {path : String} (present : lookupIn d path = some (f path))
    (apart : ∀ other ∈ after, other = path ∨ Apart other path) :
    lookupIn (after.foldl (fun d name => set d name (f name)) d) path = some (f path) := by
  induction after generalizing d with
  | nil => exact present
  | cons other after ih =>
      obtain ⟨first, others⟩ := List.forall_mem_cons.mp apart
      rw [List.foldl_cons]
      apply ih _ others
      rcases first with rfl | beside
      · exact lookupIn_set d _ _
      · rw [lookupIn_set_apart d _ beside, present]

/-- Of values set one after the other, one is seen unless a later one stands on its way. -/
theorem lookupIn_foldl_set (f : String → Tree) (d : Dict Tree) {before after : List String}
    {path : String} (apart : ∀ other ∈ after, other = path ∨ Apart other path) :
    lookupIn ((before ++ path :: after).foldl (fun d name => set d name (f name)) d) path =
      some (f path) := by
  rw [List.foldl_append, List.foldl_cons]
  exact lookupIn_foldl_kept f (lookupIn_set _ _ _) apart

theorem lookup_mergeEntries (base overlay : List (String × Tree)) (key : String) :
    (mergeEntries base overlay).lookup key =
      match overlay.lookup key with
      | none => base.lookup key
      | some value => some (mergeValue (base.lookup key) value) := by
  induction overlay with
  | nil => rw [mergeEntries, List.lookup_nil]
  | cons entry overlay ih =>
      obtain ⟨first, value⟩ := entry
      rw [mergeEntries, Entries.lookup_insert, Entries.lookup_head, ih]
      by_cases same : key = first
      · subst same
        simp only [if_true]
      · simp only [if_neg same]

theorem exists_entries {t : Tree} (isMap : t.isMap = true) : ∃ entries, t = .map entries := by
  cases t with
  | map entries => exact ⟨entries, rfl⟩
  | null | bool | number | string | list => cases isMap

theorem exists_entries_of_lookup {t child : Tree} {key : String}
    (inside : t.entries.lookup key = some child) : ∃ entries, t = .map entries := by
  cases t with
  | map entries => exact ⟨entries, rfl⟩
  | null | bool | number | string | list => cases inside

theorem mergeValue_apart {base : Option Tree} {overlay : Tree}
    (apart : ∀ under, base = some (.map under) → overlay.isMap = false) :
    mergeValue base overlay = overlay := by
  cases overlay with
  | map entries =>
      rw [mergeValue]
      intro under same
      cases apart under same
  | null | bool | number | string | list =>
      rw [mergeValue]
      intro entries same
      cases same

theorem mergeValue_none (overlay : Tree) : mergeValue none overlay = overlay := by
  apply mergeValue_apart
  intro under same
  cases same

theorem surviving_apart {base : Option Tree} (apart : ∀ under, base ≠ some (.map under)) :
    surviving base = [] := by
  rcases base with _ | t
  · rfl
  · cases t with
    | map entries => exact absurd rfl (apart entries)
    | null | bool | number | string | list => rfl

theorem walk_mergeValue_cons (base : Option Tree) (upper : List (String × Tree)) (key : String)
    (rest : List String) :
    walk (mergeValue base (.map upper)) (key :: rest) =
      match upper.lookup key with
      | none => base.bind (walk · (key :: rest))
      | some value => walk (mergeValue ((surviving base).lookup key) value) rest := by
  by_cases mapping : ∃ under, base = some (.map under)
  · obtain ⟨under, rfl⟩ := mapping
    rw [mergeValue, walk, Tree.entries, lookup_mergeEntries]
    cases upper.lookup key <;> rfl
  · rw [not_exists] at mapping
    have alone : mergeValue base (.map upper) = .map upper := by
      apply mergeValue_apart
      intro under same
      exact absurd same (mapping under)
    rw [alone, ← walk_surviving, surviving_apart mapping, walk, Tree.entries]
    cases upper.lookup key with
    | none => rfl
    | some value =>
        dsimp only
        rw [List.lookup_nil, mergeValue_none, Option.bind_some]

theorem bind_surviving (base : Option Tree) (key : String) (rest : List String) :
    ((surviving base).lookup key).bind (walk · rest) = base.bind (walk · (key :: rest)) :=
  walk_surviving base key rest

theorem walk_mergeValue {overlay value : Tree} {path : List String} (base : Option Tree)
    (reached : walk overlay path = some value) :
    walk (mergeValue base overlay) path = some (mergeValue (base.bind (walk · path)) value) := by
  induction path generalizing base overlay with
  | nil =>
      obtain rfl := Option.some.inj reached
      cases base <;> rfl
  | cons key path ih =>
      obtain ⟨child, inside, deeper⟩ := Option.bind_eq_some_iff.mp reached
      obtain ⟨upper, rfl⟩ := exists_entries_of_lookup inside
      have next : upper.lookup key = some child := inside
      rw [walk_mergeValue_cons, next]
      dsimp only
      rw [ih _ deeper, bind_surviving]

/-- Where the overlay has nothing, a merge has what the base has, as long as the overlay has
nothing but mappings on the way. -/
theorem walk_mergeValue_none {overlay : Tree} {path : List String} (base : Option Tree)
    (missing : walk overlay path = none)
    (clear : ∀ front rest value, path = front ++ rest → rest ≠ [] →
      walk overlay front = some value → value.isMap = true) :
    walk (mergeValue base overlay) path = base.bind (walk · path) := by
  induction path generalizing base overlay with
  | nil => cases missing
  | cons key path ih =>
      obtain ⟨upper, rfl⟩ :=
        exists_entries (clear [] (key :: path) overlay rfl (List.cons_ne_nil _ _) rfl)
      rw [walk, Tree.entries] at missing
      rw [walk_mergeValue_cons]
      cases next : upper.lookup key with
      | none => rfl
      | some value =>
          rw [next, Option.bind_some] at missing
          dsimp only
          rw [ih _ missing, bind_surviving]
          intro front rest reached parts more went
          refine clear (key :: front) rest reached (by rw [parts, List.cons_append]) more ?_
          simpa [walk, Tree.entries, next] using went

theorem lookupIn_merge_eq_walk (base overlay : Dict Tree) (path : String) :
    lookupIn (merge base overlay) path =
      walk (mergeValue (some (.ofDict base)) (.ofDict overlay)) (segments path) :=
  lookupIn_eq_walk _ path

/-- What an overlay has at a name, a merge has there as well, merged with what the base has. -/
theorem lookupIn_merge_some {overlay : Dict Tree} {path : String} {value : Tree}
    (base : Dict Tree) (given : lookupIn overlay path = some value) :
    lookupIn (merge base overlay) path = some (mergeValue (lookupIn base path) value) := by
  rw [lookupIn_eq_walk] at given
  rw [lookupIn_merge_eq_walk, walk_mergeValue _ given, lookupIn_eq_walk, Option.bind_some]

theorem lookupIn_merge_none {overlay : Dict Tree} {path : String} (base : Dict Tree)
    (absent : lookupIn overlay path = none)
    (clear : ∀ parent value, Below path parent → lookupIn overlay parent = some value →
      value.isMap = true) :
    lookupIn (merge base overlay) path = lookupIn base path := by
  rw [lookupIn_eq_walk] at absent
  rw [lookupIn_merge_eq_walk, walk_mergeValue_none _ absent, lookupIn_eq_walk, Option.bind_some]
  intro front rest value parts more reached
  cases front with
  | nil =>
      obtain rfl := Option.some.inj reached
      rfl
  | cons first front =>
      obtain ⟨parent, split, below⟩ := exists_parent parts (List.cons_ne_nil _ _) more
      apply clear parent value below
      rw [lookupIn_eq_walk, split, reached]

theorem lookupIn_merge {base overlay : Dict Tree} {path : String} {found : Tree}
    (present : lookupIn base path = some found)
    (apart : ∀ value, lookupIn overlay path = some value →
      ¬(found.isMap = true ∧ value.isMap = true))
    (clear : ∀ parent value, Below path parent → lookupIn overlay parent = some value →
      value.isMap = true) :
    lookupIn (merge base overlay) path = some ((lookupIn overlay path).getD found) := by
  cases given : lookupIn overlay path with
  | none => rw [lookupIn_merge_none base given clear, present, Option.getD_none]
  | some value =>
      rw [lookupIn_merge_some base given, present, Option.getD_some, mergeValue_apart]
      intro under same
      obtain rfl := Option.some.inj same
      have leaf := apart value given
      simpa [Tree.isMap] using leaf

end JobContainers.Property

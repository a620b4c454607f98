set_option autoImplicit false

namespace JobContainers

universe u v w

namespace Entries

def insert {α : Type u} (key : String) (value : α) : List (String × α) → List (String × α)
  | [] => [(key, value)]
  | (k, v) :: rest =>
    if key < k then (key, value) :: (k, v) :: rest
    else if key = k then (key, value) :: rest
    else (k, v) :: insert key value rest

def Ascending {α : Type u} (entries : List (String × α)) : Prop :=
  entries.Pairwise (fun a b => a.1 < b.1)

instance {α : Type u} (entries : List (String × α)) : Decidable (Ascending entries) :=
  inferInstanceAs (Decidable (List.Pairwise _ _))

theorem mem_insert {α : Type u} {key : String} {value : α} {entries : List (String × α)}
    {e : String × α} (h : e ∈ insert key value entries) : e = (key, value) ∨ e ∈ entries := by
  induction entries with
  | nil => simp [insert] at h; exact .inl h
  | cons head rest ih =>
    obtain ⟨k, v⟩ := head
    simp only [insert] at h
    split at h
    · simpa using h
    · split at h
      · rcases List.mem_cons.mp h with h | h
        · exact .inl h
        · exact .inr (List.mem_cons_of_mem _ h)
      · rcases List.mem_cons.mp h with h | h
        · exact .inr (h ▸ List.mem_cons_self)
        · exact (ih h).imp_right (List.mem_cons_of_mem _)

theorem ascending_insert {α : Type u} (key : String) (value : α) {entries : List (String × α)}
    (h : Ascending entries) : Ascending (insert key value entries) := by
  induction entries with
  | nil => simp [insert, Ascending]
  | cons head rest ih =>
    obtain ⟨k, v⟩ := head
    obtain ⟨below, tail⟩ := List.pairwise_cons.mp h
    simp only [insert]
    split
    · rename_i first
      refine List.pairwise_cons.mpr ⟨fun e he => ?_, h⟩
      rcases List.mem_cons.mp he with rfl | he
      · exact first
      · exact String.lt_trans first (below e he)
    · split
      · rename_i same
        subst same
        exact List.pairwise_cons.mpr ⟨below, tail⟩
      · rename_i notBelow different
        refine List.pairwise_cons.mpr ⟨fun e he => ?_, ih tail⟩
        rcases mem_insert he with rfl | he
        · exact Std.lt_of_le_of_ne (String.not_lt.mp notBelow) (Ne.symm different)
        · exact below e he

theorem lookup_head {κ : Type v} [BEq κ] [LawfulBEq κ] [DecidableEq κ] {α : Type u}
    (key key' : κ) (value : α) (rest : List (κ × α)) :
    ((key, value) :: rest).lookup key' = if key' = key then some value else rest.lookup key' := by
  by_cases same : key' = key
  · rw [if_pos same, same, List.lookup_cons_self]
  · rw [if_neg same, List.lookup_cons, beq_false_of_ne same]

theorem lookup_map {ι : Type w} {κ : Type v} [BEq κ] [LawfulBEq κ] [DecidableEq κ] {α : Type u}
    (name : ι → κ) (value : ι → α) (items : List ι) (key : κ) :
    (items.map fun item => (name item, value item)).lookup key =
      (items.find? fun item => name item = key).map value := by
  induction items with
  | nil => rfl
  | cons item items ih =>
    rw [List.map_cons, lookup_head, ih, List.find?_cons]
    by_cases same : name item = key
    · rw [if_pos same.symm, decide_eq_true same]
      rfl
    · rw [if_neg (Ne.symm same), decide_eq_false same]

theorem lookup_insert {α : Type u} (key key' : String) (value : α) (entries : List (String × α)) :
    (insert key value entries).lookup key' =
      if key' = key then some value else entries.lookup key' := by
  induction entries with
  | nil => simp only [insert, lookup_head]
  | cons head rest ih =>
    obtain ⟨k, v⟩ := head
    simp only [insert]
    split
    · rw [lookup_head]
    · split
      · rename_i same
        simp only [lookup_head, ← same]
        by_cases found : key' = key <;> simp only [found, if_true, if_false]
      · rename_i different
        rw [lookup_head, ih, lookup_head]
        by_cases found : key' = key
        · subst found
          simp only [different, if_true, if_false]
        · simp only [found, if_false]

theorem insert_insert {α : Type u} (key : String) (value former : α)
    (entries : List (String × α)) :
    insert key value (insert key former entries) = insert key value entries := by
  have atHead : ∀ rest : List (String × α),
      insert key value ((key, former) :: rest) = (key, value) :: rest := by
    intro rest
    rw [insert, if_neg (String.lt_irrefl key), if_pos rfl]
  induction entries with
  | nil => exact atHead []
  | cons head rest ih =>
    obtain ⟨k, v⟩ := head
    by_cases before : key < k
    · rw [insert, if_pos before, atHead, insert, if_pos before]
    · by_cases same : key = k
      · subst same
        rw [insert, if_neg before, if_pos rfl, atHead, insert, if_neg before, if_pos rfl]
      · simp only [insert, if_neg before, if_neg same, ih]

/-- Insertions under different keys can be exchanged, in a list that is not in order as well. -/
theorem insert_comm {α : Type u} {key other : String} (differ : key ≠ other) (value next : α)
    (entries : List (String × α)) :
    insert other next (insert key value entries) =
      insert key value (insert other next entries) := by
  induction entries with
  | nil =>
    simp only [insert]
    grind
  | cons head rest ih =>
    obtain ⟨k, v⟩ := head
    by_cases behind : k < key ∧ k < other
    · have later : ¬key < k ∧ key ≠ k := by grind
      have laterOther : ¬other < k ∧ other ≠ k := by grind
      simp [insert, later, laterOther, ih]
    · -- one of the two stays at the head
      simp only [insert]
      grind [insert]

theorem lookup_filter {α : Type u} (other key : String) (entries : List (String × α)) :
    (entries.filter (·.1 != other)).lookup key =
      if key = other then none else entries.lookup key := by
  induction entries with
  | nil => rw [List.filter_nil, List.lookup_nil, ite_self]
  | cons e rest ih =>
    obtain ⟨k, v⟩ := e
    by_cases dropped : k = other
    · subst dropped
      rw [List.filter_cons_of_neg (by simp), ih, lookup_head]
      by_cases same : key = k
      · rw [if_pos same, if_pos same]
      · rw [if_neg same, if_neg same, if_neg same]
    · rw [List.filter_cons_of_pos (by simpa using dropped), lookup_head, ih, lookup_head]
      by_cases same : key = k
      · rw [if_pos same, if_pos same, if_neg (same ▸ dropped)]
      · rw [if_neg same, if_neg same]

theorem lookup_below {α : Type u} {key : String} {entries : List (String × α)}
    (below : ∀ e ∈ entries, key < e.1) : entries.lookup key = none := by
  rw [List.lookup_eq_none_iff]
  intro e member
  refine bne_iff_ne.mpr ?_
  intro same
  exact String.lt_irrefl key (by simpa [← same] using below e member)

theorem ext_lookup {α : Type u} {first second : List (String × α)} (left : Ascending first)
    (right : Ascending second) (same : ∀ key, first.lookup key = second.lookup key) :
    first = second := by
  induction first generalizing second with
  | nil =>
    cases second with
    | nil => rfl
    | cons e second =>
      obtain ⟨l, w⟩ := e
      simpa [lookup_head] using same l
  | cons e first ih =>
    obtain ⟨k, v⟩ := e
    cases second with
    | nil => simpa [lookup_head] using same k
    | cons e second =>
      obtain ⟨l, w⟩ := e
      obtain ⟨belowLeft, tailLeft⟩ := List.pairwise_cons.mp left
      obtain ⟨belowRight, tailRight⟩ := List.pairwise_cons.mp right
      -- the first key of either side has to be in front of the other side as well
      have keys : k = l := by
        refine Decidable.byContradiction fun differ => ?_
        by_cases before : k < l
        · have absent : ((l, w) :: second).lookup k = none := lookup_below fun e member => by
            rcases List.mem_cons.mp member with rfl | member
            · exact before
            · exact String.lt_trans before (belowRight e member)
          simpa [lookup_head, absent] using same k
        · have behind := Std.lt_of_le_of_ne (String.not_lt.mp before) (Ne.symm differ)
          have absent : ((k, v) :: first).lookup l = none := lookup_below fun e member => by
            rcases List.mem_cons.mp member with rfl | member
            · exact behind
            · exact String.lt_trans behind (belowLeft e member)
          simpa [lookup_head, absent] using (same l).symm
      subst keys
      have values : v = w := by simpa [lookup_head] using same k
      subst values
      have rest : first = second := by
        refine ih tailLeft tailRight fun key => ?_
        by_cases here : key = k
        · rw [here, lookup_below belowLeft, lookup_below belowRight]
        · simpa [lookup_head, here] using same key
      rw [rest]

theorem mem_of_lookup {α : Type u} {entries : List (String × α)} {key : String} {value : α}
    (found : entries.lookup key = some value) : (key, value) ∈ entries := by
  obtain ⟨before, behind, rfl, -⟩ := List.lookup_eq_some_iff.mp found
  exact List.mem_append_right before List.mem_cons_self

theorem lookup_of_mem {α : Type u} {entries : List (String × α)} (ascending : Ascending entries)
    {e : String × α} (member : e ∈ entries) : entries.lookup e.1 = some e.2 := by
  induction entries with
  | nil => cases member
  | cons head rest ih =>
    obtain ⟨below, tail⟩ := List.pairwise_cons.mp ascending
    rw [lookup_head]
    rcases List.mem_cons.mp member with rfl | member
    · rw [if_pos rfl]
    · have behind : e.1 ≠ head.1 := fun same => String.lt_irrefl head.1 (by
        simpa only [same] using below e member)
      rw [if_neg behind, ih tail member]

theorem lookup_reverse {α : Type u} {entries : List (String × α)}
    (distinct : (entries.map (·.1)).Nodup) (key : String) :
    entries.reverse.lookup key = entries.lookup key := by
  induction entries with
  | nil => rfl
  | cons e rest ih =>
    obtain ⟨k, v⟩ := e
    obtain ⟨once, distinct⟩ := List.nodup_cons.mp distinct
    rw [List.reverse_cons, List.lookup_append, ih distinct, lookup_head, lookup_head]
    by_cases same : key = k
    · have absent : rest.lookup key = none := List.lookup_eq_none_iff.mpr fun e member =>
        bne_iff_ne.mpr fun found => once (List.mem_map.mpr ⟨e, member, found.symm.trans same⟩)
      rw [absent, if_pos same, if_pos same]
      rfl
    · rw [if_neg same, if_neg same]
      exact Option.or_none

end Entries

structure Dict (α : Type u) where
  entries : List (String × α)
  ascending : Entries.Ascending entries
  deriving DecidableEq

namespace Dict

variable {α : Type u} {β : Type v}

def empty : Dict α := ⟨[], .nil⟩

instance : EmptyCollection (Dict α) := ⟨empty⟩
instance : Inhabited (Dict α) := ⟨empty⟩

def isEmpty (d : Dict α) : Bool := d.entries.isEmpty

def size (d : Dict α) : Nat := d.entries.length

def keys (d : Dict α) : List String := d.entries.map (·.1)

def get? (d : Dict α) (key : String) : Option α := d.entries.lookup key

def insert (d : Dict α) (key : String) (value : α) : Dict α :=
  ⟨Entries.insert key value d.entries, Entries.ascending_insert key value d.ascending⟩

/-- Of several entries with one key the last is kept. -/
def ofList (entries : List (String × α)) : Dict α :=
  entries.foldl (fun d e => d.insert e.1 e.2) empty

theorem isEmpty_iff {d : Dict α} : d.isEmpty = true ↔ d = ∅ := by
  obtain ⟨entries, ascending⟩ := d
  cases entries with
  | nil => exact iff_of_true rfl rfl
  | cons e rest => exact iff_of_false nofun nofun

theorem get?_empty (key : String) : (∅ : Dict α).get? key = none := rfl

@[simp] theorem get?_insert (d : Dict α) (key key' : String) (value : α) :
    (d.insert key value).get? key' = if key' = key then some value else d.get? key' :=
  Entries.lookup_insert key key' value d.entries

theorem ext_get? {d e : Dict α} (same : ∀ key, d.get? key = e.get? key) : d = e := by
  obtain ⟨first, left⟩ := d
  obtain ⟨second, right⟩ := e
  obtain rfl : first = second := Entries.ext_lookup left right same
  rfl

theorem get?_foldl_insert (d : Dict α) (entries : List (String × α)) (key : String) :
    (entries.foldl (fun d e => d.insert e.1 e.2) d).get? key =
      (entries.reverse.lookup key).or (d.get? key) := by
  induction entries generalizing d with
  | nil => rfl
  | cons e entries ih =>
    rw [List.foldl_cons, ih, get?_insert, List.reverse_cons, List.lookup_append,
      Entries.lookup_head, Option.or_assoc]
    congr 1
    split <;> rfl

theorem get?_ofList (entries : List (String × α)) (key : String) :
    (ofList entries).get? key = entries.reverse.lookup key := by
  have kept := get?_foldl_insert empty entries key
  exact kept.trans (Option.or_none)

theorem get?_ofList_of_nodup {entries : List (String × α)}
    (distinct : (entries.map (·.1)).Nodup) (key : String) :
    (ofList entries).get? key = entries.lookup key := by
  rw [get?_ofList, Entries.lookup_reverse distinct]

theorem mem_ofList {entries : List (String × α)} {e : String × α}
    (member : e ∈ (ofList entries).entries) : e ∈ entries := by
  have found := Entries.lookup_of_mem (ofList entries).ascending member
  rw [← get?, get?_ofList] at found
  exact List.mem_reverse.mp (Entries.mem_of_lookup found)

theorem pairwise_keys (d : Dict α) : d.keys.Pairwise (· < ·) :=
  List.pairwise_map.mpr d.ascending

theorem nodup_keys (d : Dict α) : d.keys.Nodup := by
  refine d.pairwise_keys.imp ?_
  rintro first second before rfl
  exact String.lt_irrefl first before

theorem ofList_entries (d : Dict α) : ofList d.entries = d :=
  ext_get? fun key => get?_ofList_of_nodup d.nodup_keys key

theorem mem_keys {d : Dict α} {key : String} : key ∈ d.keys ↔ (d.get? key).isSome := by
  rw [← Option.ne_none_iff_isSome, ne_eq, get?, List.lookup_eq_none_iff]
  simp only [keys, List.mem_map, bne_iff_ne, ne_eq, Classical.not_forall, Decidable.not_not]
  constructor
  · rintro ⟨e, member, rfl⟩
    exact ⟨e, member, rfl⟩
  · rintro ⟨e, member, same⟩
    exact ⟨e, member, same.symm⟩

end Dict

end JobContainers

import JobContainers.Dict

set_option autoImplicit false

namespace JobContainers

universe u

structure Registry (α : Type u) where
  entries : List ((String × String) × α)
  distinct : (entries.map (·.1)).Nodup

namespace Registry

variable {α : Type u}

def empty : Registry α := ⟨[], .nil⟩

instance : EmptyCollection (Registry α) := ⟨empty⟩
instance : Inhabited (Registry α) := ⟨empty⟩

def size (r : Registry α) : Nat := r.entries.length

def get? (r : Registry α) (key : String × String) : Option α := r.entries.lookup key

theorem get?_eq_none_iff {r : Registry α} {key : String × String} :
    r.get? key = none ↔ key ∉ r.entries.map (·.1) := by
  rw [get?, List.lookup_eq_none_iff, List.mem_map, not_exists]
  exact forall_congr' fun e => by rw [bne_iff_ne, not_and, ne_comm]

theorem get?_of_mem {r : Registry α} {key : String × String} {value : α}
    (member : (key, value) ∈ r.entries) : r.get? key = some value := by
  obtain ⟨before, after, parts⟩ := List.append_of_mem member
  refine List.lookup_eq_some_iff.mpr ⟨before, after, parts, ?_⟩
  have distinct := r.distinct
  rw [parts, List.map_append, List.map_cons, List.nodup_append] at distinct
  intro e earlier
  refine bne_iff_ne.mpr ?_
  exact (distinct.2.2 e.1 (List.mem_map_of_mem earlier) key List.mem_cons_self).symm

theorem get?_eq_some_iff {r : Registry α} {key : String × String} {value : α} :
    r.get? key = some value ↔ (key, value) ∈ r.entries := by
  refine ⟨fun found => ?_, get?_of_mem⟩
  obtain ⟨before, after, parts, -⟩ := List.lookup_eq_some_iff.mp found
  rw [parts]
  exact List.mem_append_right before List.mem_cons_self

theorem get?_of_perm {r s : Registry α} (order : r.entries.Perm s.entries)
    (key : String × String) : r.get? key = s.get? key := by
  refine Option.ext fun value => ?_
  rw [get?_eq_some_iff, get?_eq_some_iff, order.mem_iff]

/-- Adds a value at the end, unless there is one under these names. -/
def add (r : Registry α) (key : String × String) (value : α) : Registry α :=
  if h : key ∈ r.entries.map (·.1) then r
  else
    { entries := r.entries ++ [(key, value)]
      distinct := by
        rw [List.map_append, List.nodup_append]
        refine ⟨r.distinct, by simp, fun a ha b hb => ?_⟩
        simp only [List.map_cons, List.map_nil, List.mem_singleton] at hb
        exact fun e => h (hb ▸ e ▸ ha) }

theorem entries_add {r : Registry α} {key : String × String} (value : α)
    (h : r.get? key = none) : (r.add key value).entries = r.entries ++ [(key, value)] := by
  rw [add, dif_neg (get?_eq_none_iff.mp h)]

@[simp] theorem get?_add (r : Registry α) (key key' : String × String) (value : α) :
    (r.add key value).get? key' =
      (r.get? key').or (if key' = key then some value else none) := by
  cases h : r.get? key with
  | none =>
    rw [get?, entries_add value h, List.lookup_append, Entries.lookup_head, List.lookup_nil, get?]
  | some v =>
    have taken : key ∈ r.entries.map (·.1) := Decidable.byContradiction fun free => by
      rw [get?_eq_none_iff.mpr free] at h
      cases h
    rw [add, dif_pos taken]
    by_cases same : key' = key
    · rw [same, h, Option.some_or]
    · rw [if_neg same, Option.or_none]

end Registry

end JobContainers

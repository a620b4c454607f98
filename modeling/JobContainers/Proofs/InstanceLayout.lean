import JobContainers.Placement
import Mathlib.Data.List.Nodup
import Mathlib.Data.List.ProdSigma

set_option autoImplicit false

namespace JobContainers

universe u

namespace JobInstance

def unplaced (x : JobInstance) : JobInstance := { x with az := "" }

/-- The replica of an instance and its place among so many zones. -/
def slot (zones : Nat) (x : JobInstance) : Nat × Nat := (x.replica, x.index % zones)

end JobInstance

/-- Instances laid out over replicas and zones, all zones of a replica before the next one. -/
structure LaidOut (replicas : Nat) (zones : List String) (instances : List JobInstance) : Prop where
  length : instances.length = replicas * zones.length
  placed : ∀ (i : Nat) (x : JobInstance), instances[i]? = some x →
    x.index = i ∧ x.replica = i / zones.length ∧ zones[i % zones.length]? = some x.az
  inOrder : instances.map (JobInstance.slot zones.length) =
    List.range replicas ×ˢ List.range zones.length
  once : ∀ replica < replicas, ∀ place < zones.length,
    (instances.map (JobInstance.slot zones.length)).count (replica, place) = 1
  bootstrap : 0 < replicas → (instances.map JobInstance.index).count 0 = 1

theorem getElem?_range_product {α : Type u} (replicas : Nat) (zones : List α) (i : Nat)
    (inside : i < replicas * zones.length) :
    (List.range replicas ×ˢ zones)[i]? =
      zones[i % zones.length]?.map (i / zones.length, ·) := by
  induction replicas with
  | zero => simp at inside
  | succ replicas ih =>
      have size : (List.range replicas ×ˢ zones).length = replicas * zones.length := by
        rw [List.length_product, List.length_range]
      have blocks : List.range (replicas + 1) ×ˢ zones =
          List.range replicas ×ˢ zones ++ zones.map (replicas, ·) := by
        change List.flatMap _ _ = List.flatMap _ _ ++ _
        rw [List.range_succ, List.flatMap_append, List.flatMap_singleton]
      rw [blocks]
      by_cases earlier : i < replicas * zones.length
      · rw [List.getElem?_append_left (by omega)]
        exact ih earlier
      · -- the block of the last replica begins where those of the others end
        have place : ∃ k, i = replicas * zones.length + k := Nat.exists_eq_add_of_le (by omega)
        obtain ⟨k, rfl⟩ := place
        have within : k < zones.length := by
          rw [Nat.succ_mul] at inside
          omega
        have quotient : (replicas * zones.length + k) / zones.length = replicas := by
          rw [Nat.mul_comm, Nat.mul_add_div (by omega), Nat.div_eq_of_lt within, Nat.add_zero]
        have remainder : (replicas * zones.length + k) % zones.length = k := by
          rw [Nat.mul_comm, Nat.mul_add_mod, Nat.mod_eq_of_lt within]
        rw [List.getElem?_append_right (by omega), size, Nat.add_sub_cancel_left, quotient,
          remainder, List.getElem?_map]

namespace InstanceGroup

variable (g : InstanceGroup) (cluster : Cluster) (job : String)

theorem length_zones_pos : 0 < g.zones.length := by
  apply List.length_pos_iff.mpr
  rw [zones]
  split
  · simp
  · rename_i declared
    simpa using declared

theorem exists_turn (i : Nat) : ∃ zone, g.zones[i % g.zones.length]? = some zone := by
  have place : i % g.zones.length < g.zones.length := Nat.mod_lt i g.length_zones_pos
  exact ⟨_, List.getElem?_eq_getElem place⟩

theorem length_jobInstances :
    (g.jobInstances cluster job).length = g.instances * g.zones.length := by
  have product : g.slots = List.range g.instances ×ˢ g.zones := rfl
  rw [jobInstances, List.length_map, List.length_zipIdx, product, List.length_product,
    List.length_range]

theorem getElem?_jobInstances (i : Nat) :
    (g.jobInstances cluster job)[i]? =
      if i < g.instances * g.zones.length then
        g.zones[i % g.zones.length]?.map (g.jobInstance cluster job i (i / g.zones.length))
      else none := by
  split
  · rename_i inside
    have product : g.slots = List.range g.instances ×ˢ g.zones := rfl
    rw [jobInstances, List.getElem?_map, List.getElem?_zipIdx, product,
      getElem?_range_product _ _ _ inside]
    simp [Function.comp_def]
  · rename_i outside
    rw [List.getElem?_eq_none_iff, length_jobInstances]
    omega

variable {g cluster job}

theorem jobInstances_at {i : Nat} {x : JobInstance}
    (found : (g.jobInstances cluster job)[i]? = some x) :
    g.zones[i % g.zones.length]? = some x.az ∧
      x = g.jobInstance cluster job i (i / g.zones.length) x.az := by
  rw [getElem?_jobInstances] at found
  split at found
  · obtain ⟨zone, turn⟩ := g.exists_turn i
    have made : g.jobInstance cluster job i (i / g.zones.length) zone = x := by
      simpa [turn] using found
    subst made
    exact ⟨turn, rfl⟩
  · cases found

theorem index_at {i : Nat} {x : JobInstance}
    (found : (g.jobInstances cluster job)[i]? = some x) : x.index = i := by
  rw [(jobInstances_at found).2]
  rfl

theorem map_index : (g.jobInstances cluster job).map JobInstance.index =
    List.range (g.instances * g.zones.length) := by
  apply List.ext_getElem
  · simp [length_jobInstances]
  · intro i _ _
    simp only [List.getElem_map, List.getElem_range]
    exact index_at (List.getElem?_eq_getElem _)

theorem map_slot : (g.jobInstances cluster job).map (JobInstance.slot g.zones.length) =
    List.range g.instances ×ˢ List.range g.zones.length := by
  have zones : (List.range g.zones.length).length = g.zones.length := List.length_range
  apply List.ext_getElem?
  intro i
  by_cases inside : i < g.instances * g.zones.length
  · have place : i % g.zones.length < g.zones.length := Nat.mod_lt i g.length_zones_pos
    obtain ⟨zone, turn⟩ := g.exists_turn i
    rw [List.getElem?_map, getElem?_jobInstances, if_pos inside, turn,
      getElem?_range_product _ _ _ (by rwa [zones]), zones, List.getElem?_range place]
    rfl
  · rw [List.getElem?_eq_none_iff.mpr, List.getElem?_eq_none_iff.mpr]
    · rw [List.length_product, List.length_range, zones]
      omega
    · rw [List.length_map, length_jobInstances]
      omega

theorem jobInstances_laidOut :
    LaidOut g.instances g.zones (g.jobInstances cluster job) where
  length := length_jobInstances g cluster job
  placed i x found := by
    have made := jobInstances_at found
    refine ⟨index_at found, ?_, made.1⟩
    rw [made.2]
    rfl
  inOrder := map_slot
  once replica replicas place zones := by
    rw [map_slot]
    apply List.count_eq_one_of_mem
    · exact List.nodup_range.product List.nodup_range
    · simp [replicas, zones]
  bootstrap some := by
    rw [map_index]
    apply List.count_eq_one_of_mem List.nodup_range
    rw [List.mem_range]
    exact Nat.mul_pos some g.length_zones_pos

theorem unplaced_jobInstances {azs : List String}
    (many : ({ g with azs := azs } : InstanceGroup).zones.length = g.zones.length) :
    ({ g with azs := azs }.jobInstances cluster job).map JobInstance.unplaced =
      (g.jobInstances cluster job).map JobInstance.unplaced := by
  apply List.ext_getElem?
  intro i
  simp only [List.getElem?_map, getElem?_jobInstances, many]
  split
  · obtain ⟨zone, here⟩ := g.exists_turn i
    obtain ⟨other, there⟩ := ({ g with azs := azs } : InstanceGroup).exists_turn i
    rw [many] at there
    rw [here, there]
    -- without their zones the two are made of the position, and of the name that they share
    rfl
  · rfl

/-- The instances of a job are laid out over the replicas of its group and its zones, counted from
the first one of the first replica. How the instance at a position is called and reached is the
same in every group of the name. Declaring the zones in another order changes nothing else than the
zones of the instances. -/
theorem jobInstances_layout (g : InstanceGroup) (cluster : Cluster) (job : String) :
    LaidOut g.instances g.zones (g.jobInstances cluster job) ∧
      (∀ (other : InstanceGroup) (i : Nat) (x y : JobInstance), other.name = g.name →
        (g.jobInstances cluster job)[i]? = some x →
        (other.jobInstances cluster job)[i]? = some y →
        x.id = y.id ∧ x.name = y.name ∧ x.address = y.address) ∧
      ∀ azs : List String, azs.Perm g.azs →
        ({ g with azs := azs }.jobInstances cluster job).map JobInstance.unplaced =
          (g.jobInstances cluster job).map JobInstance.unplaced := by
  refine ⟨jobInstances_laidOut, ?_, ?_⟩
  · intro other i x y named here there
    rw [(jobInstances_at here).2, (jobInstances_at there).2]
    simp only [jobInstance, named, and_self]
  · intro azs reordered
    apply unplaced_jobInstances
    have many : azs.length = g.azs.length := reordered.length_eq
    simp only [zones, reordered.isEmpty_eq]
    split
    · rfl
    · exact many

end InstanceGroup

namespace Spread

def cluster : Cluster := ⟨"cf", Cluster.defaultDomain⟩

def group : InstanceGroup := ⟨"nats", 2, ["z1", "z2"], none, []⟩

def turned : InstanceGroup := { group with azs := ["z2", "z1"] }

def unzoned : InstanceGroup := ⟨"nats", 3, [], none, []⟩

def third : JobInstance :=
  ⟨"nats-2-gnatsd.cf.svc.cluster.local", "z1", "nats-2-gnatsd", 2, 1, "nats-gnatsd"⟩

theorem third_found : (group.jobInstances cluster "gnatsd")[2]? = some third := by decide

theorem third_unzoned : (unzoned.jobInstances cluster "gnatsd")[2]? =
    some { third with az := "", replica := 2 } := by decide

end Spread

theorem jobInstances_layout_spread :
    LaidOut 2 ["z1", "z2"] (Spread.group.jobInstances Spread.cluster "gnatsd") ∧
      Spread.third.id = "nats-2-gnatsd" ∧ Spread.third.az = "z1" ∧
      (Spread.unzoned.name = Spread.group.name ∧
        ∀ y, (Spread.unzoned.jobInstances Spread.cluster "gnatsd")[2]? = some y →
          y.az = "" ∧ Spread.third.address = y.address) ∧
      ["z2", "z1"].Perm Spread.group.azs ∧
      (Spread.turned.jobInstances Spread.cluster "gnatsd").map JobInstance.az ≠
        (Spread.group.jobInstances Spread.cluster "gnatsd").map JobInstance.az ∧
      (Spread.turned.jobInstances Spread.cluster "gnatsd").map JobInstance.unplaced =
        (Spread.group.jobInstances Spread.cluster "gnatsd").map JobInstance.unplaced := by
  have layout := Spread.group.jobInstances_layout Spread.cluster "gnatsd"
  have reordered : ["z2", "z1"].Perm Spread.group.azs := by decide
  have moved : (Spread.turned.jobInstances Spread.cluster "gnatsd").map JobInstance.az ≠
      (Spread.group.jobInstances Spread.cluster "gnatsd").map JobInstance.az := by decide
  refine ⟨layout.1, rfl, rfl, ⟨rfl, ?_⟩, reordered, moved, layout.2.2 _ reordered⟩
  intro y found
  have same := layout.2.1 Spread.unzoned 2 Spread.third y rfl Spread.third_found found
  rw [Spread.third_unzoned] at found
  obtain rfl := Option.some.inj found
  exact ⟨rfl, same.2.2⟩

end JobContainers

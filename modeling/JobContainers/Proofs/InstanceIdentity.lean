import JobContainers.Proofs.InstanceLayout
import JobContainers.Proofs.QuantityNumber

/-!
Instances of a group do not share an identity. An id joins the group, the index and the job with
hyphens, and names may hold digits and hyphens themselves; still it can be read in one way only,
since all ids of a group begin alike and an index ends where the digits behind that do.
-/

set_option autoImplicit false

namespace JobContainers

/-- A number is read back up to a character that is no digit. -/
theorem Decimal.digitText_append_inj {n m : Nat} {stop : Char} (outside : stop.isDigit = false)
    {rest others : List Char}
    (same : digitText n ++ stop :: rest = digitText m ++ stop :: others) :
    n = m ∧ rest = others := by
  have front : ∀ (k : Nat) (tail : List Char),
      (digitText k ++ stop :: tail).takeWhile Char.isDigit = digitText k := by
    intro k tail
    exact (Quantity.digits_append (digits_digitText k) (by simpa using outside)).1
  have digits : digitText n = digitText m := by rw [← front n rest, same, front]
  obtain rfl : n = m := digitText_inj.mp digits
  have tails := List.append_cancel_left same
  exact ⟨rfl, (List.cons.inj tails).2⟩

theorem Cluster.address_inj {c : Cluster} {service other : String} :
    c.address service = c.address other ↔ service = other := by
  constructor
  · intro same
    have texts := congrArg String.toList same
    simp only [address, String.toList_append, List.append_assoc] at texts
    exact String.toList_injective (List.append_cancel_right texts)
  · exact congrArg c.address

namespace InstanceGroup

def instanceId (g : InstanceGroup) (job : String) (index : Nat) : String :=
  g.name ++ "-" ++ .ofList (Decimal.digitText index) ++ "-" ++ job

variable {g : InstanceGroup} {cluster : Cluster} {job other : String}

theorem toList_instanceId (index : Nat) : (g.instanceId job index).toList =
    g.name.toList ++ '-' :: (Decimal.digitText index ++ '-' :: job.toList) := by
  simp [instanceId, String.toList_append]

theorem instanceId_inj {i j : Nat} :
    g.instanceId job i = g.instanceId other j ↔ job = other ∧ i = j := by
  constructor
  · intro same
    have texts := congrArg String.toList same
    rw [toList_instanceId, toList_instanceId] at texts
    have behind := (List.cons.inj (List.append_cancel_left texts)).2
    have parts := Decimal.digitText_append_inj (by decide) behind
    exact ⟨String.toList_injective parts.2, parts.1⟩
  · intro same
    rw [same.1, same.2]

theorem identity_of_mem {x : JobInstance} (member : x ∈ g.jobInstances cluster job) :
    x.id = g.instanceId job x.index ∧ x.address = cluster.address (g.instanceId job x.index) := by
  obtain ⟨i, found⟩ := List.mem_iff_getElem?.mp member
  have made := (jobInstances_at found).2
  rw [index_at found, made]
  exact ⟨rfl, rfl⟩

theorem map_id : (g.jobInstances cluster job).map JobInstance.id =
    (List.range (g.instances * g.zones.length)).map (g.instanceId job) := by
  have indices : (g.jobInstances cluster job).map JobInstance.index =
      List.range (g.instances * g.zones.length) := map_index
  rw [← indices, List.map_map]
  apply List.map_congr_left
  intro x member
  exact (identity_of_mem member).1

theorem map_address : (g.jobInstances cluster job).map JobInstance.address =
    ((g.jobInstances cluster job).map JobInstance.id).map cluster.address := by
  rw [List.map_map]
  apply List.map_congr_left
  intro x member
  have identity := identity_of_mem member
  rw [Function.comp_apply, identity.1, identity.2]

theorem nodup_ids : ((g.jobInstances cluster job).map JobInstance.id).Nodup := by
  rw [map_id]
  apply List.nodup_range.map
  intro i j same
  exact (instanceId_inj.mp same).2

/-- Two instances of a group have the same id, or the same address, exactly if they are instances of
jobs with one name and have one index; so the instances of a job all have ids and addresses of their
own. -/
theorem jobInstances_identities (g : InstanceGroup) (cluster : Cluster) (job other : String) :
    (∀ x ∈ g.jobInstances cluster job, ∀ y ∈ g.jobInstances cluster other,
      (x.id = y.id ↔ job = other ∧ x.index = y.index) ∧
        (x.address = y.address ↔ job = other ∧ x.index = y.index)) ∧
      ((g.jobInstances cluster job).map JobInstance.id).Nodup ∧
      ((g.jobInstances cluster job).map JobInstance.address).Nodup := by
  refine ⟨?_, nodup_ids, ?_⟩
  · intro x member y memberToo
    have first := identity_of_mem member
    have second := identity_of_mem memberToo
    rw [first.1, first.2, second.1, second.2, Cluster.address_inj, instanceId_inj]
    exact ⟨Iff.rfl, Iff.rfl⟩
  · rw [map_address]
    apply nodup_ids.map
    intro service other same
    exact Cluster.address_inj.mp same

end InstanceGroup

namespace Hyphened

def group : InstanceGroup := ⟨"g", 2, [], none, []⟩

def long : JobInstance := ⟨"g-0-1-x.cf.svc.cluster.local", "", "g-0-1-x", 0, 0, "g-1-x"⟩

def short : JobInstance := ⟨"g-1-x.cf.svc.cluster.local", "", "g-1-x", 1, 1, "g-x"⟩

theorem long_placed : long ∈ group.jobInstances Spread.cluster "1-x" := by decide

theorem short_placed : short ∈ group.jobInstances Spread.cluster "x" := by decide

end Hyphened

/-- The name of an instance may be the id of one of another job; ids and addresses differ. -/
theorem jobInstances_identities_hyphened :
    Hyphened.long ∈ Hyphened.group.jobInstances Spread.cluster "1-x" ∧
      Hyphened.short ∈ Hyphened.group.jobInstances Spread.cluster "x" ∧
      Hyphened.long.name = Hyphened.short.id ∧
      Hyphened.long.id ≠ Hyphened.short.id ∧ Hyphened.long.address ≠ Hyphened.short.address ∧
      ((Hyphened.group.jobInstances Spread.cluster "1-x").map JobInstance.id).Nodup := by
  have identities := Hyphened.group.jobInstances_identities Spread.cluster "1-x" "x"
  have here := identities.1 Hyphened.long Hyphened.long_placed Hyphened.short
    Hyphened.short_placed
  have jobs : "1-x" ≠ "x" := by decide
  refine ⟨Hyphened.long_placed, Hyphened.short_placed, rfl, ?_, ?_, identities.2.1⟩
  · intro same
    exact jobs (here.1.mp same).1
  · intro same
    exact jobs (here.2.mp same).1

end JobContainers

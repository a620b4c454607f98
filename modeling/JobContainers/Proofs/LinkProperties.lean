import JobContainers.Linking
import JobContainers.Rendering
import JobContainers.Proofs.PropertyPaths

/-!
What a job shows of a property through its links and to its own template. The two are computed
apart: a link sets each exposed name by itself, the template sees all defaults with the overrides
merged over them.
-/

set_option autoImplicit false

namespace JobContainers

open Property

theorem JobSpec.lookupIn_defaultProperties {spec : JobSpec} {name : String}
    (declared : (spec.properties.get? name).isSome)
    (leaf : ∀ other, (spec.properties.get? other).isSome → ¬Below other name) :
    lookupIn spec.defaultProperties name = some (spec.propertyDefault name) := by
  obtain ⟨before, after, keys⟩ := List.append_of_mem (Dict.mem_keys.mpr declared)
  have ordered := spec.properties.pairwise_keys
  rw [keys, List.pairwise_append, List.pairwise_cons] at ordered
  obtain ⟨-, ⟨later, -⟩, -⟩ := ordered
  have apart : ∀ other ∈ after, other = name ∨ Apart other name := by
    intro other member
    have behind : name < other := later other member
    have known : other ∈ spec.properties.keys := by
      rw [keys]
      exact List.mem_append_right _ (List.mem_cons_of_mem _ member)
    refine .inr ⟨?_, leaf other (Dict.mem_keys.mp known), ?_⟩
    · rintro rfl
      exact String.lt_irrefl _ behind
    · -- a name that is continued would have been set before
      intro below
      exact String.lt_irrefl _ (String.lt_trans below.lt behind)
  rw [defaultProperties, keys]
  exact lookupIn_foldl_set spec.propertyDefault ∅ apart

namespace Job

variable {job : Job} {spec : JobSpec} {provided : ProvidedLink} {name : String}

theorem lookupIn_linkProperties {before after : List String}
    (listed : provided.properties = before ++ name :: after)
    (beside : ∀ other ∈ after, ¬Below other name ∧ ¬Below name other) :
    lookupIn (job.linkProperties spec provided) name = some (job.effectiveProperty spec name) := by
  rw [linkProperties, listed]
  apply lookupIn_foldl_set (job.effectiveProperty spec)
  intro other member
  obtain ⟨notBelow, notAbove⟩ := beside other member
  by_cases same : other = name
  · exact .inl same
  · exact .inr ⟨same, notBelow, notAbove⟩

theorem lookupIn_mergedProperties (declared : (spec.properties.get? name).isSome)
    (leaf : ∀ other, (spec.properties.get? other).isSome → ¬Below other name)
    (replaced : ∀ value, job.property? name = some value →
      ¬((spec.propertyDefault name).isMap = true ∧ value.isMap = true))
    (clear : ∀ parent value, Below name parent → job.property? parent = some value →
      value.isMap = true) :
    lookupIn (job.mergedProperties spec) name = some (job.effectiveProperty spec name) :=
  lookupIn_merge (JobSpec.lookupIn_defaultProperties declared leaf) replaced clear

/-- A consumer sees the value of the job's own template: the override, null included, and else the
default. Nothing comparable may be set behind the name, in the link or among the defaults, and the
merge must neither mix two mappings nor lose one on its way to the name. -/
theorem lookupIn_link_eq_merged {before after : List String}
    (listed : provided.properties = before ++ name :: after)
    (beside : ∀ other ∈ after, ¬Below other name ∧ ¬Below name other)
    (declared : (spec.properties.get? name).isSome)
    (leaf : ∀ other, (spec.properties.get? other).isSome → ¬Below other name)
    (replaced : ∀ value, job.property? name = some value →
      ¬((spec.propertyDefault name).isMap = true ∧ value.isMap = true))
    (clear : ∀ parent value, Below name parent → job.property? parent = some value →
      value.isMap = true) :
    lookupIn (job.linkProperties spec provided) name =
        lookupIn (job.mergedProperties spec) name ∧
      (∀ value, job.property? name = some value →
        lookupIn (job.mergedProperties spec) name = some value) ∧
      (job.property? name = none →
        lookupIn (job.mergedProperties spec) name = some (spec.propertyDefault name)) := by
  rw [lookupIn_linkProperties listed beside,
    lookupIn_mergedProperties declared leaf replaced clear, effectiveProperty]
  refine ⟨rfl, ?_, ?_⟩
  · intro value given
    rw [given, Option.getD_some]
  · intro absent
    rw [absent, Option.getD_none]

end Job

namespace Nats

def spec (provided : ProvidedLink) : JobSpec where
  name := "nats"
  provides := [provided]
  consumes := []
  properties := .ofList
    [("nats.port", ⟨some (.nat 4222), none⟩), ("nats.user", ⟨some (.string "admin"), none⟩)]
  templates := ∅

def job (overrides : List (String × Tree)) : Job where
  name := "nats"
  release := "nats"
  properties := ⟨none, .ofList overrides⟩
  provides := ∅
  consumes := ∅
  resolved := .unset

end Nats

namespace Nulled

def provided : ProvidedLink := ⟨"nats", "nats", ["nats", "nats.port", "nats.user"]⟩

def spec : JobSpec := Nats.spec provided

def job : Job := Nats.job [("nats", .ofEntries [("port", .null)])]

theorem parent_of_port {parent : String} (below : Below "nats.port" parent) :
    segments parent = ["nats"] := by
  have port : segments "nats.port" = ["nats", "port"] := by decide
  exact below.segments_of_pair port

end Nulled

theorem lookupIn_link_nulled :
    Nulled.provided.properties = ["nats"] ++ "nats.port" :: ["nats.user"] ∧
      Nulled.job.property? "nats.port" = some .null ∧
      lookupIn (Nulled.job.linkProperties Nulled.spec Nulled.provided) "nats.port" = some .null ∧
      lookupIn (Nulled.job.mergedProperties Nulled.spec) "nats.port" = some .null := by
  have listed : Nulled.provided.properties = ["nats"] ++ "nats.port" :: ["nats.user"] := rfl
  have nulled : Nulled.job.property? "nats.port" = some .null := by decide
  have beside : ∀ other ∈ ["nats.user"], ¬Below other "nats.port" ∧ ¬Below "nats.port" other := by
    decide
  have leaves : ∀ other ∈ Nulled.spec.properties.keys, ¬Below other "nats.port" := by
    decide
  have leaf : ∀ other, (Nulled.spec.properties.get? other).isSome → ¬Below other "nats.port" :=
    fun other declared => leaves other (Dict.mem_keys.mpr declared)
  have clear : ∀ parent value, Below "nats.port" parent →
      Nulled.job.property? parent = some value → value.isMap = true := by
    intro parent value below given
    rw [Job.property?, lookupIn_eq_walk, Nulled.parent_of_port below] at given
    obtain rfl := Option.some.inj given
    rfl
  have declared : (Nulled.spec.properties.get? "nats.port").isSome := by decide
  have replaced : ∀ value, Nulled.job.property? "nats.port" = some value →
      ¬((Nulled.spec.propertyDefault "nats.port").isMap = true ∧ value.isMap = true) := by
    intro value given both
    obtain rfl := Option.some.inj (nulled.symm.trans given)
    exact Bool.false_ne_true both.2
  obtain ⟨same, given, -⟩ :=
    Job.lookupIn_link_eq_merged listed beside declared leaf replaced clear
  have merged := given .null nulled
  exact ⟨listed, nulled, same.trans merged, merged⟩

end JobContainers

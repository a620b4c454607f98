import JobContainers.Linking
import JobContainers.Proofs.Passes

set_option autoImplicit false

namespace JobContainers

abbrev SpecSource := String → String → Except CompileError JobSpec

def FileTree.specs (files : FileTree) : SpecSource :=
  fun release job => JobSource.readSpec ⟨release, job⟩ files

namespace SpecCache

/-- What is cached counts, and else the files. -/
def source (c : SpecCache) (files : FileTree) : SpecSource := fun release job =>
  match c.get? (release, job) with
  | some spec => .ok spec
  | none => files.specs release job

theorem load_ok {c after : SpecCache} {files : FileTree} {release job : String} {spec : JobSpec}
    (done : c.load files release job = .ok (spec, after)) :
    c.source files release job = .ok spec ∧ after.source files = c.source files ∧
      after.get? (release, job) = some spec ∧
      ∀ key kept, c.get? key = some kept → after.get? key = some kept := by
  rw [load] at done
  split at done
  · rename_i cached found
    cases done
    refine ⟨?_, rfl, found, fun _ _ kept => kept⟩
    rw [source, found]
  · rename_i missing
    obtain ⟨found, read, same⟩ := map_ok.mp done
    cases same
    refine ⟨?_, ?_, ?_, ?_⟩
    · rw [source, missing]
      exact read
    · funext other name
      simp only [source, Registry.get?_add]
      by_cases here : (other, name) = (release, job)
      · cases here
        rw [missing, if_pos rfl, Option.none_or]
        exact read.symm
      · rw [if_neg here, Option.or_none]
    · rw [Registry.get?_add, missing, if_pos rfl, Option.none_or]
    · intro key kept present
      rw [Registry.get?_add, present, Option.some_or]

end SpecCache

namespace Job

def registeredName (job : Job) (provider : String) : String :=
  ((job.provides.get? provider).bind fun settings => nameSetting settings.entries "as").getD provider

theorem providerName_ok {job : Job} {provider name : String}
    (done : job.providerName provider = .ok name) : name = job.registeredName provider := by
  rw [providerName] at done
  rw [registeredName]
  split at done
  · rename_i absent
    cases done
    rw [absent, Option.bind_none, Option.getD_none]
  · rename_i entries present
    cases done
    rw [present, Option.bind_some, Tree.entries]
  · cases done

end Job

structure Declaration where
  group : InstanceGroup
  job : Job
  spec : JobSpec
  provided : ProvidedLink

namespace Declaration

def key (d : Declaration) : String × String :=
  (d.provided.type, d.job.registeredName d.provided.name)

def link (cluster : Cluster) (d : Declaration) : JobLink :=
  ⟨d.group.jobInstances cluster d.job.name, d.job.linkProperties d.spec d.provided⟩

def entry (cluster : Cluster) (d : Declaration) : (String × String) × JobLink :=
  (d.key, d.link cluster)

/-- In a list without repeated keys an entry is found exactly if one declaration has its key. -/
theorem lookup_entries (cluster : Cluster) (key : String × String) (link : JobLink)
    {ds : List Declaration} (distinct : (ds.map Declaration.key).Nodup) :
    (ds.map (entry cluster)).lookup key = some link ↔
      ∃ d, ds.filter (fun d => d.key = key) = [d] ∧ link = d.link cluster := by
  induction ds with
  | nil => simp
  | cons d ds ih =>
      obtain ⟨absent, rest⟩ := List.nodup_cons.mp distinct
      rw [List.map_cons, entry, Entries.lookup_head]
      by_cases here : key = d.key
      · have others : ds.filter (fun other => other.key = key) = [] := by
          rw [List.filter_eq_nil_iff]
          intro other member same
          apply absent
          rw [← here, ← of_decide_eq_true same]
          exact List.mem_map_of_mem member
        rw [if_pos here, List.filter_cons_of_pos (by simp [here]), others]
        constructor
        · intro found
          exact ⟨d, rfl, (Option.some.inj found).symm⟩
        · rintro ⟨other, single, same⟩
          rw [same, (List.cons.inj single).1]
      · rw [if_neg here, List.filter_cons_of_neg (by simpa using Ne.symm here)]
        exact ih rest

end Declaration

def Job.declarations (job : Job) (specs : SpecSource) (g : InstanceGroup) : List Declaration :=
  match specs job.release job.name with
  | .ok spec => spec.provides.map fun provided => ⟨g, job, spec, provided⟩
  | .error _ => []

def InstanceGroup.declarations (g : InstanceGroup) (specs : SpecSource) : List Declaration :=
  g.jobs.flatMap fun job => job.declarations specs g

def Manifest.declarations (m : Manifest) (specs : SpecSource) : List Declaration :=
  m.instanceGroups.flatMap fun g => g.declarations specs

theorem mem_declarations {m : Manifest} {specs : SpecSource} {d : Declaration} :
    d ∈ m.declarations specs ↔ d.group ∈ m.instanceGroups ∧ d.job ∈ d.group.jobs ∧
      specs d.job.release d.job.name = .ok d.spec ∧ d.provided ∈ d.spec.provides := by
  simp only [Manifest.declarations, InstanceGroup.declarations, List.mem_flatMap]
  constructor
  · rintro ⟨g, inside, job, placed, declared⟩
    rw [Job.declarations] at declared
    split at declared
    · rename_i spec read
      obtain ⟨provided, member, rfl⟩ := List.mem_map.mp declared
      exact ⟨inside, placed, read, member⟩
    · cases declared
  · rintro ⟨inside, placed, read, member⟩
    refine ⟨d.group, inside, d.job, placed, ?_⟩
    rw [Job.declarations, read]
    exact List.mem_map.mpr ⟨d.provided, member, rfl⟩

def Manifest.Provides (m : Manifest) (specs : SpecSource) (type name : String) : Prop :=
  ∃ g ∈ m.instanceGroups, ∃ job ∈ g.jobs, ∃ spec, specs job.release job.name = .ok spec ∧
    ∃ provided ∈ spec.provides, provided.type = type ∧ job.registeredName provided.name = name

theorem provides_iff {m : Manifest} {specs : SpecSource} {type name : String} :
    m.Provides specs type name ↔ ∃ d ∈ m.declarations specs, d.key = (type, name) := by
  constructor
  · rintro ⟨g, inside, job, placed, spec, read, provided, member, rfl, rfl⟩
    exact ⟨⟨g, job, spec, provided⟩, mem_declarations.mpr ⟨inside, placed, read, member⟩, rfl⟩
  · rintro ⟨d, member, same⟩
    obtain ⟨inside, placed, read, declared⟩ := mem_declarations.mp member
    obtain ⟨type, name⟩ := Prod.mk.inj same
    exact ⟨d.group, inside, d.job, placed, d.spec, read, d.provided, declared, type, name⟩

end JobContainers

import JobContainers.Gathering
import JobContainers.Proofs.Passes

set_option autoImplicit false

namespace JobContainers

namespace Job

def raw (job : Job) : Job := { job with resolved := .unset }

theorem raw_of_unset {job : Job} (fresh : job.resolved = .unset) : job.raw = job := by
  rw [raw, ← fresh]

theorem fields_of_raw {job other : Job} (same : job.raw = other.raw) :
    job.name = other.name ∧ job.release = other.release ∧ job.properties = other.properties ∧
      job.provides = other.provides ∧ job.consumes = other.consumes := by
  simpa only [raw, Job.mk.injEq, and_true] using same

def switchesOff (job : Job) (c : ConsumedLink) : Bool :=
  (job.consumes.get? c.name).any Tree.isNil

def soughtName (job : Job) (c : ConsumedLink) : String :=
  ((job.consumes.get? c.name).bind fun settings => nameSetting settings.entries "from").getD c.name

/-- The link that a table has for a consumer, unless it is switched off. -/
def linked (job : Job) (t : ProviderTable) (c : ConsumedLink) : Option JobLink :=
  if job.switchesOff c then none else t.get? (c.type, job.soughtName c)

theorem linked_of_raw {job other : Job} (same : job.raw = other.raw) (t : ProviderTable)
    (c : ConsumedLink) : job.linked t c = other.linked t c := by
  obtain ⟨-, -, -, -, consumes⟩ := fields_of_raw same
  rw [linked, linked, switchesOff, switchesOff, soughtName, soughtName, consumes]

variable {job : Job} {t : ProviderTable} {c : ConsumedLink}

theorem consumedName_ok {name : Option String} (done : job.consumedName c = .ok name) :
    name = if job.switchesOff c then none else some (job.soughtName c) := by
  rw [consumedName] at done
  rw [switchesOff, soughtName]
  cases present : job.consumes.get? c.name with
  | none =>
      rw [present] at done
      cases done
      rfl
  | some settings =>
      rw [present] at done
      rw [Option.any_some, Option.bind_some]
      by_cases off : settings.isNil
      · simp only [off, if_true] at done ⊢
        split at done
        · cases done
          rfl
        · cases done
      · simp only [off] at done ⊢
        cases settings <;> cases done
        rfl

theorem linkFor_ok {link : Option JobLink} (done : job.linkFor t c = .ok link) :
    link = job.linked t c := by
  obtain ⟨name, named, found⟩ := bind_ok.mp done
  have same := consumedName_ok named
  rw [linked]
  by_cases off : job.switchesOff c
  · rw [if_pos off] at same ⊢
    subst name
    cases found
    rfl
  · rw [if_neg off] at same ⊢
    subst name
    dsimp only at found
    split at found
    · rename_i present
      cases found
      rw [present]
    · rename_i absent
      split at found
      · cases found
        rw [absent]
      · cases found

/-- The link that consumers give a job under a name; the last of them counts. -/
def linkNamed (job : Job) (t : ProviderTable) (name : String) :
    List ConsumedLink → Option JobLink
  | [] => none
  | c :: cs => (job.linkNamed t name cs).or (if name = c.name then job.linked t c else none)

theorem linkNamed_of_raw {job other : Job} (same : job.raw = other.raw) (t : ProviderTable)
    (name : String) (cs : List ConsumedLink) :
    job.linkNamed t name cs = other.linkNamed t name cs := by
  induction cs with
  | nil => rfl
  | cons c cs ih => rw [linkNamed, linkNamed, ih, linked_of_raw same]

theorem linkNamed_isSome {name : String} {cs : List ConsumedLink} :
    (job.linkNamed t name cs).isSome ↔ ∃ c ∈ cs, c.name = name ∧ (job.linked t c).isSome := by
  induction cs with
  | nil => simp [linkNamed]
  | cons c cs ih =>
      rw [linkNamed, Option.isSome_or, Bool.or_eq_true, ih, List.exists_mem_cons_iff, or_comm]
      by_cases here : name = c.name
      · simp [here]
      · simp [here, Ne.symm here]

theorem linkNamed_of_mem {cs : List ConsumedLink} (distinct : (cs.map (·.name)).Nodup)
    (member : c ∈ cs) : job.linkNamed t c.name cs = job.linked t c := by
  induction cs with
  | nil => cases member
  | cons d cs ih =>
      obtain ⟨fresh, others⟩ := List.nodup_cons.mp distinct
      rw [linkNamed]
      rcases List.mem_cons.mp member with rfl | member
      · -- later consumers would count before this one, but none of them has its name
        have absent : job.linkNamed t c.name cs = none := by
          rw [← Option.not_isSome_iff_eq_none, linkNamed_isSome]
          rintro ⟨other, inside, same, -⟩
          exact fresh (List.mem_map.mpr ⟨other, inside, same⟩)
        rw [absent, if_pos rfl, Option.none_or]
      · have differs : c.name ≠ d.name := by
          intro same
          exact fresh (List.mem_map.mpr ⟨c, member, same⟩)
        rw [ih others member, if_neg differs, Option.or_none]

end Job

namespace Linking

variable {job : Job} {t : ProviderTable}

theorem attach_ok {links after : Dict JobLink} {c : ConsumedLink}
    (done : attach job t links c = .ok after) (name : String) :
    after.get? name =
      (if name = c.name then job.linked t c else none).or (links.get? name) := by
  obtain ⟨link, found, attached⟩ := bind_ok.mp done
  rw [← Job.linkFor_ok found]
  cases link with
  | none =>
      cases attached
      rw [ite_self, Option.none_or]
  | some link =>
      cases attached
      rw [Dict.get?_insert]
      by_cases here : name = c.name
      · rw [if_pos here, if_pos here, Option.some_or]
      · rw [if_neg here, if_neg here, Option.none_or]

theorem attach_named {links after : Dict JobLink} {cs : List ConsumedLink}
    (done : Progress.fold (attach job t) links cs = (after, none)) (name : String) :
    after.get? name = (job.linkNamed t name cs).or (links.get? name) := by
  refine Progress.fold_induction _ (fun links cs after =>
    after.get? name = (job.linkNamed t name cs).or (links.get? name)) (fun _ => rfl) ?_ done
  intro links c middle cs after first rest
  rw [rest, attach_ok first, Job.linkNamed, Option.or_assoc]

theorem resolveJob_ok {l : Linking} {resolved : Job}
    (done : l.resolveJob job = (resolved, none)) :
    ∃ spec links, l.specs.get? (job.release, job.name) = some spec ∧
      Progress.fold (attach job l.providers) job.resolved.consumes spec.consumes = (links, none) ∧
      resolved = job.withLinks links := by
  rw [resolveJob, SpecCache.collected] at done
  cases cached : l.specs.get? (job.release, job.name) with
  | none => simp [cached] at done
  | some spec =>
      rw [cached] at done
      rcases run : Progress.fold (attach job l.providers) job.resolved.consumes spec.consumes with
        ⟨links, fault⟩
      dsimp only at done
      rw [run] at done
      cases done
      exact ⟨spec, links, rfl, run, rfl⟩

end Linking

namespace Job

section Release

variable (job : Job) (m : Manifest)

theorem withRelease_eq :
    job.withRelease m =
      { job with resolved := { job.resolved with
        release := if m.hasRelease job.release then some job.release
          else job.resolved.release } } := by
  rw [withRelease]
  split <;> rfl

@[simp] theorem withRelease_raw : (job.withRelease m).raw = job.raw := by rw [withRelease_eq]; rfl

@[simp] theorem withRelease_name : (job.withRelease m).name = job.name := by rw [withRelease_eq]

@[simp] theorem withRelease_source : (job.withRelease m).release = job.release := by
  rw [withRelease_eq]

@[simp] theorem withRelease_instances :
    (job.withRelease m).resolved.instances = job.resolved.instances := by rw [withRelease_eq]

@[simp] theorem withRelease_links :
    (job.withRelease m).resolved.consumes = job.resolved.consumes := by rw [withRelease_eq]

@[simp] theorem withRelease_runtime :
    (job.withRelease m).resolved.runtime = job.resolved.runtime := by rw [withRelease_eq]

end Release

theorem render_ok {job rendered : Job} {specs : SpecCache} {files : FileTree}
    {deployment : String} {warnings : List Warning}
    (done : job.render specs files deployment = .ok (rendered, warnings)) :
    ∃ runtime, rendered = job.withRuntime runtime ∧
      (job.resolved.instances = [] → runtime = job.resolved.runtime) := by
  obtain ⟨spec, -, done⟩ := bind_ok.mp done
  dsimp only at done
  split at done
  · rename_i template found
    obtain ⟨configs, made, done⟩ := bind_ok.mp done
    cases configs with
    | nil =>
        cases done
        exact ⟨_, rfl, fun _ => rfl⟩
    | cons first rest =>
        cases done
        refine ⟨_, rfl, ?_⟩
        intro placeless
        rw [placeless] at made
        cases made
  · cases done

end Job

namespace Manifest

variable {m : Manifest} {files : FileTree} {l : Linking}

theorem gatherJob_form {job gathered : Job} {warnings : List Warning}
    (done : m.gatherJob files l job = .ok (gathered, warnings)) :
    ∃ spec links runtime, l.specs.get? (job.release, job.name) = some spec ∧
      Progress.fold (Linking.attach (job.withRelease m) l.providers) job.resolved.consumes
        spec.consumes = (links, none) ∧
      (job.resolved.instances = [] → runtime = job.resolved.runtime) ∧
      gathered = ((job.withRelease m).withLinks links).withRuntime runtime := by
  rw [gatherJob] at done
  rcases run : l.resolveJob (job.withRelease m) with ⟨resolved, fault⟩
  rw [run] at done
  cases fault with
  | some cause => cases done
  | none =>
      obtain ⟨runtime, rfl, placeless⟩ := Job.render_ok done
      obtain ⟨spec, links, cached, attached, rfl⟩ := Linking.resolveJob_ok run
      rw [Job.withRelease_source, Job.withRelease_name] at cached
      rw [Job.withRelease_links] at attached
      simp only [Job.withLinks, Job.withRelease_instances, Job.withRelease_runtime] at placeless
      exact ⟨spec, links, runtime, cached, attached, placeless, rfl⟩

/-- A gathered job keeps its own data and its instances, and has the links of its consumers. -/
theorem gatherJob_ok {job gathered : Job} {warnings : List Warning}
    (done : m.gatherJob files l job = .ok (gathered, warnings)) :
    gathered.raw = job.raw ∧ gathered.resolved.instances = job.resolved.instances ∧
      ∃ spec, l.specs.get? (job.release, job.name) = some spec ∧
        Progress.fold (Linking.attach (job.withRelease m) l.providers) job.resolved.consumes
          spec.consumes = (gathered.resolved.consumes, none) := by
  obtain ⟨spec, links, runtime, cached, attached, -, rfl⟩ := gatherJob_form done
  exact ⟨Job.withRelease_raw job m, Job.withRelease_instances job m, spec, cached, attached⟩

theorem gatherJobs_ok {jobs gathered : List Job}
    (done : (m.gatherJobs files l jobs).1 = .ok gathered) :
    List.Forall₂ (fun job result => ∃ warnings, m.gatherJob files l job = .ok (result, warnings))
      jobs gathered := by
  induction jobs generalizing gathered with
  | nil =>
      cases done
      exact .nil
  | cons job jobs ih =>
      rw [gatherJobs] at done
      split at done
      · cases done
      · rename_i result warnings first
        obtain ⟨rest, others, rfl⟩ := map_ok.mp done
        exact .cons ⟨warnings, first⟩ (ih others)

end Manifest

end JobContainers

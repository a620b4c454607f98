import JobContainers.Proofs.Configurations
import JobContainers.Proofs.LinkResolution

/-!
Derived data that a manifest comes with. Collecting does not read it. Gathering overwrites a
release that is declared, the links that consumers are given and the configuration of a job with
instances; whatever else there is stays with the job.
-/

set_option autoImplicit false

namespace JobContainers

def InstanceGroup.raw (g : InstanceGroup) : InstanceGroup := { g with jobs := g.jobs.map Job.raw }

theorem Job.raw_keeps : Job.KeepsCollected Job.raw where
  name _ := rfl
  release _ := rfl
  overrides _ := rfl
  provides _ := rfl

def Manifest.raw (m : Manifest) : Manifest :=
  { m with instanceGroups := m.instanceGroups.map InstanceGroup.raw }

theorem group?_raw (m : Manifest) (group : String) :
    m.raw.group? group = (m.group? group).map InstanceGroup.raw :=
  m.group?_mapJobs Job.raw group

theorem InstanceGroup.jobInstances_of_raw {g other : InstanceGroup} (same : g.raw = other.raw)
    (cluster : Cluster) (job : String) :
    g.jobInstances cluster job = other.jobInstances cluster job := by
  change g.raw.jobInstances cluster job = other.raw.jobInstances cluster job
  rw [same]

theorem InstanceGroup.jobInstances_eq_nil {g : InstanceGroup} {cluster : Cluster} {job : String} :
    g.jobInstances cluster job = [] ↔ g.instances = 0 := by
  have zones : g.zones ≠ [] := by
    rw [zones]
    split
    · exact List.cons_ne_nil _ _
    · rename_i present
      exact fun none => present (List.isEmpty_iff.mpr none)
  rw [jobInstances, List.map_eq_nil_iff, List.zipIdx_eq_nil_iff, slots, List.flatMap_eq_nil_iff]
  constructor
  · intro none
    by_contra some
    have first := none 0 (List.mem_range.mpr (Nat.pos_of_ne_zero some))
    exact zones (List.map_eq_nil_iff.mp first)
  · intro none
    simp [none]

namespace Linking

open Progress (outcome)

variable (l : Linking) (cluster : Cluster) (files : FileTree)

theorem collect_raw (m : Manifest) :
    outcome (l.collect cluster files m.raw) = outcome (l.collect cluster files m) :=
  collect_mapJobs Job.raw_keeps l cluster files m

theorem collect_of_raw {m other : Manifest} (same : m.raw = other.raw) :
    outcome (l.collect cluster files m) = outcome (l.collect cluster files other) := by
  rw [← collect_raw, same, collect_raw]

end Linking

namespace Job

/-- Some consumer of the job is given a link under the name. -/
def Relinks (job : Job) (m : Manifest) (specs : SpecSource) (name : String) : Prop :=
  ∃ spec, specs job.release job.name = .ok spec ∧ ∃ c ∈ spec.consumes, c.name = name ∧
    job.switchesOff c = false ∧ m.Provides specs c.type (job.soughtName c)

theorem relinks_of_raw {job other : Job} (same : job.raw = other.raw) (m : Manifest)
    (specs : SpecSource) (name : String) :
    job.Relinks m specs name = other.Relinks m specs name := by
  change job.raw.Relinks m specs name = other.raw.Relinks m specs name
  rw [same]

/-- What a compilation leaves as it is, the two jobs have in common. -/
structure LeftAlike (m : Manifest) (specs : SpecSource) (g : InstanceGroup) (job other : Job) :
    Prop where
  raw : job.raw = other.raw
  release : m.hasRelease job.release = false → job.resolved.release = other.resolved.release
  links : ∀ name, ¬job.Relinks m specs name →
    job.resolved.consumes.get? name = other.resolved.consumes.get? name
  runtime : g.instances = 0 → job.resolved.runtime = other.resolved.runtime

theorem LeftAlike.join {m : Manifest} {specs : SpecSource} {g : InstanceGroup}
    {job other result : Job} (left : LeftAlike m specs g job result)
    (right : LeftAlike m specs g other result) : LeftAlike m specs g job other := by
  have same : job.raw = other.raw := left.raw.trans right.raw.symm
  obtain ⟨-, release, -, -, -⟩ := fields_of_raw same
  refine ⟨same, ?_, ?_, ?_⟩
  · intro undeclared
    rw [left.release undeclared, right.release (release ▸ undeclared)]
  · intro name missing
    rw [left.links name missing, right.links name (relinks_of_raw same m specs name ▸ missing)]
  · intro placeless
    rw [left.runtime placeless, right.runtime placeless]

theorem LeftAlike.released {m : Manifest} {specs : SpecSource} {g : InstanceGroup}
    {job other : Job} (alike : LeftAlike m specs g job other) :
    (job.withRelease m).resolved.release = (other.withRelease m).resolved.release := by
  obtain ⟨-, source, -, -, -⟩ := fields_of_raw alike.raw
  rw [withRelease_eq, withRelease_eq, ← source]
  by_cases declared : m.hasRelease job.release
  · simp only [declared, if_true]
  · simp only [declared, alike.release (eq_false_of_ne_true declared)]

section Runtime

variable (job : Job) (runtime : Option RuntimeConfig)

@[simp] theorem withRuntime_name : (job.withRuntime runtime).name = job.name := rfl

@[simp] theorem withRuntime_release : (job.withRuntime runtime).release = job.release := rfl

@[simp] theorem withRuntime_instances :
    (job.withRuntime runtime).resolved.instances = job.resolved.instances := rfl

@[simp] theorem withRuntime_context :
    (job.withRuntime runtime).context = job.context := rfl

@[simp] theorem withRuntime_withRuntime (other : Option RuntimeConfig) :
    (job.withRuntime runtime).withRuntime other = job.withRuntime other := rfl

end Runtime

theorem render_withRuntime {job : Job} (placed : job.resolved.instances ≠ []) (specs : SpecCache)
    (files : FileTree) (deployment : String) (runtime : Option RuntimeConfig) :
    (job.withRuntime runtime).render specs files deployment =
      job.render specs files deployment := by
  simp only [render, withRuntime_name, withRuntime_release, withRuntime_instances,
    withRuntime_context, withRuntime_withRuntime]
  refine bind_congr fun spec => ?_
  cases spec.templateFor? RuntimeConfig.fileName with
  | none => rfl
  | some template =>
      dsimp only
      cases made : job.resolved.instances.mapM fun i => RuntimeConfig.render files
          (JobSource.templatePath ⟨job.release, job.name⟩ files.base template)
          (job.context spec deployment i) with
      | error cause => rfl
      | ok configs =>
          cases configs with
          | cons first rest => rfl
          | nil =>
              -- only without any instance is there no first configuration to take over
              have none := List.forall₂_nil_right_iff.mp (mapM_ok.mp made)
              exact absurd none placed

theorem eq_withRuntime {job other : Job} (same : job.raw = other.raw)
    (release : job.resolved.release = other.resolved.release)
    (instances : job.resolved.instances = other.resolved.instances)
    (links : job.resolved.consumes = other.resolved.consumes) :
    job.withRuntime other.resolved.runtime = other := by
  obtain ⟨name, source, properties, provides, consumes⟩ := fields_of_raw same
  rw [withRuntime, name, source, properties, provides, consumes]
  dsimp only
  rw [release, instances, links]

theorem render_of_raw {job other : Job} (same : job.raw = other.raw)
    (release : job.resolved.release = other.resolved.release)
    (instances : job.resolved.instances = other.resolved.instances)
    (links : job.resolved.consumes = other.resolved.consumes)
    (runtime : job.resolved.instances = [] → job.resolved.runtime = other.resolved.runtime)
    (specs : SpecCache) (files : FileTree) (deployment : String) :
    job.render specs files deployment = other.render specs files deployment := by
  have twin : job.withRuntime other.resolved.runtime = other :=
    eq_withRuntime same release instances links
  by_cases placeless : job.resolved.instances = []
  · have equal : job = other := by
      rw [← twin, ← runtime placeless]
      rfl
    rw [equal]
  · rw [← twin, render_withRuntime placeless]

end Job

namespace Linking

variable {job other : Job} {t : ProviderTable}

/-- Which consumer fails does not depend on the links that are there before. -/
theorem attach_fault (same : job.raw = other.raw) (links before : Dict JobLink)
    (cs : List ConsumedLink) :
    (Progress.fold (attach job t) links cs).2 = (Progress.fold (attach other t) before cs).2 := by
  induction cs generalizing links before with
  | nil => rfl
  | cons c cs ih =>
      -- what a consumer is given is up to the table, so both runs take the same branch
      have link : job.linkFor t c = other.linkFor t c := by
        change job.raw.linkFor t c = other.raw.linkFor t c
        rw [same]
      rw [Progress.fold, Progress.fold, attach, attach, link]
      cases other.linkFor t c with
      | error cause => rfl
      | ok found =>
          cases found with
          | none => exact ih links before
          | some link => exact ih _ _

theorem attach_of_named {links before after : Dict JobLink} {cs : List ConsumedLink}
    (same : job.raw = other.raw)
    (done : Progress.fold (attach job t) links cs = (after, none))
    (agree : ∀ name, job.linkNamed t name cs = none → links.get? name = before.get? name) :
    Progress.fold (attach other t) before cs = (after, none) := by
  have fault := attach_fault (t := t) same links before cs
  rw [done] at fault
  rcases again : Progress.fold (attach other t) before cs with ⟨reached, cause⟩
  rw [again] at fault
  obtain rfl : none = cause := fault
  -- the links were not inserted into the same dictionary, so they are compared name by name
  have links : reached = after := by
    refine Dict.ext_get? fun name => ?_
    rw [attach_named again, attach_named done, ← Job.linkNamed_of_raw same]
    cases given : job.linkNamed t name cs with
    | some link => rfl
    | none => rw [agree name given]
  rw [links]

theorem resolveJob_of_raw {l : Linking} (same : job.raw = other.raw)
    (agree : ∀ spec, l.specs.get? (job.release, job.name) = some spec → ∀ name,
      job.linkNamed l.providers name spec.consumes = none →
        job.resolved.consumes.get? name = other.resolved.consumes.get? name) :
    (∃ cause left right, l.resolveJob job = (left, some cause) ∧
        l.resolveJob other = (right, some cause)) ∨
      ∃ links, l.resolveJob job = (job.withLinks links, none) ∧
        l.resolveJob other = (other.withLinks links, none) := by
  obtain ⟨name, release, -, -, -⟩ := Job.fields_of_raw same
  rw [resolveJob, resolveJob, SpecCache.collected, SpecCache.collected, ← name, ← release]
  cases cached : l.specs.get? (job.release, job.name) with
  | none => exact .inl ⟨_, _, _, rfl, rfl⟩
  | some spec =>
      dsimp only
      rcases run : Progress.fold (attach job l.providers) job.resolved.consumes spec.consumes with
        ⟨links, fault⟩
      cases fault with
      | none =>
          rw [attach_of_named same run (agree spec cached)]
          exact .inr ⟨links, rfl, rfl⟩
      | some cause =>
          have fault := attach_fault (t := l.providers) same job.resolved.consumes
            other.resolved.consumes spec.consumes
          rw [run] at fault
          rcases again : Progress.fold (attach other l.providers) other.resolved.consumes
            spec.consumes with ⟨reached, cause⟩
          rw [again] at fault
          obtain rfl := fault
          exact .inl ⟨_, _, _, rfl, rfl⟩

end Linking

namespace Manifest

variable {m : Manifest} {cluster : Cluster} {files : FileTree} {l : Linking}
  {collected : Manifest} {g : InstanceGroup}

section Job

variable {job other : Job}

theorem relinks_iff (done : Linking.empty.collect cluster files m = (l, collected, none))
    {spec : JobSpec} (cached : l.specs.get? (job.release, job.name) = some spec) (name : String) :
    job.Relinks m files.specs name ↔
      (job.linkNamed l.providers name spec.consumes).isSome := by
  have read := Linking.collect_empty_spec done cached
  rw [Job.linkNamed_isSome]
  constructor
  · rintro ⟨found, loaded, c, member, named, provided⟩
    rw [read] at loaded
    cases loaded
    exact ⟨c, member, named, (linked_collected done job c).1.mpr provided⟩
  · rintro ⟨c, member, named, linked⟩
    exact ⟨spec, read, c, member, named, (linked_collected done job c).1.mp linked⟩

theorem gatherJob_leaves (done : Linking.empty.collect cluster files m = (l, collected, none))
    (placeless : g.instances = 0 → job.resolved.instances = [])
    {gathered : Job} {warnings : List Warning}
    (made : m.gatherJob files l job = .ok (gathered, warnings)) :
    Job.LeftAlike m files.specs g job gathered := by
  obtain ⟨spec, links, runtime, cached, attached, kept, rfl⟩ := gatherJob_form made
  refine ⟨(Job.withRelease_raw job m).symm, ?_, ?_, ?_⟩
  · intro undeclared
    rw [Job.withRelease_eq, undeclared]
    rfl
  · intro name missing
    rw [relinks_iff done cached, Option.not_isSome_iff_eq_none,
      ← Job.linkNamed_of_raw (Job.withRelease_raw job m)] at missing
    change _ = links.get? name
    rw [Linking.attach_named attached, missing, Option.none_or]
  · intro zero
    exact (kept (placeless zero)).symm

theorem gatherJob_of_leftAlike
    (done : Linking.empty.collect cluster files m = (l, collected, none))
    (placed : job.resolved.instances = [] → g.instances = 0)
    (instances : job.resolved.instances = other.resolved.instances)
    (alike : Job.LeftAlike m files.specs g job other) :
    m.gatherJob files l job = m.gatherJob files l other := by
  have same : (job.withRelease m).raw = (other.withRelease m).raw := by
    rw [Job.withRelease_raw, Job.withRelease_raw, alike.raw]
  have agree : ∀ spec, l.specs.get? ((job.withRelease m).release, (job.withRelease m).name) =
      some spec → ∀ name, (job.withRelease m).linkNamed l.providers name spec.consumes = none →
        (job.withRelease m).resolved.consumes.get? name =
          (other.withRelease m).resolved.consumes.get? name := by
    intro spec cached name none
    rw [Job.withRelease_source, Job.withRelease_name] at cached
    rw [Job.linkNamed_of_raw (Job.withRelease_raw job m)] at none
    rw [Job.withRelease_links, Job.withRelease_links]
    apply alike.links
    rw [relinks_iff done cached, none]
    exact Bool.false_ne_true
  rw [gatherJob, gatherJob]
  rcases Linking.resolveJob_of_raw same agree with
    ⟨cause, _, _, left, right⟩ | ⟨links, left, right⟩
  · rw [left, right]
  · rw [left, right]
    dsimp only
    have kept : ((job.withRelease m).withLinks links).resolved.instances =
        ((other.withRelease m).withLinks links).resolved.instances := by
      simpa only [Job.withLinks, Job.withRelease_instances] using instances
    have runtime : ((job.withRelease m).withLinks links).resolved.instances = [] →
        ((job.withRelease m).withLinks links).resolved.runtime =
          ((other.withRelease m).withLinks links).resolved.runtime := by
      simp only [Job.withLinks, Job.withRelease_instances, Job.withRelease_runtime]
      exact fun placeless => alike.runtime (placed placeless)
    have raw : ((job.withRelease m).withLinks links).raw =
        ((other.withRelease m).withLinks links).raw := same
    exact Job.render_of_raw raw alike.released kept rfl runtime l.specs files m.name

end Job

section Group

variable {other : Manifest} {group : String}

theorem gatherJob_of_raw (same : m.raw = other.raw) (files : FileTree) (l : Linking) (job : Job) :
    m.gatherJob files l job = other.gatherJob files l job := by
  change m.raw.gatherJob files l job = other.raw.gatherJob files l job
  rw [same]

theorem gatherJobs_congr {twin : Linking} {jobs others : List Job}
    (alike : List.Forall₂ (fun job copy =>
      m.gatherJob files l job = other.gatherJob files twin copy) jobs others) :
    m.gatherJobs files l jobs = other.gatherJobs files twin others := by
  induction alike with
  | nil => rfl
  | cons first _ ih => rw [gatherJobs, gatherJobs, first, ih]

def LeftAlike (m other : Manifest) (specs : SpecSource) (group : String) : Prop :=
  ∀ g twin, m.group? group = some g → other.group? group = some twin →
    List.Forall₂ (Job.LeftAlike m specs g) g.jobs twin.jobs

theorem collected_of_raw (same : m.raw = other.raw)
    (done : Linking.empty.collect cluster files m = (l, collected, none)) :
    ∃ again, Linking.empty.collect cluster files other = (l, again, none) :=
  Progress.exists_of_outcome (Linking.collect_of_raw Linking.empty cluster files same) done

theorem group?_of_raw (same : m.raw = other.raw) (group : String) :
    (m.group? group).map InstanceGroup.raw = (other.group? group).map InstanceGroup.raw := by
  rw [← group?_raw, same, group?_raw]

theorem gather_fault_of_raw (same : m.raw = other.raw)
    (fails : (Linking.empty.collect cluster files m).2.2.isSome) (group : String) :
    m.gather cluster files group = other.gather cluster files group := by
  obtain ⟨cause, fails⟩ := Option.isSome_iff_exists.mp fails
  have outcome := Linking.collect_of_raw Linking.empty cluster files same
  have again : (Linking.empty.collect cluster files other).2.2 = some cause := by
    rw [← (Prod.mk.inj outcome).2, fails]
  rw [gather_of_fault fails, gather_of_fault again]

theorem gather_of_leftAlike (same : m.raw = other.raw)
    (alike : m.LeftAlike other files.specs group) :
    m.gather cluster files group = other.gather cluster files group := by
  rcases done : Linking.empty.collect cluster files m with ⟨l, collected, fault⟩
  cases fault with
  | some cause => exact gather_fault_of_raw same (by rw [done, Option.isSome_some]) group
  | none =>
      -- both runs have come to the same table and cache, and differ in their jobs only
      obtain ⟨again, twice⟩ := collected_of_raw same done
      rw [gather_of_collected done, gather_of_collected twice]
      have groups := group?_of_raw same group
      cases found : m.group? group with
      | none =>
          rw [found] at groups
          rw [Option.map_eq_none_iff.mp groups.symm]
      | some g =>
          rw [found] at groups
          obtain ⟨twin, present, raw⟩ := Option.map_eq_some_iff.mp groups.symm
          rw [present]
          apply gatherJobs_congr
          rw [InstanceGroup.withInstances, InstanceGroup.withInstances, List.forall₂_map_left_iff,
            List.forall₂_map_right_iff]
          refine (alike g twin found present).imp ?_
          intro job copy left
          obtain ⟨name, -, -, -, -⟩ := Job.fields_of_raw left.raw
          rw [← gatherJob_of_raw same, ← name, InstanceGroup.jobInstances_of_raw raw]
          exact gatherJob_of_leftAlike done InstanceGroup.jobInstances_eq_nil.mp rfl
            ⟨left.raw, left.release, left.links, left.runtime⟩

theorem gather_leaves (done : Linking.empty.collect cluster files m = (l, collected, none))
    (same : m.raw = other.raw) {twin : InstanceGroup} (found : other.group? group = some twin)
    (alike : g.raw = twin.raw) {jobs : List Job}
    (made : (other.gather cluster files group).1 = .ok jobs) :
    List.Forall₂ (Job.LeftAlike m files.specs g) twin.jobs jobs := by
  obtain ⟨again, twice⟩ := collected_of_raw same done
  rw [gather_of_collected twice, found] at made
  have related := gatherJobs_ok made
  rw [InstanceGroup.withInstances, List.forall₂_map_left_iff] at related
  refine related.imp ?_
  rintro job gathered ⟨warnings, made⟩
  rw [← gatherJob_of_raw same, ← InstanceGroup.jobInstances_of_raw alike] at made
  obtain ⟨raw, release, links, runtime⟩ :=
    gatherJob_leaves done InstanceGroup.jobInstances_eq_nil.mpr made
  exact ⟨raw, release, links, runtime⟩

theorem gather_ok_iff (same : m.raw = other.raw) {jobs : List Job}
    (made : (m.gather cluster files group).1 = .ok jobs) :
    (other.gather cluster files group).1 = .ok jobs ↔ m.LeftAlike other files.specs group := by
  constructor
  · intro again g twin found present
    obtain ⟨l, _, done, -, -⟩ := gather_ok made
    have groups := group?_of_raw same group
    rw [found, present] at groups
    have left := gather_leaves done rfl found rfl made
    have right := gather_leaves done same present (Option.some.inj groups) again
    exact forall₂_join left right fun job copy result => Job.LeftAlike.join
  · intro alike
    rw [← gather_of_leftAlike same alike, made]

end Group

end Manifest

namespace Compilation

variable {c : Compilation} {other : Manifest}

theorem conversion_of_raw (same : c.manifest.raw = other.raw) (group : String) (jobs : List Job) :
    c.conversion group jobs = { c with manifest := other }.conversion group jobs := by
  have errand (m : Manifest) : (m.group? group).any (·.isErrand) =
      ((m.group? group).map InstanceGroup.raw).any (·.isErrand) := by
    cases m.group? group <;> rfl
  rw [conversion, conversion, errand, errand, Manifest.group?_of_raw same]

theorem compile_of_gather (same : c.manifest.raw = other.raw) {group : String}
    (gathered : c.manifest.gather c.cluster c.files group = other.gather c.cluster c.files group)
    (mounts : List VolumeMount) (disks : DiskCatalog) :
    c.compile group mounts disks = { c with manifest := other }.compile group mounts disks := by
  have conversion := conversion_of_raw same group
  rw [compile, compile, gathered]
  simp only [conversion]
  rfl

/-- Two manifests that differ in derived data only are compiled alike if collecting fails or if
they have in common what is left as it is. Where compiling succeeds this is exactly when. -/
theorem compile_leftover (c : Compilation) (other : Manifest)
    (same : c.manifest.raw = other.raw) (group : String) (mounts : List VolumeMount)
    (disks : DiskCatalog) :
    let again : Compilation := { c with manifest := other }
    let gathered := c.manifest.gather c.cluster c.files group
    let regathered := other.gather c.cluster c.files group
    let alike := c.manifest.LeftAlike other c.files.specs group
    ((Linking.empty.collect c.cluster c.files c.manifest).2.2.isSome ∨ alike →
      gathered = regathered ∧ c.compile group mounts disks = again.compile group mounts disks) ∧
    (∀ jobs, gathered.1 = .ok jobs → (regathered.1 = .ok jobs ↔ alike)) ∧
    ∀ out, (c.compile group mounts disks).1 = .ok out →
      ((again.compile group mounts disks).1 = .ok out ↔ alike) := by
  intro again gathered regathered alike
  have gathers : alike → gathered = regathered := Manifest.gather_of_leftAlike same
  refine ⟨?_, fun jobs made => Manifest.gather_ok_iff same made, ?_⟩
  · intro either
    have equal : gathered = regathered := by
      rcases either with fails | left
      · exact Manifest.gather_fault_of_raw same fails group
      · exact gathers left
    exact ⟨equal, compile_of_gather same equal mounts disks⟩
  · intro out done
    have made : gathered.1 = .ok out.jobs := (compile_ok done).1
    constructor
    · intro twice
      exact (Manifest.gather_ok_iff same made).mp (compile_ok twice).1
    · intro left
      rw [← compile_of_gather same (gathers left), done]

end Compilation

namespace Prefilled

def resolved : ResolvedJob where
  release := some "stale"
  instances := []
  consumes := .ofList [("db", ⟨[], .ofList [("secret", .string "x")]⟩)]
  runtime := some ⟨[⟨"p", "/p", [], ∅, none, .unset, ∅, [], false⟩], .unset⟩

def app (resolved : ResolvedJob) : Job := ⟨"a", "r", .unset, ∅, ∅, resolved⟩

def web (instances : Nat) (resolved : ResolvedJob) : InstanceGroup :=
  ⟨"web", instances, [], none, [app resolved]⟩

def pg : Job := ⟨"pg", "r", .unset, ∅, ∅, .unset⟩

def data : InstanceGroup := ⟨"data", 1, [], none, [pg]⟩

def bare (resolved : ResolvedJob) : Manifest := ⟨"shop", [], [web 0 resolved]⟩

def furnished (resolved : ResolvedJob) : Manifest :=
  ⟨"shop", [⟨"r", none⟩], [web 1 resolved, data]⟩

def compilation (manifest : Manifest) : Compilation where
  manifest := manifest
  kubeNamespace := "ns"
  files :=
    (FileTree.empty "base").write "jobs-src/r/a/job.MF"
        ("templates:\n  t: bpm.yml\n"
          ++ "consumes:\n- name: db\n  type: sql\n  optional: true\n").toUTF8
      |>.write "jobs-src/r/a/templates/t" "processes: []\n".toUTF8
      |>.write "jobs-src/r/pg/job.MF" "provides:\n- name: db\n  type: sql\n".toUTF8
  images := fun _ job => .ok ("registry/" ++ job)
  settings := { Settings.default with disableLogSidecar := true }

def summary (out : CompiledGroup) : List ResolvedJob × List String :=
  (out.jobs.map (·.resolved), out.containers.map (·.name))

theorem app_relinks : (app resolved).Relinks (furnished resolved)
    (compilation (furnished resolved)).files.specs "db" := by
  have consumes : ((compilation (furnished resolved)).files.specs "r" "a").toOption.map
      (·.consumes) = some [⟨"db", "sql", true⟩] := by decide +kernel
  have provides : ((compilation (furnished resolved)).files.specs "r" "pg").toOption.map
      (·.provides) = some [⟨"db", "sql", []⟩] := by decide +kernel
  obtain ⟨spec, read, consumes⟩ := exists_ok consumes
  obtain ⟨source, provider, provides⟩ := exists_ok provides
  have provided : (furnished resolved).Provides (compilation (furnished resolved)).files.specs
      "sql" "db" := by
    refine ⟨data, by simp [furnished], pg, by simp [data], source, provider, ?_⟩
    exact ⟨⟨"db", "sql", []⟩, by simp [provides], rfl, rfl⟩
  exact ⟨spec, read, ⟨"db", "sql", true⟩, by simp [consumes], rfl, rfl, provided⟩

theorem furnished_alike : (furnished resolved).LeftAlike (furnished .unset)
    (compilation (furnished resolved)).files.specs "web" := by
  intro g twin found present
  obtain rfl : web 1 resolved = g := Option.some.inj found
  obtain rfl : web 1 .unset = twin := Option.some.inj present
  refine .cons ⟨rfl, ?_, ?_, ?_⟩ .nil
  · intro undeclared
    cases undeclared
  · intro name missing
    have differs : name ≠ "db" := by
      rintro rfl
      exact missing app_relinks
    rw [app, app, resolved, Dict.get?_ofList, List.reverse_singleton, Entries.lookup_head,
      if_neg differs]
    rfl
  · intro placeless
    cases placeless

end Prefilled

/-- Links, a release and a configuration that a manifest comes with are overwritten. -/
theorem compile_leftover_furnished :
    (Prefilled.furnished Prefilled.resolved).raw = (Prefilled.furnished .unset).raw ∧
      ∀ mounts disks,
        (Prefilled.compilation (Prefilled.furnished Prefilled.resolved)).compile "web" mounts
            disks =
          (Prefilled.compilation (Prefilled.furnished .unset)).compile "web" mounts disks := by
  refine ⟨rfl, fun mounts disks => ?_⟩
  obtain ⟨equal, -, -⟩ := Compilation.compile_leftover
    (Prefilled.compilation (Prefilled.furnished Prefilled.resolved)) (Prefilled.furnished .unset)
    rfl "web" mounts disks
  exact (equal (.inr Prefilled.furnished_alike)).2

/-- What a manifest comes with can stay, and processes in it become containers. -/
theorem compile_leftover_bare :
    (Prefilled.bare Prefilled.resolved).raw = (Prefilled.bare .unset).raw ∧
      ∃ filled clean,
        ((Prefilled.compilation (Prefilled.bare Prefilled.resolved)).compile "web" []
          (Disk.catalog [])).1 = .ok filled ∧
        ((Prefilled.compilation (Prefilled.bare .unset)).compile "web" []
          (Disk.catalog [])).1 = .ok clean ∧
        Prefilled.summary filled = ([Prefilled.resolved], ["a-p"]) ∧
        Prefilled.summary clean = ([.unset], []) := by
  have filled : ((Prefilled.compilation (Prefilled.bare Prefilled.resolved)).compile "web" []
      (Disk.catalog [])).1.toOption.map Prefilled.summary =
        some ([Prefilled.resolved], ["a-p"]) := by decide +kernel
  have clean : ((Prefilled.compilation (Prefilled.bare .unset)).compile "web" []
      (Disk.catalog [])).1.toOption.map Prefilled.summary = some ([.unset], []) := by
    decide +kernel
  obtain ⟨left, compiled, stays⟩ := exists_ok filled
  obtain ⟨right, again, nothing⟩ := exists_ok clean
  exact ⟨rfl, left, right, compiled, again, stays, nothing⟩

end JobContainers

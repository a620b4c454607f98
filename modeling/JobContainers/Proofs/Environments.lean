import JobContainers.Proofs.DerivedData
import JobContainers.Proofs.TwinRuns

set_option autoImplicit false

namespace JobContainers

namespace Job

/-- The job without settings of its own environment. -/
def withoutEnvs (job : Job) : Job :=
  { job with properties := { job.properties with envs := none } }

theorem withoutEnvs_keeps : KeepsCollected withoutEnvs where
  name _ := rfl
  release _ := rfl
  overrides _ := rfl
  provides _ := rfl

theorem name_of_withoutEnvs {job other : Job} (same : job.withoutEnvs = other.withoutEnvs) :
    job.name = other.name := by
  change job.withoutEnvs.name = other.withoutEnvs.name
  rw [same]

theorem withRelease_withoutEnvs (job : Job) (m : Manifest) :
    job.withoutEnvs.withRelease m = (job.withRelease m).withoutEnvs := by
  rw [withRelease_eq, withRelease_eq]
  rfl

theorem render_withoutEnvs (job : Job) (specs : SpecCache) (files : FileTree)
    (deployment : String) :
    job.withoutEnvs.render specs files deployment =
      (job.render specs files deployment).map fun made => (made.1.withoutEnvs, made.2) := by
  have name : job.withoutEnvs.name = job.name := rfl
  have release : job.withoutEnvs.release = job.release := rfl
  have instances : job.withoutEnvs.resolved.instances = job.resolved.instances := rfl
  -- templates see the overrides of a job, and settings are none of them
  have context : job.withoutEnvs.context = job.context := rfl
  simp only [render, name, release, instances, context]
  cases specs.collected job.release job.name with
  | error cause => rfl
  | ok spec =>
      cases found : spec.templateFor? RuntimeConfig.fileName with
      | none => simp only [bind, Except.bind, found]; rfl
      | some template =>
          simp only [bind, Except.bind, found]
          cases job.resolved.instances.mapM fun i => RuntimeConfig.render files
              (JobSource.templatePath ⟨job.release, job.name⟩ files.base template)
              (job.context spec deployment i) with
          | error cause => rfl
          | ok configs => cases configs <;> rfl

end Job

theorem Linking.resolveJob_withoutEnvs (l : Linking) (job : Job) :
    l.resolveJob job.withoutEnvs =
      ((l.resolveJob job).1.withoutEnvs, (l.resolveJob job).2) := by
  have cached : l.specs.collected job.withoutEnvs.release job.withoutEnvs.name =
      l.specs.collected job.release job.name := rfl
  rw [resolveJob, resolveJob, cached]
  cases l.specs.collected job.release job.name <;> rfl

namespace Manifest

def withoutEnvs (m : Manifest) : Manifest := m.mapJobs Job.withoutEnvs

variable (m : Manifest) (cluster : Cluster) (files : FileTree)

theorem gatherJob_withoutEnvs (l : Linking) (job : Job) :
    m.withoutEnvs.gatherJob files l job.withoutEnvs =
      (m.gatherJob files l job).map fun made => (made.1.withoutEnvs, made.2) := by
  have released : job.withoutEnvs.withRelease m.withoutEnvs = (job.withRelease m).withoutEnvs :=
    job.withRelease_withoutEnvs m
  rw [gatherJob, gatherJob, released, Linking.resolveJob_withoutEnvs]
  rcases l.resolveJob (job.withRelease m) with ⟨resolved, _ | cause⟩
  · exact resolved.render_withoutEnvs l.specs files m.name
  · rfl

theorem gatherJobs_withoutEnvs (l : Linking) (jobs : List Job) :
    m.withoutEnvs.gatherJobs files l (jobs.map Job.withoutEnvs) =
      ((m.gatherJobs files l jobs).1.map fun made => made.map Job.withoutEnvs,
        (m.gatherJobs files l jobs).2) := by
  induction jobs with
  | nil => rfl
  | cons job jobs ih =>
      rw [List.map_cons, gatherJobs, gatherJobs, gatherJob_withoutEnvs, ih]
      cases m.gatherJob files l job with
      | error cause => rfl
      | ok made =>
          dsimp only [Except.map]
          cases (m.gatherJobs files l jobs).1 <;> rfl

theorem gather_withoutEnvs (group : String) :
    m.withoutEnvs.gather cluster files group =
      ((m.gather cluster files group).1.map fun made => made.map Job.withoutEnvs,
        (m.gather cluster files group).2) := by
  have outcome := Linking.collect_mapJobs Job.withoutEnvs_keeps .empty cluster files m
  rcases done : Linking.empty.collect cluster files m with ⟨l, collected, fault⟩
  obtain ⟨copy, again⟩ := Progress.exists_of_outcome outcome.symm done
  rw [← withoutEnvs] at again
  cases fault with
  | some cause =>
      rw [gather_of_fault (by rw [again]), gather_of_fault (by rw [done])]
      rfl
  | none =>
      rw [gather_of_collected again, gather_of_collected done, withoutEnvs, group?_mapJobs]
      cases m.group? group with
      | none => rfl
      | some g =>
          have jobs : ((g.mapJobs Job.withoutEnvs).withInstances cluster).jobs =
              (g.withInstances cluster).jobs.map Job.withoutEnvs := by
            rw [InstanceGroup.withInstances, InstanceGroup.withInstances, InstanceGroup.mapJobs,
              List.map_map, List.map_map]
            rfl
          dsimp only [Option.map_some]
          rw [jobs]
          exact gatherJobs_withoutEnvs m files l _

end Manifest

namespace Conversion

variable (c : Conversion) (general : List VolumeMount) (disks : DiskCatalog) (stamps : Nat)
  {job other : Job}

theorem processContainer_envs (same : job.withoutEnvs = other.withoutEnvs)
    (config : RuntimeConfig) (image : String) (index : Nat) (p : JobProcess) :
    Agree (fun x y => x = { y with env := x.env } ∧
        (job.properties.envVars = other.properties.envVars → x = y))
      (c.processContainer general disks stamps job config image index p)
      (c.processContainer general disks stamps other config image index p) := by
  have name := Job.name_of_withoutEnvs same
  rw [processContainer, processContainer, Container.ofProcess, Container.ofProcess, name,
    bind_assoc, bind_assoc]
  apply agree_bind_same
  intro limits _
  refine .ok ⟨rfl, ?_⟩
  intro envs
  rw [envs]

theorem jobContainers_envs (same : job.withoutEnvs = other.withoutEnvs) :
    Agree (List.Forall₂ fun x y => x = { y with env := x.env } ∧
        (job.properties.envVars = other.properties.envVars → x = y))
      (c.jobContainers general disks stamps job) (c.jobContainers general disks stamps other) := by
  have name := Job.name_of_withoutEnvs same
  rw [jobContainers, jobContainers, name]
  apply agree_bind_same
  intro config _
  split
  · apply agree_bind_same
    intro image _
    apply agree_mapM₂
    rw [List.forall₂_same]
    intro (p, index) _
    exact processContainer_envs c general disks stamps same config image index p
  · exact .ok .nil

variable {jobs others : List Job}

theorem stamps_of_withoutEnvs (same : jobs.map Job.withoutEnvs = others.map Job.withoutEnvs) :
    c.stamps jobs = c.stamps others := by
  have unread (jobs : List Job) : c.stamps (jobs.map Job.withoutEnvs) = c.stamps jobs := by
    rw [Conversion.stamps, List.foldlM_map]
    rfl
  rw [← unread, same, unread]

theorem containers_envs (same : jobs.map Job.withoutEnvs = others.map Job.withoutEnvs) :
    Agree (List.Forall₂ fun x y => x = { y with env := x.env })
      (c.containers jobs general disks) (c.containers others general disks) := by
  have alike := forall₂_of_map same
  rw [containers, containers, stamps_of_withoutEnvs c same]
  apply agree_bind_same
  intro stamps _
  apply agree_bind
  · apply agree_mapM₂
    refine alike.imp ?_
    intro job other same
    apply agree_imp (jobContainers_envs c general disks stamps same)
    intro block second _ _ related
    exact related.imp fun x y both => both.1
  · intro blocks seconds _ _ related
    apply Agree.ok
    apply List.rel_append
    · exact List.rel_flatten related
    · rw [List.forall₂_same]
      intro x _
      rfl

end Conversion

structure CompiledJob where
  job : Job
  containers : List Container

namespace Compilation

/-- The group is put together from its jobs, which are those of the manifest with derived data, the
containers of each of them, and the sidecar. -/
structure Assembles (c : Compilation) (group : String) (mounts : List VolumeMount)
    (disks : DiskCatalog) (parts : List CompiledJob) (out : CompiledGroup) : Prop where
  jobs : out.jobs = parts.map (·.job)
  sources : ∃ g, c.manifest.group? group = some g ∧ out.jobs.map Job.raw = g.jobs.map Job.raw
  converted : ∃ stamps, (c.conversion group out.jobs).stamps out.jobs = .ok stamps ∧
    ∀ part ∈ parts, (c.conversion group out.jobs).jobContainers mounts disks stamps part.job =
      .ok part.containers
  containers : out.containers =
    parts.flatMap (·.containers) ++ (c.conversion group out.jobs).sidecars

theorem exists_parts {R : Job → List Container → Prop} {jobs : List Job}
    {blocks : List (List Container)} (each : List.Forall₂ R jobs blocks) :
    ∃ parts : List CompiledJob, jobs = parts.map (·.job) ∧ blocks = parts.map (·.containers) ∧
      ∀ part ∈ parts, R part.job part.containers := by
  induction each with
  | nil => exact ⟨[], rfl, rfl, fun _ member => absurd member List.not_mem_nil⟩
  | cons made _ ih =>
      rename_i job block jobs blocks _
      obtain ⟨parts, rfl, rfl, others⟩ := ih
      exact ⟨⟨job, block⟩ :: parts, rfl, rfl, List.forall_mem_cons.mpr ⟨made, others⟩⟩

variable {c : Compilation} {other : Manifest} {group : String} {mounts : List VolumeMount}
  {disks : DiskCatalog}

theorem compile_assembles {out : CompiledGroup}
    (done : (c.compile group mounts disks).1 = .ok out) :
    ∃ parts, c.Assembles group mounts disks parts out := by
  obtain ⟨gathered, converted⟩ := compile_ok done
  obtain ⟨l, g, -, found, derived⟩ := Manifest.gather_ok gathered
  obtain ⟨stamps, counted, rest⟩ := bind_ok.mp converted
  obtain ⟨blocks, built, joined⟩ := bind_ok.mp rest
  obtain ⟨parts, jobs, rfl, each⟩ := exists_parts (mapM_ok.mp built)
  refine ⟨parts, jobs, ⟨g, found, Manifest.gathered_raw derived⟩, ⟨stamps, counted, each⟩, ?_⟩
  rw [List.flatMap_def]
  exact (Except.ok.inj joined).symm

theorem conversion_of_withoutEnvs (same : c.manifest.withoutEnvs = other.withoutEnvs)
    {jobs others : List Job} (alike : jobs.map Job.withoutEnvs = others.map Job.withoutEnvs)
    (group : String) :
    c.conversion group jobs = { c with manifest := other }.conversion group others := by
  have errand (m : Manifest) : (m.group? group).any (·.isErrand) =
      (m.withoutEnvs.group? group).any (·.isErrand) := by
    rw [Manifest.withoutEnvs, Manifest.group?_mapJobs]
    cases m.group? group <;> rfl
  have read (jobs : List Job) : configs jobs = configs (jobs.map Job.withoutEnvs) := by
    rw [configs, configs, List.map_map]
    rfl
  rw [conversion, conversion, errand, same, ← errand, read, alike, ← read]

theorem gather_alike (same : c.manifest.withoutEnvs = other.withoutEnvs) :
    (c.manifest.gather c.cluster c.files group).2 = (other.gather c.cluster c.files group).2 ∧
      Agree (fun jobs others => jobs.map Job.withoutEnvs = others.map Job.withoutEnvs)
        (c.manifest.gather c.cluster c.files group).1
        (other.gather c.cluster c.files group).1 := by
  have left := c.manifest.gather_withoutEnvs c.cluster c.files group
  have right := other.gather_withoutEnvs c.cluster c.files group
  rw [same] at left
  obtain ⟨made, warnings⟩ := Prod.mk.inj (left.symm.trans right)
  exact ⟨warnings, agree_of_map made⟩

theorem compile_alike (same : c.manifest.withoutEnvs = other.withoutEnvs) :
    Agree (fun out again =>
        out.jobs.map Job.withoutEnvs = again.jobs.map Job.withoutEnvs ∧
        List.Forall₂ (fun x y => x = { y with env := x.env }) out.containers again.containers)
      (c.compile group mounts disks).1
      ({ c with manifest := other }.compile group mounts disks).1 := by
  rw [compile, compile]
  apply agree_bind (gather_alike same).2
  intro jobs others _ _ alike
  rw [← conversion_of_withoutEnvs same alike]
  apply agree_bind (Conversion.containers_envs _ mounts disks alike)
  intro containers copies _ _ related
  exact .ok ⟨alike, related⟩

theorem containers_of_assembles (same : c.manifest.withoutEnvs = other.withoutEnvs)
    {parts copies : List CompiledJob} {out again : CompiledGroup}
    (alike : out.jobs.map Job.withoutEnvs = again.jobs.map Job.withoutEnvs)
    (left : c.Assembles group mounts disks parts out)
    (right : { c with manifest := other }.Assembles group mounts disks copies again) :
    List.Forall₂ (fun part copy =>
      part.job.properties.envVars = copy.job.properties.envVars →
        part.containers = copy.containers) parts copies := by
  obtain ⟨stamps, counted, converted⟩ := left.converted
  obtain ⟨amount, recounted, reconverted⟩ := right.converted
  -- the second group has been converted in the same way, so it waits for as many stamps
  rw [← conversion_of_withoutEnvs same alike] at recounted reconverted
  rw [← Conversion.stamps_of_withoutEnvs _ alike, counted] at recounted
  obtain rfl : stamps = amount := Except.ok.inj recounted
  rw [left.jobs, right.jobs, List.map_map, List.map_map] at alike
  obtain ⟨length, pairs⟩ := List.forall₂_iff_zip.mp (forall₂_of_map alike)
  refine List.forall₂_iff_zip.mpr ⟨length, ?_⟩
  intro part copy paired envs
  obtain ⟨inside, there⟩ := List.of_mem_zip paired
  have blocks := agree_ok (Conversion.jobContainers_envs _ mounts disks stamps (pairs paired))
    (converted part inside) (reconverted copy there)
  rw [← List.forall₂_eq_eq_eq]
  exact blocks.imp fun x y both => both.2 envs

/-- Manifests that differ in settings of environments only give the same warnings and, if they do
not both fail alike, the same jobs but for these settings and the same containers but for their
environments. Containers of jobs with the same settings are the same. -/
theorem compile_envs (c : Compilation) (other : Manifest)
    (same : c.manifest.withoutEnvs = other.withoutEnvs) (group : String)
    (mounts : List VolumeMount) (disks : DiskCatalog) :
    (c.compile group mounts disks).2 =
      ({ c with manifest := other }.compile group mounts disks).2 ∧
    Agree (fun out again =>
        out.jobs.map Job.withoutEnvs = again.jobs.map Job.withoutEnvs ∧
        List.Forall₂ (fun x y => x = { y with env := x.env }) out.containers again.containers ∧
        ∃ parts copies, c.Assembles group mounts disks parts out ∧
          { c with manifest := other }.Assembles group mounts disks copies again ∧
          List.Forall₂ (fun part copy =>
            part.job.properties.envVars = copy.job.properties.envVars →
              part.containers = copy.containers) parts copies)
      (c.compile group mounts disks).1
      ({ c with manifest := other }.compile group mounts disks).1 := by
  refine ⟨(gather_alike same).1, ?_⟩
  apply agree_imp (compile_alike same)
  intro out again done twice related
  obtain ⟨jobs, containers⟩ := related
  obtain ⟨parts, assembled⟩ := compile_assembles done
  obtain ⟨copies, reassembled⟩ := compile_assembles twice
  exact ⟨jobs, containers, parts, copies, assembled, reassembled,
    containers_of_assembles same jobs assembled reassembled⟩

end Compilation

namespace Tuned

def app (envs : Option (List EnvVar)) : Job := ⟨"app", "r", ⟨envs, ∅⟩, ∅, ∅, .unset⟩

def db : Job := ⟨"db", "r", ⟨some [.literal "MODE" "rw"], ∅⟩, ∅, ∅, .unset⟩

def compilation (envs : Option (List EnvVar)) : Compilation where
  manifest := ⟨"shop", [], [⟨"web", 1, [], none, [app envs, db]⟩]⟩
  kubeNamespace := "ns"
  files :=
    (FileTree.empty "base").write "jobs-src/r/app/job.MF" "templates:\n  t: bpm.yml\n".toUTF8
      |>.write "jobs-src/r/app/templates/t" "processes:\n- name: p\n  executable: /p\n".toUTF8
      |>.write "jobs-src/r/db/job.MF" "templates:\n  t: bpm.yml\n".toUTF8
      |>.write "jobs-src/r/db/templates/t" "processes:\n- name: q\n  executable: /q\n".toUTF8
  images := fun _ job => .ok ("registry/" ++ job)
  settings := { Settings.default with disableLogSidecar := true }

def summary (out : CompiledGroup) : List (List String) :=
  out.containers.map fun x => x.env.map (·.name)

def standard : List String := ["POD_ORDINAL", "REPLICAS", "AZ_INDEX"]

end Tuned

theorem compile_envs_tuned :
    (Tuned.compilation none).manifest.withoutEnvs =
        (Tuned.compilation (some [.literal "EXTRA" "1"])).manifest.withoutEnvs ∧
      ∃ plain tuned,
        ((Tuned.compilation none).compile "web" [] (Disk.catalog [])).1 = .ok plain ∧
        ((Tuned.compilation (some [.literal "EXTRA" "1"])).compile "web" []
          (Disk.catalog [])).1 = .ok tuned ∧
        Tuned.summary plain = [Tuned.standard, "MODE" :: Tuned.standard] ∧
        Tuned.summary tuned = ["EXTRA" :: Tuned.standard, "MODE" :: Tuned.standard] ∧
        plain.jobs.map Job.withoutEnvs = tuned.jobs.map Job.withoutEnvs ∧
        List.Forall₂ (fun x y => x = { y with env := x.env }) plain.containers tuned.containers := by
  have plain : ((Tuned.compilation none).compile "web" [] (Disk.catalog [])).1.toOption.map
      Tuned.summary = some [Tuned.standard, "MODE" :: Tuned.standard] := by decide +kernel
  have tuned : ((Tuned.compilation (some [.literal "EXTRA" "1"])).compile "web" []
      (Disk.catalog [])).1.toOption.map Tuned.summary =
        some ["EXTRA" :: Tuned.standard, "MODE" :: Tuned.standard] := by decide +kernel
  obtain ⟨out, done, left⟩ := exists_ok plain
  obtain ⟨again, twice, right⟩ := exists_ok tuned
  obtain ⟨-, related⟩ := Compilation.compile_envs (Tuned.compilation none)
    (Tuned.compilation (some [.literal "EXTRA" "1"])).manifest rfl "web" [] (Disk.catalog [])
  obtain ⟨jobs, containers, -⟩ := agree_ok related done twice
  exact ⟨rfl, out, again, done, twice, left, right, jobs, containers⟩

end JobContainers

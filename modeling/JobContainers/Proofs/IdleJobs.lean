import JobContainers.Proofs.ConversionShape

set_option autoImplicit false

namespace JobContainers

namespace Conversion

def Idle (c : Conversion) (job : Job) : Prop :=
  ∃ config, c.configs.get? job.name = some config ∧ config.processes = []

/-- Two lists of jobs that differ in idle jobs only, wherever these stand. -/
inductive SameWork (c : Conversion) : List Job → List Job → Prop
  | nil : SameWork c [] []
  | both (job : Job) {jobs others : List Job} (rest : SameWork c jobs others) :
      SameWork c (job :: jobs) (job :: others)
  | left {job : Job} (idle : c.Idle job) {jobs others : List Job} (rest : SameWork c jobs others) :
      SameWork c (job :: jobs) others
  | right {job : Job} (idle : c.Idle job) {jobs others : List Job} (rest : SameWork c jobs others) :
      SameWork c jobs (job :: others)

def withImages (c : Conversion) (images : ImageProvider) : Conversion := { c with images := images }

/-- Two catalogs that agree on the disks of the processes of a job. -/
def SameDisks (c : Conversion) (disks catalog : DiskCatalog) (job : Job) : Prop :=
  disks.jobMounts job.name = catalog.jobMounts job.name ∧
    ∀ p ∈ c.processes job,
      disks.processMounts job.name p.name = catalog.processMounts job.name p.name

instance (c : Conversion) (disks catalog : DiskCatalog) (job : Job) :
    Decidable (c.SameDisks disks catalog job) := inferInstanceAs (Decidable (_ ∧ _))

variable {c : Conversion} {general : List VolumeMount} {disks catalog : DiskCatalog}
  {images : ImageProvider} {stamps : Nat} {job : Job} {jobs others : List Job}

theorem countJob_idle (idle : c.Idle job) (n : Nat) : c.countJob n job = .ok n := by
  obtain ⟨config, found, none⟩ := idle
  have configured : c.unconfigured job = false := by rw [unconfigured, found, Option.isNone_some]
  have resting : c.runs job = false := by
    rw [Conversion.runs, processes_of found, none, List.isEmpty_nil, Bool.not_true]
  rw [countJob_eq, configured, resting]
  rfl

theorem jobContainers_idle (idle : c.Idle job) :
    c.jobContainers general disks stamps job = .ok [] := by
  obtain ⟨config, found, none⟩ := idle
  have resting : config.hasProcesses = false := by rw [RuntimeConfig.hasProcesses, none]; rfl
  have present : c.config job.name = .ok config := by rw [Conversion.config, found]
  rw [jobContainers, present]
  change (if config.hasProcesses then _ else _) = _
  rw [resting]
  rfl

theorem foldlM_of_sameWork (same : c.SameWork jobs others) (n : Nat) :
    jobs.foldlM c.countJob n = others.foldlM c.countJob n := by
  induction same generalizing n with
  | nil => rfl
  | both job _ ih =>
      rw [List.foldlM_cons, List.foldlM_cons]
      congr 1
      funext m
      exact ih m
  | left idle _ ih =>
      rw [List.foldlM_cons, countJob_idle idle]
      exact ih n
  | right idle _ ih =>
      rw [List.foldlM_cons, countJob_idle idle]
      exact ih n

theorem stamps_of_sameWork (same : c.SameWork jobs others) : c.stamps jobs = c.stamps others :=
  foldlM_of_sameWork same 0

theorem jobContainers_of_work
    (pulled : c.runs job = true → images c.group job.name = c.images c.group job.name)
    (mounted : c.runs job = true → c.SameDisks disks catalog job) :
    (c.withImages images).jobContainers general catalog stamps job =
      c.jobContainers general disks stamps job := by
  have known : (c.withImages images).config job.name = c.config job.name := rfl
  rw [jobContainers, jobContainers, known]
  refine bind_congr_ok fun config found => ?_
  have own : c.processes job = config.processes := processes_of (config_ok found)
  split
  · rename_i busy
    have runs : c.runs job = true := by
      rw [Conversion.runs, own]
      exact busy
    have image : (c.withImages images).image job.name = c.image job.name := by
      have answer : (c.withImages images).images (c.withImages images).group job.name =
          c.images c.group job.name := pulled runs
      rw [Conversion.image, Conversion.image, answer]
      rfl
    obtain ⟨ofJob, ofProcess⟩ := mounted runs
    rw [image]
    refine bind_congr_ok fun image _ => mapM_congr ?_
    rintro ⟨p, index⟩ member
    have inside : p ∈ c.processes job := own ▸ List.fst_mem_of_mem_zipIdx member
    change (c.withImages images).processContainer general catalog stamps job config image index p =
      c.processContainer general disks stamps job config image index p
    rw [processContainer, processContainer, ofJob, ofProcess p inside]
    rfl
  · rfl

theorem blocks_of_sameWork (same : c.SameWork jobs others)
    (pulled : ∀ job ∈ jobs, c.runs job = true →
      images c.group job.name = c.images c.group job.name)
    (mounted : ∀ job ∈ jobs, c.runs job = true → c.SameDisks disks catalog job) :
    (others.mapM ((c.withImages images).jobContainers general catalog stamps)).map
        List.flatten =
      (jobs.mapM (c.jobContainers general disks stamps)).map List.flatten := by
  induction same with
  | nil => rfl
  | both job _ ih =>
      obtain ⟨image, images⟩ := List.forall_mem_cons.mp pulled
      obtain ⟨mount, mounts⟩ := List.forall_mem_cons.mp mounted
      rw [flatten_cons, flatten_cons, jobContainers_of_work image mount, ih images mounts]
  | left idle _ ih =>
      obtain ⟨-, images⟩ := List.forall_mem_cons.mp pulled
      obtain ⟨-, mounts⟩ := List.forall_mem_cons.mp mounted
      rw [ih images mounts, flatten_cons_nil _ (jobContainers_idle idle)]
  | right idle _ ih =>
      have nothing : (c.withImages images).jobContainers general catalog stamps _ = .ok [] :=
        jobContainers_idle idle
      rw [flatten_cons_nil _ nothing, ih pulled mounted]

theorem containers_eq_blocks (c : Conversion) (jobs : List Job) (general : List VolumeMount)
    (disks : DiskCatalog) :
    c.containers jobs general disks = c.stamps jobs >>= fun stamps =>
      ((jobs.mapM (c.jobContainers general disks stamps)).map List.flatten).map (· ++ c.sidecars) := by
  rw [containers]
  refine bind_congr_ok fun stamps _ => ?_
  cases jobs.mapM (c.jobContainers general disks stamps) <;> rfl

/-- Idle jobs may come and go anywhere in the list, and whatever images and disks there are for
them, the count of stamps and the outcome of the conversion stay the same. -/
theorem containers_inert (same : c.SameWork jobs others)
    (pulled : ∀ job ∈ jobs, c.runs job = true →
      images c.group job.name = c.images c.group job.name)
    (mounted : ∀ job ∈ jobs, c.runs job = true → c.SameDisks disks catalog job) :
    (c.withImages images).stamps others = c.stamps jobs ∧
      (c.withImages images).containers others general catalog = c.containers jobs general disks := by
  have counted : (c.withImages images).stamps others = c.stamps jobs :=
    (stamps_of_sameWork same).symm
  refine ⟨counted, ?_⟩
  rw [containers_eq_blocks, containers_eq_blocks, counted]
  refine bind_congr_ok fun stamps _ => ?_
  rw [blocks_of_sameWork same pulled mounted]
  rfl

end Conversion

namespace Trio

def shifted : List Job := [job "lib", job "api", job "db", job "lib"]

def images : ImageProvider := fun _ job =>
  if job = "lib" then .error (.other "no image") else .ok ("registry/" ++ job)

def catalog : DiskCatalog where
  jobMounts job := if job = "lib" then ⟨some (.whole "scratch" "/scratch"), none⟩ else ⟨none, none⟩
  processMounts _ _ := []

theorem shifted_sameWork : conversion.SameWork jobs shifted := by
  have idle : conversion.Idle (job "lib") := ⟨.empty, by decide, rfl⟩
  exact .right idle (.both _ (.left idle (.both _ (.right idle .nil))))

end Trio

theorem containers_inert_trio :
    ∃ out, Trio.conversion.SameWork Trio.jobs Trio.shifted ∧
      Trio.images "web" "lib" = .error (.other "no image") ∧
      Trio.conversion.containers Trio.jobs [] (Disk.catalog []) = .ok out ∧
      (Trio.conversion.withImages Trio.images).containers Trio.shifted [] Trio.catalog = .ok out ∧
      (Trio.conversion.withImages Trio.images).stamps Trio.shifted = .ok 2 := by
  obtain ⟨out, done, -⟩ := Trio.converted
  have counted : Trio.conversion.stamps Trio.jobs = .ok 2 := by decide
  obtain ⟨stamps, containers⟩ :
      (Trio.conversion.withImages Trio.images).stamps Trio.shifted =
        Trio.conversion.stamps Trio.jobs ∧
      (Trio.conversion.withImages Trio.images).containers Trio.shifted [] Trio.catalog =
        Trio.conversion.containers Trio.jobs [] (Disk.catalog []) :=
    Conversion.containers_inert Trio.shifted_sameWork (by decide) (by decide +kernel)
  exact ⟨out, Trio.shifted_sameWork, rfl, done, containers.trans done, stamps.trans counted⟩

end JobContainers

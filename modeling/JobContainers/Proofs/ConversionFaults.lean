import JobContainers.Proofs.ConversionShape

/-!
When a conversion fails and what it reports. A job without a configuration comes before everything
else; then the jobs are asked in order, each for its image and for the limits of its processes.
-/

set_option autoImplicit false

namespace JobContainers

def ProcessLimits.written (l : ProcessLimits) : LimitKind → Option String
  | .memory => l.memory
  | .cpu => l.cpu

theorem ProcessLimits.get?_eq_some {l : ProcessLimits} {kind : LimitKind} {value : String} :
    l.get? kind = some value ↔ l.written kind = some value ∧ value ≠ "" := by
  cases kind <;> simp [get?, written, Option.filter_eq_some_iff]

namespace JobProcess

def Refused (p : JobProcess) (kind : LimitKind) (value : String) (cause : QuantityError) : Prop :=
  p.limits.written kind = some value ∧ value ≠ "" ∧ Quantity.parse value = .error cause

/-- What is reported of the limits of a process, that of the memory first. -/
inductive Fails (job : String) (p : JobProcess) : CompileError → Prop
  | memory {value : String} {cause : QuantityError} (refused : p.Refused .memory value cause) :
      Fails job p (.quantityParse .memory value job p.name cause)
  | cpu {value : String} {cause : QuantityError}
      (memory : ∀ value cause, ¬p.Refused .memory value cause)
      (refused : p.Refused .cpu value cause) :
      Fails job p (.quantityParse .cpu value job p.name cause)

variable {p : JobProcess} {job : String} {kind : LimitKind} {cause : CompileError}

theorem limit?_error :
    p.limit? job kind = .error cause ↔
      ∃ value fault, p.Refused kind value fault ∧
        cause = .quantityParse kind value job p.name fault := by
  simp only [Refused, ← and_assoc, ← ProcessLimits.get?_eq_some]
  rw [limit?]
  cases p.limits.get? kind with
  | none => simp
  | some value =>
      cases parsed : Quantity.parse value with
      | ok q => simp [parsed]
      | error fault => simp [parsed, eq_comm]

theorem limit?_ok :
    (∃ limit, p.limit? job kind = .ok limit) ↔ ∀ value fault, ¬p.Refused kind value fault := by
  rw [ok_iff_not_error]
  simp only [limit?_error]
  constructor
  · intro sound value fault refused
    exact sound ⟨_, value, fault, refused, rfl⟩
  · rintro sound ⟨_, value, fault, refused, -⟩
    exact sound value fault refused

theorem quantities_error : p.quantities job = .error cause ↔ p.Fails job cause := by
  rw [quantities, bind_error]
  constructor
  · rintro (memory | ⟨limit, memory, rest⟩)
    · obtain ⟨value, fault, refused, rfl⟩ := limit?_error.mp memory
      exact .memory refused
    · obtain cpu | ⟨_, -, made⟩ := bind_error.mp rest
      · obtain ⟨value, fault, refused, rfl⟩ := limit?_error.mp cpu
        exact .cpu (limit?_ok.mp ⟨limit, memory⟩) refused
      · cases made
  · intro fails
    cases fails with
    | memory refused => exact .inl (limit?_error.mpr ⟨_, _, refused, rfl⟩)
    | cpu memory refused =>
        obtain ⟨limit, fine⟩ : ∃ limit, p.limit? job .memory = .ok limit := limit?_ok.mpr memory
        exact .inr ⟨limit, fine, bind_error.mpr (.inl (limit?_error.mpr ⟨_, _, refused, rfl⟩))⟩

theorem exists_fails :
    (∃ cause, p.Fails job cause) ↔ ∃ kind value cause, p.Refused kind value cause := by
  constructor
  · rintro ⟨_, refused | ⟨-, refused⟩⟩
    · exact ⟨.memory, _, _, refused⟩
    · exact ⟨.cpu, _, _, refused⟩
  · rintro ⟨kind, value, fault, refused⟩
    by_cases memory : ∃ value cause, p.Refused .memory value cause
    · obtain ⟨_, _, first⟩ := memory
      exact ⟨_, .memory first⟩
    · cases kind with
      | memory => exact absurd ⟨value, fault, refused⟩ memory
      | cpu => exact ⟨_, .cpu (fun v c other => memory ⟨v, c, other⟩) refused⟩

end JobProcess

def ImageError.reported (group job : String) : ImageError → CompileError
  | lookup group job detail => .imageLookup group job detail
  | other detail => .imageLookup group job detail

namespace Conversion

def Faulty (c : Conversion) (job : Job) : Prop :=
  c.runs job = true ∧ ((∃ cause, c.images c.group job.name = .error cause) ∨
    ∃ p ∈ c.processes job, ∃ kind value cause, p.Refused kind value cause)

/-- What is reported of a job: its image, and then its first process with a bad limit. -/
inductive Fails (c : Conversion) (job : Job) : CompileError → Prop
  | image {fault : ImageError} (runs : c.runs job = true)
      (failed : c.images c.group job.name = .error fault) :
      Fails c job (fault.reported c.group job.name)
  | limit {image : String} {before behind : List JobProcess} {p : JobProcess} {cause : CompileError}
      (pulled : c.images c.group job.name = .ok image)
      (split : c.processes job = before ++ p :: behind)
      (sound : ∀ earlier ∈ before, ∀ kind value fault, ¬earlier.Refused kind value fault)
      (fails : p.Fails job.name cause) : Fails c job cause

variable {c : Conversion} {general : List VolumeMount} {disks : DiskCatalog} {stamps : Nat}
  {job : Job} {config : RuntimeConfig} {cause : CompileError}

theorem faulty_iff : c.Faulty job ↔ ∃ cause, c.Fails job cause := by
  constructor
  · rintro ⟨runs, ⟨fault, failed⟩ | refused⟩
    · exact ⟨_, .image runs failed⟩
    · cases pulled : c.images c.group job.name with
      | error fault => exact ⟨_, .image runs pulled⟩
      | ok image =>
          obtain ⟨before, p, behind, split, sound, bad⟩ := exists_first.mp refused
          obtain ⟨cause, fails⟩ : ∃ cause, p.Fails job.name cause :=
            JobProcess.exists_fails.mpr bad
          refine ⟨cause, .limit pulled split ?_ fails⟩
          intro earlier member kind value fault other
          exact sound earlier member ⟨kind, value, fault, other⟩
  · rintro ⟨cause, ⟨runs, failed⟩ | ⟨pulled, split, sound, fails⟩⟩
    · exact ⟨runs, .inl ⟨_, failed⟩⟩
    · refine ⟨?_, .inr ⟨_, ?_, JobProcess.exists_fails.mp ⟨_, fails⟩⟩⟩
      · rw [Conversion.runs, split]
        simp
      · rw [split]
        exact List.mem_append_right _ List.mem_cons_self

theorem image_error :
    c.image job.name = .error cause ↔
      ∃ fault, c.images c.group job.name = .error fault ∧
        fault.reported c.group job.name = cause := by
  rw [image]
  cases c.images c.group job.name with
  | ok image => simp
  | error fault => cases fault <;> simp [ImageError.reported]

theorem image_ok {image : String} :
    c.image job.name = .ok image ↔ c.images c.group job.name = .ok image := by
  rw [Conversion.image]
  cases c.images c.group job.name with
  | ok image => simp
  | error fault => cases fault <;> simp

theorem processContainer_error {image : String} {index : Nat} {p : JobProcess} :
    c.processContainer general disks stamps job config image index p = .error cause ↔
      p.Fails job.name cause := by
  rw [← JobProcess.quantities_error, processContainer, bind_error, Container.ofProcess, bind_error]
  constructor
  · rintro ((limits | ⟨_, -, made⟩) | ⟨_, -, made⟩)
    · exact limits
    · cases made
    · cases made
  · intro limits
    exact .inl (.inl limits)

theorem processContainer_sound {image : String} {index : Nat} {p : JobProcess} :
    (∃ x, c.processContainer general disks stamps job config image index p = .ok x) ↔
      ∀ kind value fault, ¬p.Refused kind value fault := by
  rw [ok_iff_not_error]
  simp only [processContainer_error, JobProcess.exists_fails, not_exists]

theorem jobContainers_error (found : c.configs.get? job.name = some config) :
    c.jobContainers general disks stamps job = .error cause ↔ c.Fails job cause := by
  have own : c.processes job = config.processes := processes_of found
  have present : c.config job.name = .ok config := by rw [Conversion.config, found]
  rw [jobContainers, present]
  change (if config.hasProcesses then _ else _) = _ ↔ _
  split
  · rename_i busy
    have runs : c.runs job = true := by
      rw [Conversion.runs, own]
      exact busy
    rw [bind_error]
    constructor
    · rintro (pull | ⟨image, pulled, fails⟩)
      · obtain ⟨fault, failed, rfl⟩ := image_error.mp pull
        exact .image runs failed
      · obtain ⟨before, ⟨p, index⟩, behind, split, sound, wrong⟩ := mapM_error.mp fails
        have parts := congrArg (List.map Prod.fst) split
        rw [List.zipIdx_map_fst, List.map_append, List.map_cons] at parts
        refine .limit (image_ok.mp pulled) (own.trans parts) ?_ (processContainer_error.mp wrong)
        intro earlier member
        obtain ⟨entry, inside, rfl⟩ := List.mem_map.mp member
        exact processContainer_sound.mp (sound entry inside)
    · intro fails
      cases fails with
      | image _ failed => exact .inl (image_error.mpr ⟨_, failed, rfl⟩)
      | @limit image before behind p _ pulled split sound wrong =>
          refine .inr ⟨image, image_ok.mpr pulled, mapM_error.mpr ⟨before.zipIdx,
            (p, before.length), behind.zipIdx (before.length + 1), ?_, ?_,
            processContainer_error.mpr wrong⟩⟩
          · rw [← own, split, List.zipIdx_append, Nat.zero_add, List.zipIdx_cons]
          · intro entry member
            exact processContainer_sound.mpr (sound entry.1 (List.fst_mem_of_mem_zipIdx member))
  · rename_i idle
    constructor
    · intro fails
      cases fails
    · intro fails
      obtain ⟨runs, -⟩ := faulty_iff.mpr ⟨cause, fails⟩
      rw [Conversion.runs, own] at runs
      exact absurd runs idle

theorem jobContainers_sound (found : (c.configs.get? job.name).isSome) :
    (∃ block, c.jobContainers general disks stamps job = .ok block) ↔ ¬c.Faulty job := by
  obtain ⟨config, found⟩ := Option.isSome_iff_exists.mp found
  simp only [ok_iff_not_error, jobContainers_error found, faulty_iff]

theorem stamps_missing {before behind : List Job}
    (configured : ∀ earlier ∈ before, (c.configs.get? earlier.name).isSome)
    (missing : c.configs.get? job.name = none) :
    c.stamps (before ++ job :: behind) = .error (.missingConfig job.name) := by
  have first : (before ++ job :: behind).find? c.unconfigured = some job := by
    rw [List.find?_eq_some_iff_append]
    refine ⟨Option.isNone_iff_eq_none.mpr missing, before, behind, rfl, ?_⟩
    intro earlier member
    rw [unconfigured, Option.not_isNone, configured earlier member]
  rw [stamps_eq, first]

theorem stamps_configured {jobs : List Job}
    (configured : ∀ job ∈ jobs, (c.configs.get? job.name).isSome) :
    c.stamps jobs = .ok (jobs.countP c.runs) := by
  have none : jobs.find? c.unconfigured = none := by
    rw [List.find?_eq_none]
    intro job member
    rw [unconfigured, Option.isNone_iff_eq_none, ← ne_eq, Option.ne_none_iff_isSome]
    exact configured job member
  rw [stamps_eq, none]

theorem containers_error {jobs : List Job}
    (configured : ∀ job ∈ jobs, (c.configs.get? job.name).isSome) :
    c.containers jobs general disks = .error cause ↔
      ∃ before job behind, jobs = before ++ job :: behind ∧
        (∀ earlier ∈ before, ¬c.Faulty earlier) ∧ c.Fails job cause := by
  have passes : c.containers jobs general disks = .error cause ↔
      jobs.mapM (c.jobContainers general disks (jobs.countP c.runs)) = .error cause := by
    rw [containers, stamps_configured configured]
    change (jobs.mapM (c.jobContainers general disks (jobs.countP c.runs)) >>= fun blocks =>
      .ok (blocks.flatten ++ c.sidecars)) = _ ↔ _
    rw [bind_error]
    constructor
    · rintro (fails | ⟨_, -, joined⟩)
      · exact fails
      · cases joined
    · exact .inl
  rw [passes, mapM_error]
  constructor
  · rintro ⟨before, job, behind, rfl, sound, fails⟩
    obtain ⟨known, here⟩ := List.forall_mem_append.mp configured
    obtain ⟨config, found⟩ := Option.isSome_iff_exists.mp (here job List.mem_cons_self)
    refine ⟨before, job, behind, rfl, ?_, (jobContainers_error found).mp fails⟩
    intro earlier member
    exact (jobContainers_sound (known earlier member)).mp (sound earlier member)
  · rintro ⟨before, job, behind, rfl, sound, fails⟩
    obtain ⟨known, here⟩ := List.forall_mem_append.mp configured
    obtain ⟨config, found⟩ := Option.isSome_iff_exists.mp (here job List.mem_cons_self)
    refine ⟨before, job, behind, rfl, ?_, (jobContainers_error found).mpr fails⟩
    intro earlier member
    exact (jobContainers_sound (known earlier member)).mpr (sound earlier member)

/-- A job without a configuration is reported before all else, the first of them by name. If all
have one, the conversion fails exactly if a job is faulty, and reports what is wrong with the first
such job. -/
theorem containers_fault (c : Conversion) (jobs : List Job) (general : List VolumeMount)
    (disks : DiskCatalog) :
    (∀ before job behind, jobs = before ++ job :: behind →
      (∀ earlier ∈ before, (c.configs.get? earlier.name).isSome) →
      c.configs.get? job.name = none →
      c.containers jobs general disks = .error (.missingConfig job.name)) ∧
    ((∀ job ∈ jobs, (c.configs.get? job.name).isSome) →
      ((∃ cause, c.containers jobs general disks = .error cause) ↔ ∃ job ∈ jobs, c.Faulty job) ∧
      ∀ cause, c.containers jobs general disks = .error cause ↔
        ∃ before job behind, jobs = before ++ job :: behind ∧
          (∀ earlier ∈ before, ¬c.Faulty earlier) ∧ c.Fails job cause) := by
  constructor
  · rintro before job behind rfl configured missing
    rw [containers, stamps_missing configured missing]
    rfl
  · intro configured
    refine ⟨?_, fun cause => containers_error configured⟩
    rw [exists_first]
    simp only [containers_error configured]
    constructor
    · rintro ⟨cause, before, job, behind, split, sound, fails⟩
      exact ⟨before, job, behind, split, sound, faulty_iff.mpr ⟨cause, fails⟩⟩
    · rintro ⟨before, job, behind, split, sound, faulty⟩
      obtain ⟨cause, fails⟩ := faulty_iff.mp faulty
      exact ⟨cause, before, job, behind, split, sound, fails⟩

end Conversion

namespace Faulted

def limited : JobProcess := { Trio.process "wal" with limits := ⟨some "1Gi", some "lots"⟩ }

def jobs : List Job := [Trio.job "api", Trio.job "lib", Trio.job "db", Trio.job "web"]

def conversion : Conversion where
  group := "web"
  errand := false
  configs := .ofList [("api", ⟨[Trio.process "api"], .unset⟩), ("lib", .empty),
    ("db", ⟨[Trio.process "pg", limited], .unset⟩), ("web", ⟨[Trio.process "web"], .unset⟩)]
  images := fun _ job =>
    if job = "api" ∨ job = "db" then .ok ("registry/" ++ job) else .error (.other "no image")
  settings := .default

theorem configured : ∀ job ∈ jobs, (conversion.configs.get? job.name).isSome := by decide

theorem limited_fails :
    limited.Fails "db" (.quantityParse .cpu "lots" "db" "wal" (.noNumber "lots")) := by
  refine .cpu ?_ ⟨rfl, by decide, by decide⟩
  rintro value cause ⟨written, -, rejected⟩
  obtain rfl : "1Gi" = value := Option.some.inj written
  have accepted : (Quantity.parse "1Gi").isOk = true := by decide
  rw [rejected] at accepted
  cases accepted

theorem earlier_sound : ∀ job ∈ [Trio.job "api", Trio.job "lib"], ¬conversion.Faulty job := by
  have built : ∀ job ∈ [Trio.job "api", Trio.job "lib"],
      (conversion.jobContainers [] (Disk.catalog []) 3 job).isOk = true := by decide
  intro job member faulty
  obtain ⟨cause, fails⟩ := Conversion.faulty_iff.mp faulty
  have placed : job ∈ jobs := List.mem_append_left [Trio.job "db", Trio.job "web"] member
  obtain ⟨config, found⟩ := Option.isSome_iff_exists.mp (configured job placed)
  have made := built job member
  rw [(Conversion.jobContainers_error found).mpr fails] at made
  cases made

end Faulted

/-- The limit of the third job is reported and not the image of the fourth; a fifth job without a
configuration is reported instead. -/
theorem containers_fault_limits :
    (∀ job ∈ Faulted.jobs, (Faulted.conversion.configs.get? job.name).isSome) ∧
      Faulted.conversion.containers Faulted.jobs [] (Disk.catalog []) =
        .error (.quantityParse .cpu "lots" "db" "wal" (.noNumber "lots")) ∧
      Faulted.conversion.configs.get? "none" = none ∧
      Faulted.conversion.containers (Faulted.jobs ++ [Trio.job "none"]) [] (Disk.catalog []) =
        .error (.missingConfig "none") := by
  have missing : Faulted.conversion.configs.get? "none" = none := by decide
  obtain ⟨-, reports⟩ := Conversion.containers_fault Faulted.conversion Faulted.jobs []
    (Disk.catalog [])
  obtain ⟨-, first⟩ := reports Faulted.configured
  obtain ⟨unconfigured, -⟩ := Conversion.containers_fault Faulted.conversion
    (Faulted.jobs ++ [Trio.job "none"]) [] (Disk.catalog [])
  refine ⟨Faulted.configured, (first _).mpr ?_, missing,
    unconfigured Faulted.jobs _ [] rfl Faulted.configured missing⟩
  refine ⟨[Trio.job "api", Trio.job "lib"], Trio.job "db", [Trio.job "web"], rfl,
    Faulted.earlier_sound, ?_⟩
  have split : Faulted.conversion.processes (Trio.job "db") =
      [Trio.process "pg"] ++ [Faulted.limited] := by decide
  have pulled : Faulted.conversion.images "web" "db" = .ok "registry/db" := rfl
  refine .limit pulled split ?_ Faulted.limited_fails
  intro earlier member kind value fault refused
  obtain rfl := List.mem_singleton.mp member
  obtain ⟨written, -⟩ := refused
  cases kind <;> cases written

end JobContainers

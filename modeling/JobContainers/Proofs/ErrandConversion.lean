import JobContainers.Proofs.ConversionShape
import JobContainers.Proofs.TwinRuns

set_option autoImplicit false

namespace JobContainers

def Container.unsupervised (x : Container) (args : List String) : Container :=
  { x with args := args, lifecycle := x.lifecycle.map fun life => { life with preStop := none } }

theorem Container.stopHandler?_unsupervised (x : Container) (args : List String) :
    (x.unsupervised args).stopHandler? = none := by
  rw [stopHandler?, unsupervised]
  cases x.lifecycle <;> rfl

namespace Conversion

structure Slot where
  job : Job
  run : RunSettings
  process : JobProcess
  index : Nat

def slotsOf (c : Conversion) (job : Job) : List Slot :=
  match c.configs.get? job.name with
  | none => []
  | some config => config.processes.zipIdx.map fun (p, index) => ⟨job, config.run, p, index⟩

def slots (c : Conversion) (jobs : List Job) : List Slot := jobs.flatMap c.slotsOf

/-- The containers of one process. What the errand's one runs, the other one's supervisor is given
behind its own flags. -/
structure Slot.Twins (slot : Slot) (errand regular : Container) : Prop where
  beside : errand = regular.unsupervised errand.args
  program : errand.args = slot.process.executable :: slot.process.args
  args : regular.args =
    CommandLine.supervisor :: slot.run.startFlags slot.job.name slot.index
      ++ ["--job-name", slot.job.name, "--process-name", slot.process.name, "--"] ++ errand.args

variable (c : Conversion) (general : List VolumeMount) (disks : DiskCatalog)

theorem processContainer_twins (stamps : Nat) (job : Job) (config : RuntimeConfig)
    (image : String) (index : Nat) (p : JobProcess) :
    Agree (Slot.Twins ⟨job, config.run, p, index⟩)
      ({ c with errand := true }.processContainer general disks stamps job config image index p)
      ({ c with errand := false }.processContainer general disks stamps job config image index
        p) := by
  have regular : ({ c with errand := false } : Conversion).errand = false := rfl
  rw [processContainer, processContainer, Container.ofProcess, Container.ofProcess, bind_assoc,
    bind_assoc]
  apply agree_bind_same
  intro limits _
  have command := commandLine_command (c := { c with errand := false }) job.name config.run index p
  have life : ({ c with errand := false } : Conversion).withHook job.name stamps index ⟨none⟩ =
      ⟨some (DrainHook.ofPosition job.name stamps index).handler⟩ :=
    withHook_regular regular job.name index ⟨none⟩
  refine .ok ⟨?_, rfl, args_regular regular job.name config.run index p⟩
  simp only [Container.unsupervised, command, life, Option.map_some]
  rfl

theorem jobContainers_twins (stamps : Nat) (job : Job) :
    Agree (fun errand regular => ∃ pairs : List (Container × Container),
        List.Forall₂ (fun slot pair => slot.Twins pair.1 pair.2) (c.slotsOf job) pairs ∧
        errand = pairs.map (·.1) ∧ regular = pairs.map (·.2))
      ({ c with errand := true }.jobContainers general disks stamps job)
      ({ c with errand := false }.jobContainers general disks stamps job) := by
  rw [jobContainers, jobContainers]
  apply agree_bind_same
  intro config found
  have slots : c.slotsOf job =
      config.processes.zipIdx.map fun (p, index) => ⟨job, config.run, p, index⟩ := by
    rw [slotsOf, config_ok (c := { c with errand := true }) found]
  rw [slots]
  split
  · apply agree_bind_same
    intro image _
    simp only [List.forall₂_map_left_iff]
    apply agree_mapM
    intro (p, index) _
    exact processContainer_twins c general disks stamps job config image index p
  · rename_i idle
    rw [processes_of_idle idle]
    exact .ok ⟨[], .nil, rfl, rfl⟩

theorem slots_pairs {jobs : List Job}
    {blocks : List (List Container × List Container)}
    (each : List.Forall₂ (fun job block => ∃ pairs : List (Container × Container),
        List.Forall₂ (fun slot pair => slot.Twins pair.1 pair.2) (c.slotsOf job) pairs ∧
        block.1 = pairs.map (·.1) ∧ block.2 = pairs.map (·.2)) jobs blocks) :
    ∃ pairs : List (Container × Container),
      List.Forall₂ (fun slot pair => slot.Twins pair.1 pair.2) (c.slots jobs) pairs ∧
      (blocks.map (·.1)).flatten = pairs.map (·.1) ∧
      (blocks.map (·.2)).flatten = pairs.map (·.2) := by
  induction each with
  | nil => exact ⟨[], .nil, rfl, rfl⟩
  | cons first _ ih =>
      obtain ⟨pairs, twins, left, right⟩ := first
      obtain ⟨others, rest, lefts, rights⟩ := ih
      refine ⟨pairs ++ others, ?_, ?_, ?_⟩
      · rw [slots, List.flatMap_cons]
        exact List.rel_append twins rest
      · rw [List.map_cons, List.flatten_cons, left, lefts, List.map_append]
      · rw [List.map_cons, List.flatten_cons, right, rights, List.map_append]

theorem stamps_errand (errand : Bool) (jobs : List Job) :
    ({ c with errand := errand } : Conversion).stamps jobs = c.stamps jobs := rfl

theorem sidecars_unsupervised : ∀ x ∈ c.sidecars, x.unsupervised x.args = x := by
  intro x member
  rw [sidecars] at member
  split at member
  · cases member
  · rw [List.mem_singleton.mp member]
    rfl

/-- Jobs converted as an errand and kept up: both fail alike, or the containers of both stand in
pairs that differ in arguments and hook only. The errand has no hooks, and the arguments of its
processes are those behind the flags that their supervisors get. -/
theorem errand_twins (jobs : List Job) :
    Agree (fun errand regular =>
        errand.length = regular.length ∧
        List.Forall₂ (fun x y => x = y.unsupervised x.args) errand regular ∧
        (∀ x ∈ errand, x.stopHandler? = none) ∧
        ∃ pairs : List (Container × Container),
          errand = pairs.map (·.1) ++ c.sidecars ∧ regular = pairs.map (·.2) ++ c.sidecars ∧
          List.Forall₂ (fun slot pair => slot.Twins pair.1 pair.2) (c.slots jobs) pairs)
      ({ c with errand := true }.containers jobs general disks)
      ({ c with errand := false }.containers jobs general disks) := by
  -- stamps are counted from the configurations, so both conversions wait for as many
  rw [containers, containers, stamps_errand, stamps_errand]
  apply agree_bind_same
  intro stamps _
  apply agree_bind (agree_mapM fun job _ => jobContainers_twins c general disks stamps job)
  intro errands regulars _ _ related
  obtain ⟨blocks, each, rfl, rfl⟩ := related
  obtain ⟨pairs, twins, left, right⟩ := slots_pairs c each
  have beside : List.Forall₂ (fun x y : Container => x = y.unsupervised x.args)
      (pairs.map (·.1) ++ c.sidecars) (pairs.map (·.2) ++ c.sidecars) := by
    apply List.rel_append
    · rw [List.forall₂_map_left_iff, List.forall₂_map_right_iff, List.forall₂_same]
      intro pair member
      obtain ⟨slot, -, twin⟩ := exists_item twins member
      exact twin.beside
    · rw [List.forall₂_same]
      intro x member
      exact (sidecars_unsupervised c x member).symm
  have hookless : ∀ x ∈ pairs.map (·.1) ++ c.sidecars, x.stopHandler? = none := by
    intro x member
    obtain ⟨y, -, same⟩ := exists_item (List.Forall₂.flip beside) member
    rw [same, y.stopHandler?_unsupervised]
  rw [left, right]
  exact .ok ⟨beside.length_eq, beside, hookless, pairs, rfl, rfl, twins⟩

end Conversion

/-- The errand of three processes runs their programs, and the supervised ones stop by hooks. -/
theorem errand_twins_trio :
    ∃ errand regular,
      { Trio.conversion with errand := true }.containers Trio.jobs [] (Disk.catalog []) =
        .ok errand ∧
      Trio.conversion.containers Trio.jobs [] (Disk.catalog []) = .ok regular ∧
      errand.map (·.args) = [["/bin/api"], ["/bin/worker"], ["/bin/pg"], ["util", "tail-logs"]] ∧
      regular.map (·.stopHandler?.isSome) = [true, true, true, false] ∧
      (∀ x ∈ errand, x.stopHandler? = none) ∧
      List.Forall₂ (fun x y => x = y.unsupervised x.args) errand regular := by
  have errand : ({ Trio.conversion with errand := true }.containers Trio.jobs []
      (Disk.catalog [])).toOption.map (List.map Container.args) =
        some [["/bin/api"], ["/bin/worker"], ["/bin/pg"], ["util", "tail-logs"]] := by
    decide
  have regular : (Trio.conversion.containers Trio.jobs [] (Disk.catalog [])).toOption.map
      (List.map fun x => x.stopHandler?.isSome) = some [true, true, true, false] := by
    decide
  obtain ⟨out, done, args⟩ := exists_ok errand
  obtain ⟨again, twice, hooks⟩ := exists_ok regular
  have twins := Conversion.errand_twins Trio.conversion [] (Disk.catalog []) Trio.jobs
  obtain ⟨-, beside, hookless, -⟩ := agree_ok twins done twice
  exact ⟨out, again, done, twice, args, hooks, hookless, beside⟩

end JobContainers

import JobContainers.Conversion
import JobContainers.Proofs.HookText
import JobContainers.Proofs.Passes

/-!
What a conversion is made of: a block of containers for each job, one container for each process,
and the hooks by which they leave together.
-/

set_option autoImplicit false

namespace JobContainers

namespace RunSettings

def conditionCommand (r : RunSettings) : List String :=
  ((r.postStart.condition.bind (·.exec)).map (·.command)).getD []

def conditionFlags (r : RunSettings) : List String :=
  match r.conditionCommand with
  | [] => []
  | name :: args => ["--post-start-condition-name", name]
    ++ args.flatMap fun arg => ["--post-start-condition-arg", arg]

/-- The flags of the process at an index; only the first one runs what follows the start. -/
def startFlags (r : RunSettings) (job : String) : Nat → List String
  | 0 => ["--post-start-name", Volume.job job ++ "/bin/post-start"] ++ r.conditionFlags
  | _ + 1 => []

theorem args_ofJob (r : RunSettings) (job : String) :
    (StartHook.ofJob job r.postStartCondition).args =
      ["--post-start-name", Volume.job job ++ "/bin/post-start"] ++ r.conditionFlags := by
  rw [conditionFlags, conditionCommand, postStartCondition]
  rcases r.postStart.condition with _ | ⟨_ | ⟨_ | ⟨name, args⟩⟩⟩ <;> rfl

end RunSettings

def DrainHook.ofPosition (job : String) (stamps : Nat) : Nat → DrainHook
  | 0 => leader job stamps
  | _ + 1 => follower stamps

def Container.stopHandler? (x : Container) : Option Handler := x.lifecycle.bind (·.preStop)

/-- The container of a process that a supervisor starts and a hook stops. -/
structure Container.Supervised (stamps : Nat) (job : String) (run : RunSettings)
    (entry : JobProcess × Nat) (x : Container) : Prop where
  name : x.name = DnsLabel.containerName job entry.1.name
  args : x.args = CommandLine.supervisor :: run.startFlags job entry.2
    ++ ["--job-name", job, "--process-name", entry.1.name, "--"] ++ CommandLine.program entry.1
  lifecycle : x.lifecycle = some ⟨some (DrainHook.ofPosition job stamps entry.2).handler⟩

namespace Conversion

def processes (c : Conversion) (job : Job) : List JobProcess :=
  ((c.configs.get? job.name).map (·.processes)).getD []

def runs (c : Conversion) (job : Job) : Bool := !(c.processes job).isEmpty

/-- The container that a configuration gives for the process at an index. -/
structure Builds (c : Conversion) (general : List VolumeMount) (disks : DiskCatalog) (stamps : Nat)
    (job : Job) (config : RuntimeConfig) (entry : JobProcess × Nat) (x : Container) : Prop where
  name : x.name = DnsLabel.containerName job.name entry.1.name
  image : c.image job.name = .ok x.image
  pullPolicy : x.imagePullPolicy = none
  command : x.command = CommandLine.init
  args : x.args = (c.commandLine job.name config.run entry.2 entry.1).args
  workingDir : x.workingDir = some (entry.1.workingDir job.name)
  env : x.env = EnvVar.withStandard (entry.1.envVars job.properties.envVars)
  requests : x.resources.requests = entry.1.requests
  limits : entry.1.quantities job.name = .ok x.resources.limits
  liveness : x.livenessProbe = (config.run.healthChecks.get? entry.1.name).bind (·.liveness)
  readiness : x.readinessProbe = (config.run.healthChecks.get? entry.1.name).bind (·.readiness)
  lifecycle : x.lifecycle = some (c.withHook job.name stamps entry.2 ⟨none⟩)
  mounts : x.volumeMounts = VolumeMount.ofContainer general
    (disks.processMounts job.name entry.1.name) (disks.jobMounts job.name)
  security : x.securityContext = some (entry.1.securityContext config.run.securityContext)

def BuildsAll (c : Conversion) (general : List VolumeMount) (disks : DiskCatalog) (stamps : Nat)
    (job : Job) (config : RuntimeConfig) (block : List Container) : Prop :=
  List.Forall₂ (c.Builds general disks stamps job config) config.processes.zipIdx block

variable {c : Conversion} {general : List VolumeMount} {disks : DiskCatalog} {stamps : Nat}
  {job : Job} {config : RuntimeConfig}

theorem Builds.unique {entry : JobProcess × Nat} {x y : Container}
    (first : c.Builds general disks stamps job config entry x)
    (second : c.Builds general disks stamps job config entry y) : x = y := by
  have images : x.image = y.image := Except.ok.inj (first.image.symm.trans second.image)
  have limits : x.resources.limits = y.resources.limits :=
    Except.ok.inj (first.limits.symm.trans second.limits)
  have resources : x.resources = y.resources := by
    calc
      x.resources = ⟨entry.1.requests, x.resources.limits⟩ := by rw [← first.requests]
      _ = y.resources := by rw [limits, ← second.requests]
  cases x
  cases y
  simp only [Container.mk.injEq]
  exact ⟨first.name.trans second.name.symm, images, first.pullPolicy.trans second.pullPolicy.symm,
    first.command.trans second.command.symm, first.args.trans second.args.symm,
    first.workingDir.trans second.workingDir.symm, first.env.trans second.env.symm, resources,
    first.liveness.trans second.liveness.symm, first.readiness.trans second.readiness.symm,
    first.lifecycle.trans second.lifecycle.symm, first.mounts.trans second.mounts.symm,
    first.security.trans second.security.symm⟩

theorem BuildsAll.unique {first second : List Container}
    (one : c.BuildsAll general disks stamps job config first)
    (other : c.BuildsAll general disks stamps job config second) : first = second :=
  Relator.RightUnique.forall₂ (fun _ _ _ first second => first.unique second) one other

theorem BuildsAll.length {block : List Container}
    (built : c.BuildsAll general disks stamps job config block) :
    block.length = config.processes.length := by
  rw [← built.length_eq, List.length_zipIdx]

theorem processes_of (found : c.configs.get? job.name = some config) :
    c.processes job = config.processes := by
  rw [processes, found]
  rfl

theorem commandLine_command (job : String) (run : RunSettings) (index : Nat) (p : JobProcess) :
    (c.commandLine job run index p).command = CommandLine.init := by
  rw [commandLine]
  split <;> rfl

theorem processContainer_ok {image : String} {index : Nat} {p : JobProcess} {x : Container}
    (pulled : c.image job.name = .ok image)
    (done : c.processContainer general disks stamps job config image index p = .ok x) :
    c.Builds general disks stamps job config (p, index) x := by
  obtain ⟨made, built, finished⟩ := bind_ok.mp done
  obtain ⟨limits, parsed, filled⟩ := bind_ok.mp built
  obtain rfl := Except.ok.inj filled
  obtain rfl := Except.ok.inj finished
  exact ⟨rfl, pulled, rfl, commandLine_command .., rfl, rfl, rfl, rfl, parsed, rfl, rfl, rfl, rfl,
    rfl⟩

theorem config_ok (found : c.config job.name = .ok config) :
    c.configs.get? job.name = some config := by
  rw [Conversion.config] at found
  split at found
  · rename_i present
    cases found
    exact present
  · cases found

theorem processes_of_idle (idle : ¬config.hasProcesses = true) : config.processes = [] := by
  simpa only [RuntimeConfig.hasProcesses, Bool.not_eq_true', Bool.not_eq_false,
    List.isEmpty_iff] using idle

theorem jobContainers_ok {block : List Container}
    (done : c.jobContainers general disks stamps job = .ok block) :
    ∃ config, c.configs.get? job.name = some config ∧
      c.BuildsAll general disks stamps job config block := by
  obtain ⟨config, found, done⟩ := bind_ok.mp done
  refine ⟨config, config_ok found, ?_⟩
  split at done
  · obtain ⟨image, pulled, built⟩ := bind_ok.mp done
    exact (mapM_ok.mp built).imp fun entry x made => processContainer_ok pulled made
  · rename_i idle
    cases done
    rw [BuildsAll, processes_of_idle idle]
    exact .nil

def countJob (c : Conversion) (n : Nat) (job : Job) : Except CompileError Nat := do
  let config ← c.config job.name
  return if config.hasProcesses then n + 1 else n

def unconfigured (c : Conversion) (job : Job) : Bool := (c.configs.get? job.name).isNone

theorem countJob_eq (n : Nat) (job : Job) :
    c.countJob n job = if c.unconfigured job then .error (.missingConfig job.name)
      else .ok (n + if c.runs job then 1 else 0) := by
  rw [countJob, Conversion.config, unconfigured]
  cases found : c.configs.get? job.name with
  | none => rfl
  | some config =>
      have counts : c.runs job = config.hasProcesses := by
        rw [runs, processes_of found, RuntimeConfig.hasProcesses]
      change Except.ok (if config.hasProcesses then n + 1 else n) = Except.ok _
      rw [counts]
      cases config.hasProcesses <;> rfl

theorem foldlM_countJob (jobs : List Job) (n : Nat) :
    jobs.foldlM c.countJob n =
      match jobs.find? c.unconfigured with
      | some job => .error (.missingConfig job.name)
      | none => .ok (n + jobs.countP c.runs) := by
  induction jobs generalizing n with
  | nil => rfl
  | cons job jobs ih =>
      rw [List.foldlM_cons, countJob_eq, List.find?_cons]
      cases c.unconfigured job with
      | true => rfl
      | false =>
          have counted := ih (n + if c.runs job then 1 else 0)
          rw [Nat.add_assoc, Nat.add_comm (if c.runs job then 1 else 0),
            ← List.countP_cons] at counted
          exact counted

theorem stamps_eq (jobs : List Job) :
    c.stamps jobs =
      match jobs.find? c.unconfigured with
      | some job => .error (.missingConfig job.name)
      | none => .ok (jobs.countP c.runs) := by
  have counted := foldlM_countJob (c := c) jobs 0
  rw [Nat.zero_add] at counted
  exact counted

theorem stamps_ok {jobs : List Job} {n : Nat} (done : c.stamps jobs = .ok n) :
    n = jobs.countP c.runs := by
  rw [stamps_eq] at done
  split at done
  · cases done
  · exact (Except.ok.inj done).symm

def hooks (c : Conversion) (stamps : Nat) (jobs : List Job) : List DrainHook :=
  jobs.flatMap fun job => (c.processes job).zipIdx.map fun entry =>
    DrainHook.ofPosition job.name stamps entry.2

theorem stamps_of_hooks {jobs : List Job} {n : Nat} {hook : DrainHook}
    (member : hook ∈ c.hooks n jobs) : hook.stamps = n := by
  obtain ⟨job, -, inside⟩ := List.mem_flatMap.mp member
  obtain ⟨entry, -, rfl⟩ := List.mem_map.mp inside
  cases entry.2 <;> rfl

theorem stampName_of_hooks {jobs : List Job} {n : Nat} {hook : DrainHook} {name : String}
    (member : hook ∈ c.hooks n jobs) (named : hook.stampName? = some name) :
    ∃ job ∈ jobs, job.name = name := by
  obtain ⟨job, placed, inside⟩ := List.mem_flatMap.mp member
  obtain ⟨⟨p, index⟩, -, rfl⟩ := List.mem_map.mp inside
  cases index with
  | zero => exact ⟨job, placed, Option.some.inj named⟩
  | succ index => cases named

theorem filter_isLeader_zipIdx (name : String) (n : Nat) (ps : List JobProcess) :
    (ps.zipIdx.map fun entry => DrainHook.ofPosition name n entry.2).filter DrainHook.isLeader =
      if ps.isEmpty then [] else [DrainHook.leader name n] := by
  cases ps with
  | nil => rfl
  | cons p ps =>
      have others : ∀ hook ∈ (ps.zipIdx 1).map fun entry => DrainHook.ofPosition name n entry.2,
          ¬hook.isLeader = true := by
        intro hook member
        obtain ⟨⟨q, index⟩, inside, rfl⟩ := List.mem_map.mp member
        obtain ⟨k, rfl⟩ := Nat.exists_eq_add_of_le' (List.le_snd_of_mem_zipIdx inside)
        exact Bool.false_ne_true
      rw [List.zipIdx_cons, List.map_cons, List.filter_cons_of_pos rfl,
        List.filter_eq_nil_iff.mpr others]
      rfl

theorem filter_isLeader_hooks (n : Nat) (jobs : List Job) :
    (c.hooks n jobs).filter DrainHook.isLeader =
      (jobs.filter c.runs).map fun job => DrainHook.leader job.name n := by
  induction jobs with
  | nil => rfl
  | cons job jobs ih =>
      rw [hooks, List.flatMap_cons, List.filter_append, filter_isLeader_zipIdx, ← hooks, ih,
        List.filter_cons, runs]
      cases (c.processes job).isEmpty <;> rfl

theorem containers_ok {jobs : List Job} {out : List Container}
    (done : c.containers jobs general disks = .ok out) :
    ∃ blocks, out = blocks.flatten ++ c.sidecars ∧
      List.Forall₂ (fun job block => ∃ config, c.configs.get? job.name = some config ∧
        c.BuildsAll general disks (jobs.countP c.runs) job config block) jobs blocks := by
  obtain ⟨stamps, counted, done⟩ := bind_ok.mp done
  obtain ⟨blocks, built, joined⟩ := bind_ok.mp done
  obtain rfl := Except.ok.inj joined
  obtain rfl := stamps_ok counted
  exact ⟨blocks, rfl, (mapM_ok.mp built).imp fun job block made => jobContainers_ok made⟩

section Regular

variable (regular : c.errand = false)

include regular

theorem withHook_regular (job : String) (index : Nat) (life : Lifecycle) :
    c.withHook job stamps index life =
      { life with preStop := some (DrainHook.ofPosition job stamps index).handler } := by
  rw [withHook, regular, if_neg Bool.false_ne_true]
  cases index <;> rfl

theorem args_regular (job : String) (run : RunSettings) (index : Nat) (p : JobProcess) :
    (c.commandLine job run index p).args = CommandLine.supervisor :: run.startFlags job index
      ++ ["--job-name", job, "--process-name", p.name, "--"] ++ CommandLine.program p := by
  rw [commandLine, regular, if_neg Bool.false_ne_true]
  cases index with
  | zero =>
      rw [if_pos rfl, CommandLine.supervised, RunSettings.args_ofJob]
      rfl
  | succ index => rfl

theorem Builds.supervised {entry : JobProcess × Nat} {x : Container}
    (made : c.Builds general disks stamps job config entry x) :
    x.Supervised stamps job.name config.run entry where
  name := made.name
  args := by rw [made.args, args_regular regular]
  lifecycle := by rw [made.lifecycle, withHook_regular regular]

theorem stopHandlers_block {block : List Container}
    (built : c.BuildsAll general disks stamps job config block) :
    block.filterMap Container.stopHandler? = config.processes.zipIdx.map fun entry =>
      (DrainHook.ofPosition job.name stamps entry.2).handler := by
  refine filterMap_eq_map built ?_
  intro entry x made
  rw [Container.stopHandler?, (made.supervised regular).lifecycle]
  rfl

theorem stopHandlers_ok {jobs : List Job} {out : List Container}
    (done : c.containers jobs general disks = .ok out) :
    out.filterMap Container.stopHandler? =
      (c.hooks (jobs.countP c.runs) jobs).map DrainHook.handler := by
  obtain ⟨blocks, rfl, built⟩ := containers_ok done
  have sidecar : c.sidecars.filterMap Container.stopHandler? = [] := by
    rw [sidecars]
    split <;> rfl
  have inBlocks : blocks.map (List.filterMap Container.stopHandler?) = jobs.map fun job =>
      ((c.processes job).zipIdx.map fun entry =>
        DrainHook.ofPosition job.name (jobs.countP c.runs) entry.2).map DrainHook.handler := by
    refine map_eq_map built ?_
    rintro job block ⟨config, found, made⟩
    rw [stopHandlers_block regular made, processes_of found, List.map_map]
    rfl
  rw [List.filterMap_append, sidecar, List.append_nil, List.filterMap_flatten, inBlocks, hooks,
    List.map_flatMap, List.flatMap_def]

/-- Only the first process of a job leads its drain. -/
theorem leaders_ok {jobs : List Job} {out : List Container}
    (done : c.containers jobs general disks = .ok out) :
    (out.filterMap Container.stopHandler?).filter DrainHook.leads =
      (jobs.filter c.runs).map fun job =>
        (DrainHook.leader job.name (jobs.countP c.runs)).handler := by
  have reads : DrainHook.leads ∘ DrainHook.handler = DrainHook.isLeader := by
    funext hook
    exact DrainHook.leads_handler hook
  calc
    _ = ((c.hooks (jobs.countP c.runs) jobs).filter DrainHook.isLeader).map
        DrainHook.handler := by
      rw [stopHandlers_ok regular done, List.filter_map, reads]
    _ = _ := by rw [filter_isLeader_hooks, List.map_map]; rfl

/-- A conversion has one container for each process, in the order of jobs and processes, and the
sidecar behind them. The first process of a job leads its drain, the others follow, and all of them
wait for as many stamps as there are jobs with processes. -/
theorem containers_shape {jobs : List Job} {out : List Container}
    (done : c.containers jobs general disks = .ok out) :
    ∃ blocks, out = blocks.flatten
        ++ (if c.settings.disableLogSidecar then [] else [.logSidecar c.settings]) ∧
      (Container.logSidecar c.settings).lifecycle = none ∧
      List.Forall₂ (fun job block => ∃ config, c.configs.get? job.name = some config ∧
        List.Forall₂ (Container.Supervised (jobs.countP c.runs) job.name config.run)
          config.processes.zipIdx block) jobs blocks ∧
      (out.filterMap Container.stopHandler?).filter DrainHook.leads =
        (jobs.filter c.runs).map (fun job =>
          (DrainHook.leader job.name (jobs.countP c.runs)).handler) ∧
      (out.filterMap Container.stopHandler?).countP DrainHook.leads = jobs.countP c.runs ∧
      ∀ x ∈ blocks.flatten, ∃ hook : DrainHook, x.lifecycle = some ⟨some hook.handler⟩ ∧
        hook.stamps = jobs.countP c.runs := by
  obtain ⟨blocks, joined, built⟩ := containers_ok done
  have shaped : List.Forall₂ (fun job block => ∃ config, c.configs.get? job.name = some config ∧
      List.Forall₂ (Container.Supervised (jobs.countP c.runs) job.name config.run)
        config.processes.zipIdx block) jobs blocks := by
    refine built.imp ?_
    rintro job block ⟨config, found, made⟩
    exact ⟨config, found, made.imp fun entry x container => container.supervised regular⟩
  have leaders := leaders_ok regular done
  refine ⟨blocks, joined, rfl, shaped, leaders, ?_, ?_⟩
  · rw [List.countP_eq_length_filter, leaders, List.length_map, List.countP_eq_length_filter]
  · intro x member
    obtain ⟨block, inside, placed⟩ := List.mem_flatten.mp member
    obtain ⟨job, -, config, -, made⟩ := exists_item shaped inside
    obtain ⟨entry, -, supervised⟩ := exists_item made placed
    refine ⟨_, supervised.lifecycle, ?_⟩
    cases entry.2 <;> rfl

end Regular

end Conversion

namespace Trio

def process (name : String) : JobProcess :=
  ⟨name, "/bin/" ++ name, [], ∅, none, .unset, ∅, [], false⟩

def job (name : String) : Job := ⟨name, "r", .unset, ∅, ∅, .unset⟩

def jobs : List Job := [job "api", job "lib", job "db"]

def conversion : Conversion where
  group := "web"
  errand := false
  configs := .ofList
    [("api", ⟨[process "api", process "worker"], ⟨∅, none, ⟨some ⟨some ⟨["pg_isready"]⟩⟩⟩⟩⟩),
      ("lib", .empty), ("db", ⟨[process "pg"], .unset⟩)]
  images := fun _ job => .ok ("registry/" ++ job)
  settings := .default

theorem running : jobs.countP conversion.runs = 2 := by decide

theorem converted : ∃ out, conversion.containers jobs [] (Disk.catalog []) = .ok out ∧
    out.length = 4 := by
  have ran : (conversion.containers jobs [] (Disk.catalog [])).toOption.map List.length =
      some 4 := by decide
  exact exists_ok ran

end Trio

theorem containers_shape_trio :
    ∃ out block, Trio.conversion.errand = false ∧
      Trio.conversion.containers Trio.jobs [] (Disk.catalog []) = .ok out ∧
      Trio.jobs.countP Trio.conversion.runs = 2 ∧
      out = block ++ [.logSidecar .default] ∧ block.length = 3 ∧
      (out.filterMap Container.stopHandler?).countP DrainHook.leads = 2 ∧
      ∀ x ∈ block, ∃ hook : DrainHook, x.lifecycle = some ⟨some hook.handler⟩ ∧
        hook.stamps = 2 := by
  obtain ⟨out, done, size⟩ := Trio.converted
  obtain ⟨blocks, joined, -, -, -, leaders, waits⟩ := Conversion.containers_shape rfl done
  rw [Trio.running] at leaders waits
  have beside : out = blocks.flatten ++ [.logSidecar .default] := joined
  have length : blocks.flatten.length = 3 := by
    rw [beside, List.length_append, List.length_singleton] at size
    omega
  exact ⟨out, blocks.flatten, rfl, done, Trio.running, beside, length, leaders, waits⟩

end JobContainers

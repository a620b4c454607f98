import JobContainers.Disk
import JobContainers.Drain
import JobContainers.Manifest
import JobContainers.ProcessContainer
import JobContainers.Sidecar

/-!
Conversion of the jobs of a group into containers: one for each process, in the order of jobs and
processes, and the log sidecar behind them. Jobs without processes have no container, need no image
and are not waited for when the pod stops.
-/

set_option autoImplicit false

namespace JobContainers

inductive ImageError where
  | lookup (group job detail : String)
  | other (detail : String)
  deriving DecidableEq

abbrev ImageProvider := String → String → Except ImageError String

structure Conversion where
  group : String
  /-- Processes of errands run without a supervisor and stop without a hook. -/
  errand : Bool
  configs : Dict RuntimeConfig
  images : ImageProvider
  settings : Settings

namespace Conversion

variable (c : Conversion)

def config (job : String) : Except CompileError RuntimeConfig :=
  match c.configs.get? job with
  | some config => .ok config
  | none => .error (.missingConfig job)

/-- The number of jobs with processes; each of them leaves one stamp. -/
def stamps (jobs : List Job) : Except CompileError Nat :=
  jobs.foldlM (fun n job => do
    let config ← c.config job.name
    return if config.hasProcesses then n + 1 else n) 0

def image (job : String) : Except CompileError String :=
  match c.images c.group job with
  | .ok image => .ok image
  | .error (.lookup group job detail) => .error (.imageLookup group job detail)
  | .error (.other detail) => .error (.imageLookup c.group job detail)

def commandLine (job : String) (run : RunSettings) (index : Nat) (p : JobProcess) :
    CommandLine :=
  if c.errand then .errand p
  else .supervised job p (if index = 0 then .ofJob job run.postStartCondition else .none)

/-- Attaches the hook of a process; the first one of a job drains the job. -/
def withHook (job : String) (stamps index : Nat) (life : Lifecycle) : Lifecycle :=
  if c.errand then life
  else if index = 0 then { life with preStop := some (DrainHook.leader job stamps).handler }
  else { life with preStop := some (DrainHook.follower stamps).handler }

def processContainer (general : List VolumeMount) (disks : DiskCatalog) (stamps : Nat) (job : Job)
    (config : RuntimeConfig) (image : String) (index : Nat) (p : JobProcess) :
    Except CompileError Container := do
  let mounts := VolumeMount.ofContainer general (disks.processMounts job.name p.name)
    (disks.jobMounts job.name)
  let container ← Container.ofProcess
    { job := job.name, image := image, healthChecks := config.run.healthChecks
      envs := job.properties.envVars, securityContext := config.run.securityContext }
    p (c.commandLine job.name config.run index p) mounts
  return { container with
    lifecycle := container.lifecycle.map (c.withHook job.name stamps index) }

def jobContainers (general : List VolumeMount) (disks : DiskCatalog) (stamps : Nat) (job : Job) :
    Except CompileError (List Container) := do
  let config ← c.config job.name
  if config.hasProcesses then
    let image ← c.image job.name
    config.processes.zipIdx.mapM fun (p, index) =>
      c.processContainer general disks stamps job config image index p
  else return []

def sidecars : List Container :=
  if c.settings.disableLogSidecar then [] else [.logSidecar c.settings]

/-- The containers of jobs. The stamps are counted first, so a job without a configuration is
reported before any other fault. -/
def containers (jobs : List Job) (general : List VolumeMount) (disks : DiskCatalog) :
    Except CompileError (List Container) := do
  let stamps ← c.stamps jobs
  let groups ← jobs.mapM (c.jobContainers general disks stamps)
  return groups.flatten ++ c.sidecars

end Conversion

end JobContainers

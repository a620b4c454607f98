import JobContainers.Conversion
import JobContainers.Gathering

set_option autoImplicit false

namespace JobContainers

structure CompiledGroup where
  jobs : List Job
  containers : List Container
  deriving DecidableEq

structure Compilation where
  manifest : Manifest
  kubeNamespace : String
  files : FileTree
  images : ImageProvider
  settings : Settings

namespace Compilation

variable (c : Compilation)

def cluster : Cluster := ⟨c.kubeNamespace, c.settings.clusterDomain⟩

/-- The configurations of jobs by name; one that was not rendered counts as empty. -/
def configs (jobs : List Job) : Dict RuntimeConfig :=
  .ofList (jobs.map fun job => (job.name, job.resolved.runtime.getD .empty))

def conversion (group : String) (jobs : List Job) : Conversion where
  group := group
  errand := (c.manifest.group? group).any (·.isErrand)
  configs := configs jobs
  images := c.images
  settings := c.settings

def compile (group : String) (mounts : List VolumeMount) (disks : DiskCatalog) :
    Except CompileError CompiledGroup × List Warning :=
  let (gathered, warnings) := c.manifest.gather c.cluster c.files group
  let compiled := do
    let jobs ← gathered
    return ⟨jobs, ← (c.conversion group jobs).containers jobs mounts disks⟩
  (compiled, warnings)

end Compilation

end JobContainers

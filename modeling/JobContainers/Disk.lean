import JobContainers.Kube.Container

set_option autoImplicit false

namespace JobContainers

structure Disk where
  /-- Unset for a disk that is not mounted directly. -/
  mount : Option VolumeMount
  labels : Dict String
  deriving DecidableEq

structure JobMounts where
  ephemeral : Option VolumeMount
  persistent : Option VolumeMount
  deriving DecidableEq

structure DiskCatalog where
  jobMounts : String → JobMounts
  processMounts : String → String → List VolumeMount

namespace Disk

def jobLabel : String := "job_name"
def processLabel : String := "process_name"
def ephemeralLabel : String := "ephemeral"
def persistentLabel : String := "persistent"

def hasLabel (d : Disk) (key value : String) : Bool := d.labels.get? key = some value

def labelled (disks : List Disk) (key value : String) : List Disk :=
  disks.filter (·.hasLabel key value)

def mounts (disks : List Disk) : List VolumeMount := disks.filterMap (·.mount)

/-- The mount of the first disk that is marked; a marked disk without a mount hides later ones. -/
def firstMarked (disks : List Disk) (label : String) : Option VolumeMount :=
  (disks.find? (·.hasLabel label "true")).bind (·.mount)

def catalog (disks : List Disk) : DiskCatalog where
  jobMounts job :=
    let own := labelled disks jobLabel job
    ⟨firstMarked own ephemeralLabel, firstMarked own persistentLabel⟩
  processMounts job process :=
    mounts (labelled (labelled disks jobLabel job) processLabel process)

end Disk

namespace VolumeMount

def firstPerPath (taken : List String) : List VolumeMount → List VolumeMount
  | [] => []
  | m :: ms =>
    if m.mountPath ∈ taken then firstPerPath taken ms
    else m :: firstPerPath (m.mountPath :: taken) ms

def dedupe (ms : List VolumeMount) : List VolumeMount := firstPerPath [] ms

/-- The mounts of a container, the general ones before those of its process and its job. -/
def ofContainer (general process : List VolumeMount) (job : JobMounts) : List VolumeMount :=
  dedupe (general ++ process ++ job.ephemeral.toList ++ job.persistent.toList)

end VolumeMount

end JobContainers

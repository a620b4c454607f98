import JobContainers.Property
import JobContainers.RuntimeConfig

set_option autoImplicit false

namespace JobContainers

open Fields

structure Release where
  name : String
  version : Option String
  deriving DecidableEq

structure JobInstance where
  address : String
  /-- Empty if the group has no zones. -/
  az : String
  id : String
  /-- Counts through replicas and zones. -/
  index : Nat
  replica : Nat
  name : String
  deriving DecidableEq

structure JobLink where
  instances : List JobInstance
  properties : Dict Tree
  deriving DecidableEq

structure ResolvedJob where
  release : Option String
  instances : List JobInstance
  /-- By the name that the job's specification gives the link. -/
  consumes : Dict JobLink
  runtime : Option RuntimeConfig
  deriving DecidableEq

/-- Overrides of properties; `envs` is added to the environment of every container of the job. -/
structure JobProperties where
  envs : Option (List EnvVar)
  overrides : Dict Tree
  deriving DecidableEq

structure Job where
  name : String
  release : String
  properties : JobProperties
  provides : Dict Tree
  consumes : Dict Tree
  resolved : ResolvedJob
  deriving DecidableEq

structure InstanceGroup where
  name : String
  instances : Nat
  azs : List String
  lifecycle : Option String
  jobs : List Job
  deriving DecidableEq

structure Manifest where
  name : String
  releases : List Release
  instanceGroups : List InstanceGroup
  deriving DecidableEq

def Release.codec : Codec Release :=
  .record (Release.mk <$> required "name" .string (·.name)
    <*> optional "version" .string (·.version))

def JobInstance.codec : Codec JobInstance :=
  .record (JobInstance.mk <$> required "address" .string (·.address)
    <*> required "az" .string (·.az)
    <*> required "id" .string (·.id)
    <*> required "index" (.natural 64) (·.index)
    <*> required "instance" (.natural 64) (·.replica)
    <*> required "name" .string (·.name))

def JobLink.codec : Codec JobLink :=
  .record (JobLink.mk <$> required "instances" (.list JobInstance.codec) (·.instances)
    <*> required "properties" (.dict .tree) (·.properties))

namespace ResolvedJob

def unset : ResolvedJob := ⟨none, [], ∅, none⟩

def isEmpty (r : ResolvedJob) : Bool :=
  r.release.isNone && r.instances.isEmpty && r.consumes.isEmpty && r.runtime.isNone

def codec : Codec ResolvedJob :=
  .record (ResolvedJob.mk <$> optional "release" .string (·.release)
    <*> defaulted "instances" (.list JobInstance.codec) [] (·.instances)
    <*> defaulted "consumes" (.dict JobLink.codec) ∅ (·.consumes)
    <*> optional "bpm" RuntimeConfig.codec (·.runtime))

end ResolvedJob

namespace JobProperties

def settingsKey : String := "quarks"

def unset : JobProperties := ⟨none, ∅⟩

def settingsCodec : Codec (List EnvVar) :=
  .record (defaulted "envs" (.list EnvVar.codec) [] id)

/-- Overrides and settings share one mapping; a list does not stand for it. -/
def codec : Codec JobProperties where
  read
    | .map entries => do
      let envs ← match entries.lookup settingsKey with
        | some t => settingsCodec.option.read t
        | none => pure none
      return ⟨envs, .ofList (entries.filter (·.1 != settingsKey))⟩
    | _ => .error .invalidType
  write p :=
    .ofEntries ((p.envs.map fun e => (settingsKey, settingsCodec.write e)).toList
      ++ p.overrides.entries)

def envVars (p : JobProperties) : List EnvVar := p.envs.getD []

end JobProperties

namespace Job

def codec : Codec Job :=
  .record (Job.mk <$> required "name" .string (·.name) <*> required "release" .string (·.release)
    <*> defaulted "properties" JobProperties.codec .unset (·.properties)
    <*> defaulted "provides" (.dict .tree) ∅ (·.provides)
    <*> defaulted "consumes" (.dict .tree) ∅ (·.consumes)
    <*> field "resolved" ResolvedJob.codec (some .unset) ResolvedJob.isEmpty (·.resolved))

def property? (job : Job) (path : String) : Option Tree :=
  Property.lookupIn job.properties.overrides path

end Job

namespace InstanceGroup

def codec : Codec InstanceGroup :=
  .record (InstanceGroup.mk <$> required "name" .string (·.name)
    <*> defaulted "instances" (.natural 64) 0 (·.instances)
    <*> defaulted "azs" (.list .string) [] (·.azs)
    <*> optional "lifecycle" .string (·.lifecycle)
    <*> defaulted "jobs" (.list Job.codec) [] (·.jobs))

def isErrand (g : InstanceGroup) : Bool := g.lifecycle = some "errand"

end InstanceGroup

namespace Manifest

def codec : Codec Manifest :=
  .record (Manifest.mk <$> defaulted "name" .string "" (·.name)
    <*> defaulted "releases" (.list Release.codec) [] (·.releases)
    <*> defaulted "instance_groups" (.list InstanceGroup.codec) [] (·.instanceGroups))

def ofDocument (text : String) : Except DocumentError Manifest := codec.readDocument text

def hasRelease (m : Manifest) (release : String) : Bool := m.releases.any (·.name = release)

def group? (m : Manifest) (name : String) : Option InstanceGroup :=
  m.instanceGroups.find? (·.name = name)

end Manifest

end JobContainers

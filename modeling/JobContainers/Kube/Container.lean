import JobContainers.Kube.EnvVar
import JobContainers.Kube.Probe
import JobContainers.Kube.SecurityContext

set_option autoImplicit false

namespace JobContainers

structure VolumeMount where
  name : String
  mountPath : String
  subPath : Option String
  readOnly : Option Bool
  deriving DecidableEq

/-- Requests are kept as written, limits are quantities. -/
structure Resources where
  requests : Dict String
  limits : Dict Quantity
  deriving DecidableEq

structure Container where
  name : String
  image : String
  imagePullPolicy : Option String
  command : List String
  args : List String
  workingDir : Option String
  env : List EnvVar
  resources : Resources
  livenessProbe : Option Probe
  readinessProbe : Option Probe
  lifecycle : Option Lifecycle
  volumeMounts : List VolumeMount
  securityContext : Option SecurityContext
  deriving DecidableEq

open Fields

namespace VolumeMount

def whole (name mountPath : String) : VolumeMount := ⟨name, mountPath, none, none⟩

def codec : Codec VolumeMount :=
  .record (VolumeMount.mk <$> required "name" .string (·.name)
    <*> required "mountPath" .string (·.mountPath) <*> optional "subPath" .string (·.subPath)
    <*> optional "readOnly" .bool (·.readOnly))

end VolumeMount

namespace Resources

def unset : Resources := ⟨∅, ∅⟩

def codec : Codec Resources :=
  .record (Resources.mk <$> table "requests" .string (·.requests)
    <*> table "limits" .quantity (·.limits))

end Resources

def Container.codec : Codec Container :=
  .record (Container.mk <$> required "name" .string (·.name) <*> required "image" .string (·.image)
    <*> optional "imagePullPolicy" .string (·.imagePullPolicy)
    <*> items "command" .string (·.command)
    <*> items "args" .string (·.args)
    <*> optional "workingDir" .string (·.workingDir)
    <*> items "env" EnvVar.codec (·.env)
    <*> defaulted "resources" Resources.codec .unset (·.resources)
    <*> optional "livenessProbe" Probe.codec (·.livenessProbe)
    <*> optional "readinessProbe" Probe.codec (·.readinessProbe)
    <*> optional "lifecycle" Lifecycle.codec (·.lifecycle)
    <*> items "volumeMounts" VolumeMount.codec (·.volumeMounts)
    <*> optional "securityContext" SecurityContext.codec (·.securityContext))

end JobContainers

import JobContainers.Codec
import JobContainers.Placement

set_option autoImplicit false

namespace JobContainers

open Fields

structure Settings where
  operatorImage : String
  imagePullPolicy : String
  logrotateInterval : Nat
  disableLogSidecar : Bool
  clusterDomain : String
  deriving DecidableEq

namespace Settings

def default : Settings where
  operatorImage := "cfcontainerization/quarks-operator:latest"
  imagePullPolicy := "IfNotPresent"
  logrotateInterval := 24 * 60
  disableLogSidecar := false
  clusterDomain := Cluster.defaultDomain

instance : Inhabited Settings := ⟨default⟩

def codec : Codec Settings :=
  .record (Settings.mk <$> defaulted "operatorImage" .string default.operatorImage (·.operatorImage)
    <*> defaulted "imagePullPolicy" .string default.imagePullPolicy (·.imagePullPolicy)
    <*> defaulted "logrotateInterval" (.natural 32) default.logrotateInterval (·.logrotateInterval)
    <*> defaulted "disableLogSidecar" .bool default.disableLogSidecar (·.disableLogSidecar)
    <*> defaulted "clusterDomain" .string default.clusterDomain (·.clusterDomain))

def minutes? (text : String) : Option Nat :=
  let digits := match text.toList with
    | '+' :: rest => rest
    | cs => cs
  if digits.isEmpty || !digits.all Char.isDigit then none
  else
    let n := Decimal.ofDigits digits
    if n < Width.limit 32 then some n else none

/-- Variables override the defaults; an interval that is no number is passed over. -/
def ofEnvironment (lookup : String → Option String) : Settings where
  operatorImage := (lookup "OPERATOR_DOCKER_IMAGE").getD default.operatorImage
  imagePullPolicy := (lookup "OPERATOR_IMAGE_PULL_POLICY").getD default.imagePullPolicy
  logrotateInterval :=
    ((lookup "LOGROTATE_INTERVAL").bind minutes?).getD default.logrotateInterval
  disableLogSidecar := default.disableLogSidecar
  clusterDomain := (lookup "CLUSTER_DOMAIN").getD default.clusterDomain

end Settings

end JobContainers

import JobContainers.Kube.Container
import JobContainers.Settings
import JobContainers.Volume

set_option autoImplicit false

namespace JobContainers

def Container.logSidecar (s : Settings) : Container where
  name := "logs"
  image := s.operatorImage
  imagePullPolicy := s.imagePullPolicy
  command := []
  args := ["util", "tail-logs"]
  workingDir := none
  env :=
    [.literal "LOGS_DIR" (Volume.sys ++ "/log"),
      .literal "LOGROTATE_INTERVAL" (.ofList (Decimal.digitText s.logrotateInterval))]
  resources := .unset
  livenessProbe := none
  readinessProbe := none
  lifecycle := none
  volumeMounts := [.whole Volume.sysName Volume.sys]
  securityContext := some { SecurityContext.unset with runAsUser := SecurityContext.rootUser }

end JobContainers

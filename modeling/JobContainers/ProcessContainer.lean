import JobContainers.Command
import JobContainers.CompileError
import JobContainers.DnsLabel
import JobContainers.Kube.Container

set_option autoImplicit false

namespace JobContainers

structure ProcessSetting where
  job : String
  image : String
  healthChecks : Dict HealthCheck
  envs : List EnvVar
  securityContext : Option SecurityContext

namespace EnvVar

def standard : List EnvVar :=
  [.ofField "POD_ORDINAL" "metadata.labels['quarks.cloudfoundry.org/pod-ordinal']",
    .literal "REPLICAS" "1", .literal "AZ_INDEX" "0"]

def addMissing (env : List EnvVar) (v : EnvVar) : List EnvVar :=
  if env.any (·.name = v.name) then env else env ++ [v]

def withStandard (env : List EnvVar) : List EnvVar := standard.foldl addMissing env

end EnvVar

def ProcessLimits.get? (l : ProcessLimits) (kind : LimitKind) : Option String :=
  match kind with
  | .memory => l.memory.filter (· != "")
  | .cpu => l.cpu.filter (· != "")

namespace JobProcess

def limit? (p : JobProcess) (job : String) (kind : LimitKind) :
    Except CompileError (Option Quantity) :=
  match p.limits.get? kind with
  | none => .ok none
  | some value =>
    match Quantity.parse value with
    | .ok q => .ok (some q)
    | .error cause => .error (.quantityParse kind value job p.name cause)

/-- The limits as quantities; of two faulty ones that of the memory is reported. -/
def quantities (p : JobProcess) (job : String) : Except CompileError (Dict Quantity) := do
  let memory ← p.limit? job .memory
  let cpu ← p.limit? job .cpu
  return .ofList ((memory.map fun q => (LimitKind.memory.key, q)).toList
    ++ (cpu.map fun q => (LimitKind.cpu.key, q)).toList)

def workingDir (p : JobProcess) (job : String) : String :=
  (p.workdir.filter (· != "")).getD (Volume.job job)

def securityContext (p : JobProcess) (ofJob : Option SecurityContext) : SecurityContext :=
  let c := ofJob.getD .unset
  { c with
    capabilities := c.capabilities.or
      (if p.capabilities.isEmpty then none else some ⟨p.capabilities, []⟩)
    privileged := c.privileged.or (some p.privileged)
    runAsUser := c.runAsUser.or (some SecurityContext.rootUser) }

end JobProcess

def Container.ofProcess (s : ProcessSetting) (p : JobProcess) (line : CommandLine)
    (mounts : List VolumeMount) : Except CompileError Container := do
  let limits ← p.quantities s.job
  let health := s.healthChecks.get? p.name
  return {
    name := DnsLabel.containerName s.job p.name
    image := s.image
    imagePullPolicy := none
    command := line.command
    args := line.args
    workingDir := some (p.workingDir s.job)
    env := EnvVar.withStandard (p.envVars s.envs)
    resources := ⟨p.requests, limits⟩
    livenessProbe := health.bind (·.liveness)
    readinessProbe := health.bind (·.readiness)
    lifecycle := some ⟨none⟩
    volumeMounts := mounts
    securityContext := some (p.securityContext s.securityContext) }

end JobContainers

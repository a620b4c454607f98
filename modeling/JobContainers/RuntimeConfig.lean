import JobContainers.Kube.EnvVar
import JobContainers.Kube.Probe
import JobContainers.Kube.SecurityContext
import JobContainers.TypedDocument

set_option autoImplicit false

namespace JobContainers

open Fields

structure ProcessLimits where
  memory : Option String
  cpu : Option String
  deriving DecidableEq

structure JobProcess where
  name : String
  executable : String
  args : List String
  env : Dict String
  workdir : Option String
  limits : ProcessLimits
  requests : Dict String
  capabilities : List String
  privileged : Bool
  deriving DecidableEq

structure HealthCheck where
  readiness : Option Probe
  liveness : Option Probe
  deriving DecidableEq

structure PostStartCondition where
  exec : Option ExecAction
  deriving DecidableEq

structure PostStart where
  condition : Option PostStartCondition
  deriving DecidableEq

/-- Settings of all processes of a job; health checks are kept by process name. -/
structure RunSettings where
  healthChecks : Dict HealthCheck
  securityContext : Option SecurityContext
  postStart : PostStart
  deriving DecidableEq

structure RuntimeConfig where
  processes : List JobProcess
  run : RunSettings
  deriving DecidableEq

namespace ProcessLimits

def unset : ProcessLimits := ⟨none, none⟩

def codec : Codec ProcessLimits :=
  .record (ProcessLimits.mk <$> defaulted "memory" .scalar none (·.memory)
    <*> defaulted "cpu" .scalar none (·.cpu))

end ProcessLimits

namespace JobProcess

def isolationCodec : Codec Bool := .record (defaulted "privileged" .bool false id)

def codec : Codec JobProcess :=
  .record (JobProcess.mk <$> required "name" .string (·.name)
    <*> required "executable" .string (·.executable)
    <*> defaulted "args" (.list .string) [] (·.args)
    <*> defaulted "env" .scalars ∅ (·.env)
    <*> defaulted "workdir" (.option .string) none (·.workdir)
    <*> defaulted "limits" ProcessLimits.codec .unset (·.limits)
    <*> defaulted "requests" .scalars ∅ (·.requests)
    <*> defaulted "capabilities" (.list .string) [] (·.capabilities)
    <*> defaulted "unsafe" isolationCodec false (·.privileged))

/-- The process's own variables by name, then further ones. -/
def envVars (p : JobProcess) (extra : List EnvVar) : List EnvVar :=
  p.env.entries.map (fun e => .literal e.1 e.2) ++ extra

end JobProcess

def HealthCheck.codec : Codec HealthCheck :=
  .record (HealthCheck.mk <$> aliased "readinessProbe" "readiness" Probe.codec (·.readiness)
    <*> aliased "livenessProbe" "liveness" Probe.codec (·.liveness))

def PostStartCondition.codec : Codec PostStartCondition :=
  .record (PostStartCondition.mk <$> defaulted "exec" ExecAction.codec.option none (·.exec))

def PostStart.codec : Codec PostStart :=
  .record
    (PostStart.mk <$> defaulted "condition" PostStartCondition.codec.option none (·.condition))

namespace RunSettings

def unset : RunSettings := ⟨∅, none, ⟨none⟩⟩

def codec : Codec RunSettings :=
  .record (RunSettings.mk <$> defaulted "healthcheck" (.dict HealthCheck.codec) ∅ (·.healthChecks)
    <*> defaulted "security_context" SecurityContext.codec.option none (·.securityContext)
    <*> defaulted "post_start" PostStart.codec ⟨none⟩ (·.postStart))

def postStartCondition (r : RunSettings) : Option (List String) := do
  let exec ← (← r.postStart.condition).exec
  if exec.command.isEmpty then none else some exec.command

end RunSettings

namespace RuntimeConfig

def empty : RuntimeConfig := ⟨[], .unset⟩

instance : Inhabited RuntimeConfig := ⟨empty⟩

def codec : Codec RuntimeConfig :=
  .record (RuntimeConfig.mk <$> defaulted "processes" (.list JobProcess.codec) [] (·.processes)
    <*> defaulted "run" RunSettings.codec .unset (·.run))

def ofDocument (text : String) : Except DocumentError RuntimeConfig := codec.readDocument text

def hasProcesses (c : RuntimeConfig) : Bool := !c.processes.isEmpty

end RuntimeConfig

end JobContainers

import JobContainers.RuntimeConfig
import JobContainers.Volume

set_option autoImplicit false

namespace JobContainers

structure Invocation where
  name : String
  args : List String
  deriving DecidableEq

structure StartHook where
  command : Option Invocation
  condition : Option Invocation
  deriving DecidableEq

namespace StartHook

def none : StartHook := ⟨.none, .none⟩

def ofJob (job : String) (condition : Option (List String)) : StartHook where
  command := some ⟨Volume.job job ++ "/bin/post-start", []⟩
  condition :=
    match condition with
    | some (name :: args) => some ⟨name, args⟩
    | _ => .none

def conditionArgs (c : Invocation) : List String :=
  ["--post-start-condition-name", c.name]
    ++ c.args.flatMap fun arg => ["--post-start-condition-arg", arg]

/-- The supervisor's flags for a hook. A condition without a command has none. -/
def args (h : StartHook) : List String :=
  match h.command with
  | .none => []
  | some c => "--post-start-name" :: c.name :: (h.condition.map conditionArgs).getD []

end StartHook

structure CommandLine where
  command : List String
  args : List String
  deriving DecidableEq

namespace CommandLine

def init : List String := ["/usr/bin/dumb-init", "--"]

def supervisor : String := Volume.renderingData ++ "/container-run/container-run"

def program (p : JobProcess) : List String := p.executable :: p.args

def supervised (job : String) (p : JobProcess) (hook : StartHook) : CommandLine where
  command := init
  args := supervisor :: hook.args
    ++ ["--job-name", job, "--process-name", p.name, "--"] ++ program p

def errand (p : JobProcess) : CommandLine := ⟨init, program p⟩

end CommandLine

end JobContainers

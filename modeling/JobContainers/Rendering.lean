import JobContainers.SpecCache
import JobContainers.Template.Context

/-!
Runtime configurations of jobs. The template of a job is rendered for each of its instances; the
first configuration is the job's, and a warning says if another one differs from it.
-/

set_option autoImplicit false

namespace JobContainers

structure Warning where
  job : String
  deployment : String
  deriving DecidableEq

def Warning.message (_ : Warning) : String :=
  "found different runtime configs across instances — unsupported"

def RuntimeConfig.fileName : String := "bpm.yml"

/-- What expands templates and reads the texts that they give. -/
structure Renderer where
  expand : String → Template.Context → Except Template.Error String
  read : String → Except DocumentError RuntimeConfig

namespace Renderer

def standard : Renderer := ⟨Template.render, RuntimeConfig.ofDocument⟩

def configuration (r : Renderer) (files : FileTree) (path : String) (c : Template.Context) :
    Except RenderFault RuntimeConfig :=
  match files.readText path with
  | .error cause => .error (.unreadable path cause)
  | .ok source =>
    match r.expand source c with
    | .error cause => .error (.template cause)
    | .ok text => (r.read text).mapError .document

end Renderer

def RuntimeConfig.render (files : FileTree) (path : String) (c : Template.Context) :
    Except RenderFault RuntimeConfig :=
  Renderer.standard.configuration files path c

namespace Job

def mergedProperties (job : Job) (spec : JobSpec) : Dict Tree :=
  Property.merge spec.defaultProperties job.properties.overrides

def context (job : Job) (spec : JobSpec) (deployment : String) (i : JobInstance) :
    Template.Context :=
  ⟨job.mergedProperties spec, .ofInstance i deployment, job.resolved.consumes⟩

def withRuntime (job : Job) (config : Option RuntimeConfig) : Job :=
  { job with resolved := { job.resolved with runtime := config } }

/-- Renders the configuration of a job. A job without instances stays as it is. -/
def render (job : Job) (specs : SpecCache) (files : FileTree) (deployment : String) :
    Except CompileError (Job × List Warning) := do
  let spec ← specs.collected job.release job.name
  let some template := spec.templateFor? RuntimeConfig.fileName
    | throw (.templateNotFound job.name)
  let path := JobSource.templatePath ⟨job.release, job.name⟩ files.base template
  let configs ← (job.resolved.instances.mapM fun i =>
    RuntimeConfig.render files path (job.context spec deployment i)).mapError
      (.templateRender job.name)
  match configs with
  | [] => return (job, [])
  | first :: rest =>
    let warnings := if rest.any (· != first) then [⟨job.name, deployment⟩] else []
    return (job.withRuntime (some first), warnings)

end Job

end JobContainers

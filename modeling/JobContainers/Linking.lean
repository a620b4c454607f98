import JobContainers.Placement
import JobContainers.Progress
import JobContainers.SpecCache

/-!
Links between jobs. Providers are registered across a whole deployment under their type and name;
consumers find them there. A manifest may give a provider another name, let a consumer look for
another name, or switch a consumer off.
-/

set_option autoImplicit false

namespace JobContainers

abbrev ProviderTable := Registry JobLink

def ProviderTable.register (t : ProviderTable) (type name : String) (link : JobLink) :
    Except CompileError ProviderTable :=
  match t.get? (type, name) with
  | some _ => .error (.duplicateProvider type name)
  | none => .ok (t.add (type, name) link)

def Tree.isNil : Tree → Bool
  | .null => true
  | .string s => s = "nil"
  | _ => false

/-- A name given in the settings of a link; null counts as none, and whatever is no text stands
for its own one-line text. -/
def nameSetting (entries : List (String × Tree)) (key : String) : Option String :=
  (entries.lookup key).bind Codec.scalarText?

namespace Job

def providerName (job : Job) (provider : String) : Except CompileError String :=
  match job.provides.get? provider with
  | none => .ok provider
  | some (.map entries) => .ok ((nameSetting entries "as").getD provider)
  | some other => .error (.invalidManifest job.name .provides provider other)

def effectiveProperty (job : Job) (spec : JobSpec) (name : String) : Tree :=
  (job.property? name).getD (spec.propertyDefault name)

def linkProperties (job : Job) (spec : JobSpec) (provided : ProvidedLink) : Dict Tree :=
  provided.properties.foldl
    (fun d name => Property.set d name (job.effectiveProperty spec name)) ∅

def consumedName (job : Job) (consumer : ConsumedLink) : Except CompileError (Option String) :=
  match job.consumes.get? consumer.name with
  | none => .ok (some consumer.name)
  | some settings =>
    if settings.isNil then
      if consumer.isOptional then .ok none
      else .error (.mandatoryLinkNil job.name consumer.name)
    else
      match settings with
      | .map entries => .ok (some ((nameSetting entries "from").getD consumer.name))
      | other => .error (.invalidManifest job.name .consumes consumer.name other)

def linkFor (job : Job) (providers : ProviderTable) (consumer : ConsumedLink) :
    Except CompileError (Option JobLink) := do
  match ← job.consumedName consumer with
  | none => return none
  | some name =>
    match providers.get? (consumer.type, name) with
    | some link => return some link
    | none =>
      if consumer.isOptional then return none
      else throw (.unresolvedLink job.name consumer.name consumer.type name)

def withInstances (job : Job) (instances : List JobInstance) : Job :=
  { job with resolved := { job.resolved with instances := instances } }

def withLinks (job : Job) (links : Dict JobLink) : Job :=
  { job with resolved := { job.resolved with consumes := links } }

end Job

/-- What is known of a deployment while its links are resolved. -/
structure Linking where
  specs : SpecCache
  providers : ProviderTable

namespace Linking

def empty : Linking := ⟨∅, ∅⟩

def provide (job : Job) (spec : JobSpec) (instances : List JobInstance) (t : ProviderTable)
    (provided : ProvidedLink) : Except CompileError ProviderTable := do
  let name ← job.providerName provided.name
  t.register provided.type name ⟨instances, job.linkProperties spec provided⟩

/-- Loads the specification of a job, registers its providers and then sets its instances. -/
def collectJob (cluster : Cluster) (files : FileTree) (g : InstanceGroup) (l : Linking)
    (job : Job) : Linking × Job × Option CompileError :=
  match l.specs.load files job.release job.name with
  | .error e => (l, job, some e)
  | .ok (spec, specs) =>
    let instances := g.jobInstances cluster job.name
    match Progress.fold (provide job spec instances) l.providers spec.provides with
    | (providers, some e) => (⟨specs, providers⟩, job, some e)
    | (providers, none) => (⟨specs, providers⟩, job.withInstances instances, none)

def collectGroup (cluster : Cluster) (files : FileTree) (l : Linking) (g : InstanceGroup) :
    Linking × InstanceGroup × Option CompileError :=
  let (l, jobs, e) := Progress.update (collectJob cluster files g) l g.jobs
  (l, { g with jobs := jobs }, e)

def collect (l : Linking) (cluster : Cluster) (files : FileTree) (m : Manifest) :
    Linking × Manifest × Option CompileError :=
  let (l, groups, e) := Progress.update (collectGroup cluster files) l m.instanceGroups
  (l, { m with instanceGroups := groups }, e)

def attach (job : Job) (providers : ProviderTable) (links : Dict JobLink)
    (consumer : ConsumedLink) : Except CompileError (Dict JobLink) := do
  match ← job.linkFor providers consumer with
  | some link => return links.insert consumer.name link
  | none => return links

def resolveJob (l : Linking) (job : Job) : Job × Option CompileError :=
  match l.specs.collected job.release job.name with
  | .error e => (job, some e)
  | .ok spec =>
    let (links, e) := Progress.fold (attach job l.providers) job.resolved.consumes spec.consumes
    (job.withLinks links, e)

end Linking

end JobContainers

import JobContainers.Rendering
import JobContainers.Proofs.Passes

/-!
What rendering a stored job comes to, whatever templates and documents mean: which faults it has
and in which order they are found, and that the job is written once, after its last instance.
-/

set_option autoImplicit false

namespace JobContainers

/-- Work on a stored job and the warnings about it. What a step has written stays when a later one
fails. -/
abbrev Job.Task := ExceptT CompileError (StateM (Job × List Warning))

namespace Renderer

def instanceConfig (r : Renderer) (job : Job) (spec : JobSpec) (source : String)
    (files : FileTree) (deployment : String) (i : JobInstance) :
    Except RenderFault RuntimeConfig :=
  r.configuration files (JobSource.templatePath ⟨job.release, job.name⟩ files.base source)
    { properties := Property.merge spec.defaultProperties job.properties.overrides
      spec := ⟨i.address, i.az, i.id, i.index, i.name, deployment, i.index = 0⟩
      links := job.resolved.consumes }

def warn (deployment : String) : List RuntimeConfig → Job.Task Unit
  | [] => pure ()
  | first :: rest =>
    if rest.any (· != first) then
      modify fun (job, warnings) => (job, warnings ++ [⟨job.name, deployment⟩])
    else pure ()

def renderStored (r : Renderer) (specs : SpecCache) (files : FileTree) (deployment : String) :
    Job.Task Unit := do
  let (job, _) ← get
  let spec ← liftExcept (specs.collected job.release job.name)
  match spec.templateFor? RuntimeConfig.fileName with
  | none => throw (.templateNotFound job.name)
  | some source =>
    if job.resolved.instances.isEmpty then return
    let configs ← job.resolved.instances.mapM fun i =>
      (liftExcept ((r.instanceConfig job spec source files deployment i).mapError
        (CompileError.templateRender job.name)) : Job.Task RuntimeConfig)
    warn deployment configs
    modify fun (job, warnings) => (job.withRuntime configs.head?, warnings)

def divergence (w : Warning) : List RuntimeConfig → List Warning
  | [] => []
  | first :: rest => if rest.any (· != first) then [w] else []

def rendered (r : Renderer) (job : Job) (specs : SpecCache) (files : FileTree)
    (deployment : String) : Except CompileError Unit × Job × List Warning :=
  (r.renderStored specs files deployment).run.run (job, [])

end Renderer

namespace JobSpec

variable {spec : JobSpec} {fileName source : String}

/-- The template with this source is the first one whose destination has this base name. -/
def FirstTemplate (spec : JobSpec) (fileName source : String) : Prop :=
  ∃ before destination behind,
    spec.templates.entries = before ++ (source, destination) :: behind ∧
      (∀ earlier ∈ before, FileName.base? earlier.2 ≠ some fileName) ∧
      FileName.base? destination = some fileName

theorem templateFor?_none :
    spec.templateFor? fileName = none ↔
      ∀ template ∈ spec.templates.entries, FileName.base? template.2 ≠ some fileName := by
  rw [templateFor?, Option.map_eq_none_iff, List.find?_eq_none]
  simp only [decide_eq_true_eq, ne_eq]

theorem templateFor?_some :
    spec.templateFor? fileName = some source ↔ spec.FirstTemplate fileName source := by
  rw [templateFor?, Option.map_eq_some_iff]
  constructor
  · intro found
    obtain ⟨⟨_, destination⟩, found, rfl⟩ := found
    obtain ⟨named, before, behind, split, unnamed⟩ := List.find?_eq_some_iff_append.mp found
    refine ⟨before, destination, behind, split, ?_, of_decide_eq_true named⟩
    intro earlier member same
    have other := unnamed earlier member
    rw [same, decide_eq_true rfl] at other
    cases other
  · intro first
    obtain ⟨before, destination, behind, split, unnamed, named⟩ := first
    refine ⟨(source, destination), ?_, rfl⟩
    apply List.find?_eq_some_iff_append.mpr
    refine ⟨decide_eq_true named, before, behind, split, ?_⟩
    intro earlier member
    rw [decide_eq_false (unnamed earlier member)]
    rfl

end JobSpec

namespace Job.Task

theorem run_liftExcept {α : Type} (outcome : Except CompileError α) (s : Job × List Warning) :
    (liftExcept outcome : Job.Task α).run.run s = (outcome, s) := by
  cases outcome <;> rfl

theorem run_bind {α β : Type} (first : Job.Task α) (next : α → Job.Task β)
    (s : Job × List Warning) :
    (first >>= next).run.run s =
      match first.run.run s with
      | (.ok value, s) => (next value).run.run s
      | (.error cause, s) => (.error cause, s) := by
  rw [ExceptT.run_bind, StateT.run_bind]
  rcases first.run.run s with ⟨_ | _, _⟩ <;> rfl

theorem run_mapM {α β : Type} (f : α → Except CompileError β) (items : List α)
    (s : Job × List Warning) :
    (items.mapM fun item => (liftExcept (f item) : Job.Task β)).run.run s = (items.mapM f, s) := by
  induction items with
  | nil => rfl
  | cons item items ih =>
      rw [List.mapM_cons, List.mapM_cons, run_bind, run_liftExcept]
      cases f item with
      | error cause => rfl
      | ok value =>
          dsimp only
          rw [run_bind, ih]
          cases items.mapM f <;> rfl

end Job.Task

namespace Renderer

variable (r : Renderer) {job : Job} {specs : SpecCache} (files : FileTree) (deployment : String)
  {spec : JobSpec}

theorem run_warn (configs : List RuntimeConfig) (warnings : List Warning) :
    (warn deployment configs).run.run (job, warnings) =
      (.ok (), job, warnings ++ divergence ⟨job.name, deployment⟩ configs) := by
  cases configs with
  | nil =>
      rw [divergence, List.append_nil]
      rfl
  | cons config configs =>
      rw [warn, divergence]
      split
      · rfl
      · rw [List.append_nil]
        rfl

theorem rendered_uncached (missing : specs.get? (job.release, job.name) = none) :
    r.rendered job specs files deployment =
      (.error (.specLoad job.release job.name .notCollected), job, []) := by
  have unread : specs.collected job.release job.name =
      .error (.specLoad job.release job.name .notCollected) := by
    rw [SpecCache.collected, missing]
  rw [rendered, renderStored, Job.Task.run_bind]
  change (liftExcept _ >>= _ : Job.Task Unit).run.run (job, []) = _
  rw [Job.Task.run_bind, Job.Task.run_liftExcept, unread]

theorem rendered_cached (cached : specs.get? (job.release, job.name) = some spec) :
    r.rendered job specs files deployment =
      match spec.templateFor? RuntimeConfig.fileName with
      | none => (.error (.templateNotFound job.name), job, [])
      | some source =>
        if job.resolved.instances.isEmpty then (.ok (), job, [])
        else match job.resolved.instances.mapM
            (r.instanceConfig job spec source files deployment) with
          | .error fault => (.error (.templateRender job.name fault), job, [])
          | .ok configs =>
            (.ok (), job.withRuntime configs.head?, divergence ⟨job.name, deployment⟩ configs) := by
  have read : specs.collected job.release job.name = .ok spec := by
    rw [SpecCache.collected, cached]
  rw [rendered, renderStored, Job.Task.run_bind]
  change (liftExcept _ >>= _ : Job.Task Unit).run.run (job, []) = _
  rw [Job.Task.run_bind, Job.Task.run_liftExcept, read]
  dsimp only
  cases spec.templateFor? RuntimeConfig.fileName with
  | none => rfl
  | some source =>
      dsimp only
      by_cases idle : job.resolved.instances.isEmpty
      · rw [if_pos idle, if_pos idle]
        rfl
      · rw [if_neg idle, if_neg idle, Job.Task.run_bind, Job.Task.run_mapM, mapM_mapError]
        cases job.resolved.instances.mapM (r.instanceConfig job spec source files deployment) with
        | error fault => rfl
        | ok configs =>
            dsimp only [Except.mapError]
            rw [Job.Task.run_bind, run_warn]
            rfl

theorem rendered_standard (job : Job) (specs : SpecCache) :
    standard.rendered job specs files deployment =
      match job.render specs files deployment with
      | .ok (rendered, warnings) => (.ok (), rendered, warnings)
      | .error cause => (.error cause, job, []) := by
  cases cached : specs.get? (job.release, job.name) with
  | none =>
      rw [rendered_uncached standard files deployment cached, Job.render, SpecCache.collected,
        cached]
      rfl
  | some spec =>
      rw [rendered_cached standard files deployment cached, Job.render, SpecCache.collected,
        cached]
      cases found : spec.templateFor? RuntimeConfig.fileName with
      | none => simp only [bind, Except.bind, found]; rfl
      | some source =>
          have configs : standard.instanceConfig job spec source files deployment =
              fun i => RuntimeConfig.render files
                (JobSource.templatePath ⟨job.release, job.name⟩ files.base source)
                (job.context spec deployment i) := rfl
          simp only [bind, Except.bind, found, configs]
          cases placed : job.resolved.instances with
          | nil => rfl
          | cons first others =>
              rw [List.isEmpty_cons, if_neg Bool.false_ne_true]
              cases made : (first :: others).mapM fun i => RuntimeConfig.render files
                  (JobSource.templatePath ⟨job.release, job.name⟩ files.base source)
                  (job.context spec deployment i) with
              | error fault => rfl
              | ok configs =>
                  cases mapM_ok.mp made
                  rfl

theorem divergence_same {w : Warning} {first : RuntimeConfig} {rest : List RuntimeConfig}
    (same : ∀ config ∈ rest, config = first) : divergence w (first :: rest) = [] := by
  have quiet : ¬rest.any (· != first) = true := by
    rw [List.any_eq_true]
    intro found
    obtain ⟨config, member, differs⟩ := found
    exact bne_iff_ne.mp differs (same config member)
  rw [divergence, if_neg quiet]

theorem divergence_differs {w : Warning} {first : RuntimeConfig} {rest : List RuntimeConfig}
    (differs : ¬∀ config ∈ rest, config = first) : divergence w (first :: rest) = [w] := by
  have loud : rest.any (· != first) = true := by
    rw [List.any_eq_true]
    push Not at differs
    obtain ⟨config, member, other⟩ := differs
    exact ⟨config, member, bne_iff_ne.mpr other⟩
  rw [divergence, if_pos loud]

theorem same_iff {config : JobInstance → Except RenderFault RuntimeConfig} {first : RuntimeConfig}
    {instances : List JobInstance} {configs : List RuntimeConfig}
    (made : List.Forall₂ (fun i result => config i = .ok result) instances configs) :
    (∀ result ∈ configs, result = first) ↔ ∀ i ∈ instances, config i = .ok first := by
  induction made with
  | nil => simp
  | cons here _ ih => rw [List.forall_mem_cons, List.forall_mem_cons, ih, here, Except.ok.injEq]

section Templates

variable {source : String} (cached : specs.get? (job.release, job.name) = some spec)

include cached

theorem rendered_untemplated
    (missing : ∀ template ∈ spec.templates.entries,
      FileName.base? template.2 ≠ some RuntimeConfig.fileName) :
    r.rendered job specs files deployment = (.error (.templateNotFound job.name), job, []) := by
  rw [rendered_cached r files deployment cached, JobSpec.templateFor?_none.mpr missing]

theorem rendered_idle (found : spec.FirstTemplate RuntimeConfig.fileName source)
    (idle : job.resolved.instances = []) :
    r.rendered job specs files deployment = (.ok (), job, []) := by
  rw [rendered_cached r files deployment cached, JobSpec.templateFor?_some.mpr found, idle]
  rfl

variable {first : JobInstance} {rest : List JobInstance}
  (found : spec.FirstTemplate RuntimeConfig.fileName source)
  (placed : job.resolved.instances = first :: rest)

include found placed

theorem rendered_placed :
    r.rendered job specs files deployment =
      match (first :: rest).mapM (r.instanceConfig job spec source files deployment) with
      | .error fault => (.error (.templateRender job.name fault), job, [])
      | .ok configs =>
        (.ok (), job.withRuntime configs.head?, divergence ⟨job.name, deployment⟩ configs) := by
  rw [rendered_cached r files deployment cached, JobSpec.templateFor?_some.mpr found, placed]
  rfl

theorem rendered_ok (after : Job × List Warning) :
    r.rendered job specs files deployment = (.ok (), after) ↔
      ∃ configs,
        (first :: rest).mapM (r.instanceConfig job spec source files deployment) = .ok configs ∧
          after = (job.withRuntime configs.head?, divergence ⟨job.name, deployment⟩ configs) := by
  rw [rendered_placed r files deployment cached found placed]
  cases (first :: rest).mapM (r.instanceConfig job spec source files deployment) with
  | error fault => simp
  | ok configs => simp [eq_comm]

theorem rendered_total :
    (∃ after, r.rendered job specs files deployment = (.ok (), after)) ↔
      ∀ i ∈ first :: rest,
        ∃ made, r.instanceConfig job spec source files deployment i = .ok made := by
  have success := rendered_ok r files deployment cached found placed
  rw [← mapM_total]
  constructor
  · intro done
    obtain ⟨after, done⟩ := done
    obtain ⟨configs, made, -⟩ := (success after).mp done
    exact ⟨configs, made⟩
  · intro done
    obtain ⟨configs, made⟩ := done
    exact ⟨_, (success _).mpr ⟨configs, made, rfl⟩⟩

theorem rendered_first {rendered : Job} {warnings : List Warning}
    (done : r.rendered job specs files deployment = (.ok (), rendered, warnings)) :
    ∃ made, r.instanceConfig job spec source files deployment first = .ok made ∧
      rendered = job.withRuntime (some made) ∧
      ((∀ i ∈ rest, r.instanceConfig job spec source files deployment i = .ok made) ∧
          warnings = [] ∨
        (∃ i ∈ rest, r.instanceConfig job spec source files deployment i ≠ .ok made) ∧
          warnings = [⟨job.name, deployment⟩]) := by
  obtain ⟨configs, made, after⟩ := (rendered_ok r files deployment cached found placed _).mp done
  obtain ⟨rfl, rfl⟩ := Prod.mk.inj after
  obtain ⟨own, others, here, behind, rfl⟩ := List.forall₂_cons_left_iff.mp (mapM_ok.mp made)
  refine ⟨own, here, rfl, ?_⟩
  by_cases same : ∀ i ∈ rest, r.instanceConfig job spec source files deployment i = .ok own
  · exact .inl ⟨same, divergence_same ((same_iff behind).mpr same)⟩
  · have differs := mt (same_iff behind).mp same
    push Not at same
    exact .inr ⟨same, divergence_differs differs⟩

theorem rendered_error (cause : CompileError) (after : Job × List Warning) :
    r.rendered job specs files deployment = (.error cause, after) ↔
      ∃ before i behind fault, first :: rest = before ++ i :: behind ∧
        (∀ earlier ∈ before,
          ∃ made, r.instanceConfig job spec source files deployment earlier = .ok made) ∧
        r.instanceConfig job spec source files deployment i = .error fault ∧
        cause = .templateRender job.name fault ∧ after = (job, []) := by
  have failure : r.rendered job specs files deployment = (.error cause, after) ↔ ∃ fault,
      (first :: rest).mapM (r.instanceConfig job spec source files deployment) = .error fault ∧
        cause = .templateRender job.name fault ∧ after = (job, []) := by
    rw [rendered_placed r files deployment cached found placed]
    cases (first :: rest).mapM (r.instanceConfig job spec source files deployment) with
    | error fault => simp [eq_comm]
    | ok configs => simp
  rw [failure]
  constructor
  · intro failed
    obtain ⟨fault, failed, named, kept⟩ := failed
    obtain ⟨before, i, behind, split, sound, fails⟩ := mapM_error.mp failed
    exact ⟨before, i, behind, fault, split, sound, fails, named, kept⟩
  · intro failed
    obtain ⟨before, i, behind, fault, split, sound, fails, named, kept⟩ := failed
    exact ⟨fault, mapM_error.mpr ⟨before, i, behind, split, sound, fails⟩, named, kept⟩

end Templates

/-- The faults of a job in the order that they are found in, and what it becomes without one. -/
theorem rendered_outcome (r : Renderer) (job : Job) (specs : SpecCache) (files : FileTree)
    (deployment : String) :
    let outcome := r.rendered job specs files deployment
    (standard.rendered job specs files deployment =
      match job.render specs files deployment with
      | .ok (rendered, warnings) => (.ok (), rendered, warnings)
      | .error cause => (.error cause, job, [])) ∧
    (specs.get? (job.release, job.name) = none →
      outcome = (.error (.specLoad job.release job.name .notCollected), job, [])) ∧
    ∀ spec, specs.get? (job.release, job.name) = some spec →
      ((∀ template ∈ spec.templates.entries, FileName.base? template.2 ≠ some "bpm.yml") →
        outcome = (.error (.templateNotFound job.name), job, [])) ∧
      ∀ source, spec.FirstTemplate "bpm.yml" source →
        (job.resolved.instances = [] → outcome = (.ok (), job, [])) ∧
        ∀ first rest, job.resolved.instances = first :: rest →
          let config := r.instanceConfig job spec source files deployment
          ((∃ after, outcome = (.ok (), after)) ↔
            ∀ i ∈ first :: rest, ∃ made, config i = .ok made) ∧
          (∀ rendered warnings, outcome = (.ok (), rendered, warnings) →
            ∃ made, config first = .ok made ∧
              rendered = { job with resolved := { job.resolved with runtime := some made } } ∧
              ((∀ i ∈ rest, config i = .ok made) ∧ warnings = [] ∨
                (∃ i ∈ rest, config i ≠ .ok made) ∧ warnings = [⟨job.name, deployment⟩])) ∧
          ∀ cause after, outcome = (.error cause, after) ↔
            ∃ before i behind fault, first :: rest = before ++ i :: behind ∧
              (∀ earlier ∈ before, ∃ made, config earlier = .ok made) ∧ config i = .error fault ∧
              cause = .templateRender job.name fault ∧ after = (job, []) := by
  intro outcome
  refine ⟨rendered_standard files deployment job specs, rendered_uncached r files deployment, ?_⟩
  intro spec cached
  refine ⟨rendered_untemplated r files deployment cached, ?_⟩
  intro source found
  refine ⟨rendered_idle r files deployment cached found, ?_⟩
  intro first rest placed config
  refine ⟨rendered_total r files deployment cached found placed, ?_,
    rendered_error r files deployment cached found placed⟩
  intro rendered warnings done
  exact rendered_first r files deployment cached found placed done

end Renderer

namespace Leader

def first : JobInstance := ⟨"nats-0", "z1", "n0", 0, 0, "nats"⟩

def second : JobInstance := ⟨"nats-1", "z2", "n1", 1, 0, "nats"⟩

def job : Job where
  name := "nats"
  release := "r"
  properties := .unset
  provides := ∅
  consumes := ∅
  resolved := { ResolvedJob.unset with instances := [first, second] }

def spec : JobSpec := ⟨"nats", [], [], ∅, .ofList [("bpm.erb", "config/bpm.yml")]⟩

def specs : SpecCache := Registry.empty.add ("r", "nats") spec

def files (template : String) : FileTree :=
  (FileTree.empty "base").write "jobs-src/r/nats/templates/bpm.erb" template.toUTF8

def numbered : FileTree :=
  files "processes:\n- name: nats\n  executable: /bin/\x7b\x7b spec.index \x7d\x7d\n"

def lacking : FileTree :=
  files "processes: \x7b\x7b [] if spec.bootstrap else p('a') \x7d\x7d\n"

def config (files : FileTree) (i : JobInstance) : Except RenderFault RuntimeConfig :=
  Renderer.standard.instanceConfig job spec "bpm.erb" files "cf" i

end Leader

/-- Instances that differ leave a warning, and a second one that fails undoes the first. -/
theorem rendered_outcome_leader :
    (∃ made, Leader.config Leader.numbered Leader.first = .ok made ∧
      Renderer.standard.rendered Leader.job Leader.specs Leader.numbered "cf" =
        (.ok (), Leader.job.withRuntime (some made), [⟨"nats", "cf"⟩])) ∧
      Renderer.standard.rendered Leader.job Leader.specs Leader.lacking "cf" =
        (.error (.templateRender "nats" (.template (.propertyNotFound "a"))), Leader.job, []) := by
  have cached : Leader.specs.get? (Leader.job.release, Leader.job.name) = some Leader.spec := by
    decide +kernel
  have found : Leader.spec.FirstTemplate "bpm.yml" "bpm.erb" :=
    ⟨[], "config/bpm.yml", [], by decide, nofun, by decide +kernel⟩
  have placed : Leader.job.resolved.instances = [Leader.first, Leader.second] := rfl
  have renders (files : FileTree) :=
    (((Renderer.rendered_outcome .standard Leader.job Leader.specs files "cf").2.2
      _ cached).2 _ found).2 _ _ placed
  constructor
  · have zero : (Leader.config Leader.numbered Leader.first).toOption.map
        (fun c => c.processes.map (·.executable)) = some ["/bin/0"] := by decide +kernel
    have one : (Leader.config Leader.numbered Leader.second).toOption.map
        (fun c => c.processes.map (·.executable)) = some ["/bin/1"] := by decide +kernel
    obtain ⟨own, here, runs⟩ := exists_ok zero
    obtain ⟨other, there, otherwise⟩ := exists_ok one
    obtain ⟨exactly, success, -⟩ := renders Leader.numbered
    have all : ∀ i ∈ [Leader.first, Leader.second],
        ∃ made, Leader.config Leader.numbered i = .ok made := by
      intro i member
      rcases List.mem_pair.mp member with rfl | rfl
      · exact ⟨own, here⟩
      · exact ⟨other, there⟩
    obtain ⟨⟨rendered, warnings⟩, done⟩ := exactly.mpr all
    obtain ⟨made, started, rfl, ⟨same, -⟩ | ⟨-, rfl⟩⟩ := success rendered warnings done
    · have equal : (.ok own : Except RenderFault RuntimeConfig) = .ok other :=
        here.symm.trans (started.trans ((same _ List.mem_cons_self).symm.trans there))
      cases equal
      rw [runs] at otherwise
      exact absurd otherwise (by decide)
    · exact ⟨made, started, done⟩
  · have begins : (Leader.config Leader.lacking Leader.first).toOption.map
        (·.processes) = some [] := by decide +kernel
    have fails : Leader.config Leader.lacking Leader.second =
      .error (.template (.propertyNotFound "a")) := by decide +kernel
    obtain ⟨own, here, -⟩ := exists_ok begins
    obtain ⟨-, -, failure⟩ := renders Leader.lacking
    apply (failure _ _).mpr
    refine ⟨[Leader.first], Leader.second, [], _, rfl, ?_, fails, rfl, rfl⟩
    intro earlier member
    cases List.mem_singleton.mp member
    exact ⟨own, here⟩

end JobContainers

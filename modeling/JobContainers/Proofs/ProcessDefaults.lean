import JobContainers.Proofs.Passes
import JobContainers.ProcessContainer
import Mathlib.Data.List.Basic

set_option autoImplicit false

namespace JobContainers

universe u

namespace EnvVar

def names (env : List EnvVar) : List String := env.map (·.name)

def missing (env : List EnvVar) : List EnvVar := standard.filter (·.name ∉ names env)

variable {env defaults : List EnvVar} {v : EnvVar}

theorem addMissing_of_present (present : v.name ∈ names env) : addMissing env v = env := by
  have found : env.any (·.name = v.name) = true := by simpa [names] using present
  rw [addMissing, if_pos found]

theorem addMissing_of_absent (absent : v.name ∉ names env) : addMissing env v = env ++ [v] := by
  have free : ¬env.any (·.name = v.name) = true := by simpa [names] using absent
  rw [addMissing, if_neg free]

/-- What has been added does not stand in the way of other names, so every default can be held
against the environment as it was at first. -/
theorem foldl_addMissing (distinct : (names defaults).Nodup) :
    defaults.foldl addMissing env = env ++ defaults.filter (·.name ∉ names env) := by
  induction defaults generalizing env with
  | nil => exact (List.append_nil env).symm
  | cons v rest ih =>
      obtain ⟨once, distinct⟩ := List.nodup_cons.mp distinct
      rw [List.foldl_cons]
      by_cases present : v.name ∈ names env
      · rw [addMissing_of_present present, ih distinct,
          List.filter_cons_of_neg (by simpa using present)]
      · have others : ∀ w ∈ rest, (w.name ∉ names (env ++ [v])) ↔ (w.name ∉ names env) := by
          intro w member
          have differs : w.name ≠ v.name := by
            intro same
            exact once (List.mem_map.mpr ⟨w, member, same⟩)
          simp [names, differs]
        have kept : rest.filter (·.name ∉ names (env ++ [v])) =
            rest.filter (·.name ∉ names env) :=
          List.filter_congr fun w member => decide_eq_decide.mpr (others w member)
        rw [addMissing_of_absent present, ih distinct, kept,
          List.filter_cons_of_pos (by simpa using present), List.append_assoc,
          List.singleton_append]

theorem withStandard_eq (env : List EnvVar) : withStandard env = env ++ missing env :=
  foldl_addMissing (by decide)

theorem mem_names_withStandard (standardOne : v ∈ standard) :
    v.name ∈ names (withStandard env) := by
  rw [withStandard_eq, names, List.map_append, List.mem_append]
  by_cases present : v.name ∈ names env
  · exact .inl present
  · refine .inr (List.mem_map_of_mem (List.mem_filter.mpr ⟨standardOne, ?_⟩))
    simpa using present

theorem withStandard_withStandard (env : List EnvVar) :
    withStandard (withStandard env) = withStandard env := by
  have none : missing (withStandard env) = [] := by
    rw [missing, List.filter_eq_nil_iff]
    intro v standardOne
    simpa using mem_names_withStandard standardOne
  rw [withStandard_eq (withStandard env), none, List.append_nil]

end EnvVar

/-- A setting that is given stays as it is, and an open one comes from the fallback. -/
def FillsGap {α : Type u} (given fallback result : Option α) : Prop :=
  (∀ value, given = some value → result = some value) ∧ (given = none → result = fallback)

theorem fillsGap_or {α : Type u} (given fallback : Option α) :
    FillsGap given fallback (given.or fallback) := by
  constructor
  · rintro value rfl
    rfl
  · rintro rfl
    exact Option.none_or

theorem fillsGap_none {α : Type u} (given : Option α) : FillsGap given none given := by
  have filled := fillsGap_or given none
  rwa [Option.or_none] at filled

namespace SecurityContext

structure FilledFor (p : JobProcess) (given result : SecurityContext) : Prop where
  capabilities : FillsGap given.capabilities
    (if p.capabilities = [] then none else some ⟨p.capabilities, []⟩) result.capabilities
  privileged : FillsGap given.privileged (some p.privileged) result.privileged
  runAsUser : FillsGap given.runAsUser (some 0) result.runAsUser
  readOnlyRootFilesystem :
    FillsGap given.readOnlyRootFilesystem none result.readOnlyRootFilesystem
  runAsNonRoot : FillsGap given.runAsNonRoot none result.runAsNonRoot
  runAsGroup : FillsGap given.runAsGroup none result.runAsGroup
  allowPrivilegeEscalation :
    FillsGap given.allowPrivilegeEscalation none result.allowPrivilegeEscalation

end SecurityContext

namespace JobProcess

theorem securityContext_filled (p : JobProcess) (ofJob : Option SecurityContext) :
    SecurityContext.FilledFor p (ofJob.getD .unset) (p.securityContext ofJob) where
  capabilities := by
    have filled := fillsGap_or (ofJob.getD .unset).capabilities
      (if p.capabilities = [] then none else some ⟨p.capabilities, []⟩)
    simpa only [securityContext, List.isEmpty_iff] using filled
  privileged := fillsGap_or _ _
  runAsUser := fillsGap_or _ _
  readOnlyRootFilesystem := fillsGap_none _
  runAsNonRoot := fillsGap_none _
  runAsGroup := fillsGap_none _
  allowPrivilegeEscalation := fillsGap_none _

theorem securityContext_again (p : JobProcess) (ofJob : Option SecurityContext) :
    p.securityContext (some (p.securityContext ofJob)) = p.securityContext ofJob := by
  simp only [securityContext, Option.getD_some, Option.or_assoc, Option.or_self]

theorem pairwise_names (p : JobProcess) :
    (EnvVar.names (p.env.entries.map fun e => .literal e.1 e.2)).Pairwise (· < ·) := by
  rw [EnvVar.names, List.map_map]
  exact p.env.pairwise_keys

end JobProcess

namespace Container

/-- The environment of a container begins with the variables of the process by name and those of
the job as they are given; behind them there are only standard ones that were missing. Of the
security context what the job says is kept. To fill either again changes nothing. -/
theorem ofProcess_defaults {s : ProcessSetting} {p : JobProcess} {line : CommandLine}
    {mounts : List VolumeMount} {x : Container}
    (built : Container.ofProcess s p line mounts = .ok x) :
    (∃ own added,
      x.env = own ++ s.envs ++ added ∧
      own = p.env.entries.map (fun e => .literal e.1 e.2) ∧
      (EnvVar.names own).Pairwise (· < ·) ∧
      added = EnvVar.standard.filter (·.name ∉ EnvVar.names (own ++ s.envs)) ∧
      (∀ name ∈ ["POD_ORDINAL", "REPLICAS", "AZ_INDEX"], name ∈ EnvVar.names x.env) ∧
      EnvVar.withStandard x.env = x.env) ∧
    ∃ context,
      x.securityContext = some context ∧
      SecurityContext.FilledFor p (s.securityContext.getD .unset) context ∧
      p.securityContext (some context) = context := by
  obtain ⟨limits, -, made⟩ := bind_ok.mp built
  obtain rfl := Except.ok.inj made
  constructor
  · refine ⟨p.env.entries.map fun e => .literal e.1 e.2, _, EnvVar.withStandard_eq _, rfl,
      p.pairwise_names, rfl, ?_, EnvVar.withStandard_withStandard _⟩
    intro name member
    have standardName : name ∈ EnvVar.names EnvVar.standard := member
    obtain ⟨v, standardOne, rfl⟩ := List.mem_map.mp standardName
    exact EnvVar.mem_names_withStandard standardOne
  · exact ⟨_, rfl, p.securityContext_filled _, p.securityContext_again _⟩

end Container

namespace Tended

def process : JobProcess where
  name := "api"
  executable := "/bin/api"
  args := []
  env := .ofList [("PORT", "80"), ("AZ_INDEX", "7")]
  workdir := none
  limits := .unset
  requests := ∅
  capabilities := ["NET_ADMIN"]
  privileged := true

def setting : ProcessSetting where
  job := "api"
  image := "registry/api"
  healthChecks := ∅
  envs := [.literal "REPLICAS" "3", .literal "REPLICAS" "5"]
  securityContext := some { SecurityContext.unset with privileged := some false }

def line : CommandLine := .errand process

theorem built : ∃ x, Container.ofProcess setting process line [] = .ok x := by
  have ran : (Container.ofProcess setting process line []).toOption.map (·.name) =
      some "api-api" := by decide
  obtain ⟨x, built, -⟩ := exists_ok ran
  exact ⟨x, built⟩

end Tended

theorem ofProcess_defaults_tended :
    ∃ x context, Container.ofProcess Tended.setting Tended.process Tended.line [] = .ok x ∧
      EnvVar.names x.env = ["AZ_INDEX", "PORT", "REPLICAS", "REPLICAS", "POD_ORDINAL"] ∧
      x.securityContext = some context ∧
      context.capabilities = some ⟨["NET_ADMIN"], []⟩ ∧ context.privileged = some false ∧
      context.runAsUser = some 0 := by
  obtain ⟨x, built⟩ := Tended.built
  obtain ⟨⟨own, added, parts, ownVars, -, missing, -⟩, context, placed, filled, -⟩ :=
    Container.ofProcess_defaults built
  subst ownVars missing
  refine ⟨x, context, built, ?_, placed, ?_, ?_, ?_⟩
  · rw [parts]
    decide
  · exact filled.capabilities.2 rfl
  · exact filled.privileged.1 false rfl
  · exact filled.runAsUser.2 rfl

end JobContainers

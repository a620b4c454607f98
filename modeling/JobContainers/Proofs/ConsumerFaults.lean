import JobContainers.Proofs.Consumption

/-!
When the consumers of a job cannot be resolved, and what they attach otherwise. Each consumer is
judged by itself, so that the first one at fault decides on the error and making consumers optional
can only remove faults.
-/

set_option autoImplicit false

namespace JobContainers

/-- The same consumer, which may have become optional. -/
structure ConsumedLink.Relaxes (c loose : ConsumedLink) : Prop where
  name : loose.name = c.name
  type : loose.type = c.type
  optional : c.isOptional = true → loose.isOptional = true

namespace Job

/-- Why a consumer of a job is at fault. -/
inductive Offends (job : Job) (t : ProviderTable) (c : ConsumedLink) : CompileError → Prop where
  | nil (found : Tree) (present : job.consumes.get? c.name = some found)
      (off : found.isNil = true) (mandatory : c.isOptional = false) :
      Offends job t c (.mandatoryLinkNil job.name c.name)
  | settings (found : Tree) (present : job.consumes.get? c.name = some found)
      (on : found.isNil = false) (unreadable : found.isMap = false) :
      Offends job t c (.invalidManifest job.name .consumes c.name found)
  | unprovided
      (readable : ∀ found, job.consumes.get? c.name = some found → found.isMap = true)
      (absent : t.get? (c.type, job.soughtName c) = none) (mandatory : c.isOptional = false) :
      Offends job t c (.unresolvedLink job.name c.name c.type (job.soughtName c))

/-- The links that a table has for consumers, under the names of these. -/
def supplied (job : Job) (t : ProviderTable) (cs : List ConsumedLink) : List (String × JobLink) :=
  cs.filterMap fun c => (job.linked t c).map (c.name, ·)

variable {job : Job} {t : ProviderTable} {c : ConsumedLink}

theorem supplied_cons (cs : List ConsumedLink) :
    job.supplied t (c :: cs) =
      ((job.linked t c).map (c.name, ·)).toList ++ job.supplied t cs := by
  rw [supplied, List.filterMap_cons]
  cases job.linked t c <;> rfl

theorem consumedName_error {cause : CompileError} :
    job.consumedName c = .error cause ↔ ∃ found, job.consumes.get? c.name = some found ∧
      (found.isNil = true ∧ c.isOptional = false ∧ .mandatoryLinkNil job.name c.name = cause ∨
        found.isNil = false ∧ found.isMap = false ∧
          .invalidManifest job.name .consumes c.name found = cause) := by
  rw [consumedName]
  cases present : job.consumes.get? c.name with
  | none => simp
  | some found =>
      simp only [Option.some.injEq, exists_eq_left']
      cases off : found.isNil with
      | true => cases c.isOptional <;> simp
      | false => cases found <;> simp [Tree.isMap]

theorem consumedName_some {name : String} :
    job.consumedName c = .ok (some name) ↔
      (∀ found, job.consumes.get? c.name = some found → found.isMap = true) ∧
        job.soughtName c = name := by
  rw [consumedName, soughtName]
  cases present : job.consumes.get? c.name with
  | none => simp
  | some found =>
      cases found with
      | map entries => simp [Tree.isNil, Tree.isMap, Tree.entries]
      | null | bool | number | string | list =>
          simp only [Tree.isMap, Option.some.injEq, forall_eq', Bool.false_eq_true, false_and,
            iff_false]
          -- nothing but a mapping leads on to a name
          intro named
          split at named
          · split at named <;> cases named
          · cases named

theorem linkFor_error {cause : CompileError} :
    job.linkFor t c = .error cause ↔ job.Offends t c cause := by
  rw [linkFor, bind_error]
  constructor
  · intro fails
    rcases fails with unnamed | ⟨name, named, missing⟩
    · obtain ⟨found, present, ⟨off, mandatory, rfl⟩ | ⟨on, unreadable, rfl⟩⟩ :=
        consumedName_error.mp unnamed
      · exact .nil found present off mandatory
      · exact .settings found present on unreadable
    · cases name with
      | none => cases missing
      | some name =>
          obtain ⟨readable, rfl⟩ := consumedName_some.mp named
          cases absent : t.get? (c.type, job.soughtName c) with
          | some link => simp [absent, pure, Except.pure] at missing
          | none =>
              cases mandatory : c.isOptional with
              | true => simp [absent, mandatory, pure, Except.pure] at missing
              | false =>
                  simp only [absent, mandatory] at missing
                  cases missing
                  exact .unprovided readable absent mandatory
  · intro offends
    cases offends with
    | nil found present off mandatory =>
        exact .inl (consumedName_error.mpr ⟨found, present, .inl ⟨off, mandatory, rfl⟩⟩)
    | settings found present on unreadable =>
        exact .inl (consumedName_error.mpr ⟨found, present, .inr ⟨on, unreadable, rfl⟩⟩)
    | unprovided readable absent mandatory =>
        refine .inr ⟨some (job.soughtName c), consumedName_some.mpr ⟨readable, rfl⟩, ?_⟩
        simp only [absent, mandatory]
        rfl

theorem linkFor_iff {link : Option JobLink} :
    job.linkFor t c = .ok link ↔ (∀ cause, ¬job.Offends t c cause) ∧ link = job.linked t c := by
  constructor
  · intro done
    refine ⟨?_, linkFor_ok done⟩
    intro cause offends
    rw [linkFor_error.mpr offends] at done
    cases done
  · intro sound
    obtain ⟨blameless, rfl⟩ := sound
    cases outcome : job.linkFor t c with
    | error cause => exact absurd (linkFor_error.mp outcome) (blameless cause)
    | ok link => rw [linkFor_ok outcome]

theorem Offends.of_relaxes {loose : ConsumedLink} {cause : CompileError}
    (offends : job.Offends t loose cause) (relaxes : c.Relaxes loose) :
    ∃ before, job.Offends t c before := by
  obtain ⟨name, type, optional⟩ := relaxes
  have mandatory : loose.isOptional = false → c.isOptional = false := by
    intro strict
    rw [← Bool.not_eq_true] at strict ⊢
    exact mt optional strict
  cases offends with
  | nil found present off strict =>
      rw [name] at present
      exact ⟨_, .nil found present off (mandatory strict)⟩
  | settings found present on unreadable =>
      rw [name] at present
      exact ⟨_, .settings found present on unreadable⟩
  | unprovided readable absent strict =>
      rw [name] at readable
      rw [soughtName, name, type, ← soughtName] at absent
      exact ⟨_, .unprovided readable absent (mandatory strict)⟩

theorem supplied_of_relaxes {cs loose : List ConsumedLink}
    (relaxes : List.Forall₂ ConsumedLink.Relaxes cs loose) :
    job.supplied t loose = job.supplied t cs := by
  induction relaxes with
  | nil => rfl
  | @cons c loose _ _ first _ ih =>
      have linked : job.linked t loose = job.linked t c := by
        rw [linked, linked, switchesOff, switchesOff, soughtName, soughtName, first.name,
          first.type]
      rw [supplied_cons, supplied_cons, ih, linked, first.name]

end Job

namespace Linking

variable {job : Job} {t : ProviderTable}

theorem attach_error {links : Dict JobLink} {c : ConsumedLink} {cause : CompileError} :
    attach job t links c = .error cause ↔ job.Offends t c cause := by
  rw [attach, bind_error, Job.linkFor_error]
  constructor
  · intro fails
    rcases fails with offends | ⟨link, -, given⟩
    · exact offends
    · cases link <;> cases given
  · exact .inl

theorem attach_iff {links after : Dict JobLink} {cs : List ConsumedLink} :
    Progress.fold (attach job t) links cs = (after, none) ↔
      (∀ c ∈ cs, ∀ cause, ¬job.Offends t c cause) ∧
        after = (job.supplied t cs).foldl (fun links e => links.insert e.1 e.2) links := by
  induction cs generalizing links with
  | nil => simp [Progress.fold, Job.supplied, eq_comm]
  | cons c cs ih =>
      rw [List.forall_mem_cons]
      cases given : job.linkFor t c with
      | error cause =>
          have offends := Job.linkFor_error.mp given
          rw [Progress.fold_cons_fault cs (attach_error.mpr offends)]
          constructor
          · intro stopped
            cases stopped
          · intro both
            exact absurd offends (both.1.1 cause)
      | ok link =>
          obtain ⟨blameless, rfl⟩ := Job.linkFor_iff.mp given
          have step : attach job t links c = .ok (((job.linked t c).map (c.name, ·)).toList.foldl
              (fun links e => links.insert e.1 e.2) links) := by
            rw [attach, given]
            cases job.linked t c <;> rfl
          rw [Progress.fold_cons cs step, ih, Job.supplied_cons, List.foldl_append, and_assoc]
          exact (and_iff_right blameless).symm

theorem attach_fails {links : Dict JobLink} {cs : List ConsumedLink} {cause : CompileError} :
    (Progress.fold (attach job t) links cs).2 = some cause ↔
      ∃ before c behind, cs = before ++ c :: behind ∧
        (∀ earlier ∈ before, ∀ fault, ¬job.Offends t earlier fault) ∧ job.Offends t c cause := by
  constructor
  · intro stopped
    have fault : Progress.fold (attach job t) links cs =
        ((Progress.fold (attach job t) links cs).1, some cause) := by rw [← stopped]
    obtain ⟨before, c, behind, split, passed, refused⟩ := Progress.fold_fault.mp fault
    exact ⟨before, c, behind, split, (attach_iff.mp passed).1, attach_error.mp refused⟩
  · intro first
    obtain ⟨before, c, behind, split, blameless, offends⟩ := first
    have passed : Progress.fold (attach job t) links before = (_, none) :=
      attach_iff.mpr ⟨blameless, rfl⟩
    rw [Progress.fold_fault.mpr ⟨before, c, behind, split, passed, attach_error.mpr offends⟩]

theorem resolveJob_cached {l : Linking} {spec : JobSpec}
    (cached : l.specs.get? (job.release, job.name) = some spec) :
    l.resolveJob job =
      (job.withLinks (Progress.fold (attach job l.providers) job.resolved.consumes
          spec.consumes).1,
        (Progress.fold (attach job l.providers) job.resolved.consumes spec.consumes).2) := by
  rw [resolveJob, SpecCache.collected, cached]

theorem resolveJob_sound {l : Linking} {spec : JobSpec}
    (cached : l.specs.get? (job.release, job.name) = some spec)
    (blameless : ∀ c ∈ spec.consumes, ∀ cause, ¬job.Offends l.providers c cause) :
    l.resolveJob job =
      (job.withLinks ((job.supplied l.providers spec.consumes).foldl
        (fun links e => links.insert e.1 e.2) job.resolved.consumes), none) := by
  rw [resolveJob_cached cached, attach_iff.mpr ⟨blameless, rfl⟩]

/-- Resolving the consumers of a job fails exactly if one of them is at fault, for the cause of the
first. Otherwise the links that the table has for them are laid over those of the job and nothing
else is changed, and with consumers that have become optional it comes to the same. -/
theorem resolveJob_outcome {l : Linking} {job : Job} {spec : JobSpec}
    (cached : l.specs.get? (job.release, job.name) = some spec) :
    ((∃ cause, (l.resolveJob job).2 = some cause) ↔
      ∃ c ∈ spec.consumes, ∃ cause, job.Offends l.providers c cause) ∧
    (∀ cause, (l.resolveJob job).2 = some cause ↔
      ∃ before c behind, spec.consumes = before ++ c :: behind ∧
        (∀ earlier ∈ before, ∀ fault, ¬job.Offends l.providers earlier fault) ∧
        job.Offends l.providers c cause) ∧
    ((l.resolveJob job).2 = none →
      (l.resolveJob job).1 = { job with resolved := { job.resolved with
        consumes := (job.supplied l.providers spec.consumes).foldl
          (fun links e => links.insert e.1 e.2) job.resolved.consumes } }) ∧
    ∀ (other : Linking) (loose : JobSpec), other.providers = l.providers →
      other.specs.get? (job.release, job.name) = some loose →
      List.Forall₂ ConsumedLink.Relaxes spec.consumes loose.consumes →
      (l.resolveJob job).2 = none → other.resolveJob job = l.resolveJob job := by
  have fails : ∀ cause, (l.resolveJob job).2 = some cause ↔
      ∃ before c behind, spec.consumes = before ++ c :: behind ∧
        (∀ earlier ∈ before, ∀ fault, ¬job.Offends l.providers earlier fault) ∧
        job.Offends l.providers c cause := by
    intro cause
    rw [resolveJob_cached cached]
    exact attach_fails
  have offended : (∃ cause, (l.resolveJob job).2 = some cause) ↔
      ∃ c ∈ spec.consumes, ∃ cause, job.Offends l.providers c cause := by
    simp only [fails, exists_first, not_exists]
    constructor
    · intro first
      obtain ⟨cause, before, c, behind, split, blameless, offends⟩ := first
      exact ⟨before, c, behind, split, blameless, cause, offends⟩
    · intro first
      obtain ⟨before, c, behind, split, blameless, cause, offends⟩ := first
      exact ⟨cause, before, c, behind, split, blameless, offends⟩
  have blameless : (l.resolveJob job).2 = none →
      ∀ c ∈ spec.consumes, ∀ cause, ¬job.Offends l.providers c cause := by
    intro done c member cause offends
    obtain ⟨fault, stopped⟩ := offended.mpr ⟨c, member, cause, offends⟩
    rw [done] at stopped
    cases stopped
  refine ⟨offended, fails, ?_, ?_⟩
  · intro done
    rw [resolveJob_sound cached (blameless done)]
    rfl
  · intro other loose table again relaxes done
    have sound := blameless done
    rw [resolveJob_sound cached sound, resolveJob_sound again, table,
      Job.supplied_of_relaxes relaxes]
    intro c member cause offends
    rw [table] at offends
    obtain ⟨strict, inside, relaxed⟩ := exists_item relaxes member
    obtain ⟨before, offended⟩ := offends.of_relaxes relaxed
    exact sound strict inside before offended

end Linking

namespace Mixed

def link (host : String) : JobLink := ⟨[], .ofList [("host", .string host)]⟩

def consumers (required : Bool) : List ConsumedLink :=
  [⟨"db", "sql", !required⟩, ⟨"cache", "kv", true⟩, ⟨"log", "syslog", false⟩,
    ⟨"mail", "smtp", true⟩]

def linking (required : Bool) : Linking where
  specs := Registry.empty.add ("r", "app") ⟨"app", [], consumers required, ∅, ∅⟩
  providers := (Registry.empty.add ("sql", "main") (link "a")).add ("syslog", "log") (link "b")

def job (cache : Tree) : Job where
  name := "app"
  release := "r"
  properties := .unset
  provides := ∅
  consumes := .ofList [("db", .ofEntries [("from", .string "main")]), ("cache", cache)]
  resolved := { ResolvedJob.unset with consumes := .ofList [("old", link "c")] }

theorem relaxes : List.Forall₂ ConsumedLink.Relaxes (consumers true) (consumers false) := by
  refine .cons ⟨rfl, rfl, nofun⟩ ?_
  exact List.forall₂_same.mpr fun c _ => ⟨rfl, rfl, id⟩

end Mixed

/-- A cache that is switched off does no harm, but a list in its place does, optional as it is. -/
theorem resolveJob_outcome_mixed :
    ((Mixed.linking true).resolveJob (Mixed.job (.string "nil"))).1.resolved.consumes =
        .ofList [("db", Mixed.link "a"), ("log", Mixed.link "b"), ("old", Mixed.link "c")] ∧
      (Mixed.linking false).resolveJob (Mixed.job (.string "nil")) =
        (Mixed.linking true).resolveJob (Mixed.job (.string "nil")) ∧
      ∃ c ∈ Mixed.consumers true, ∃ cause,
        (Mixed.job (.list [])).Offends (Mixed.linking true).providers c cause := by
  have cached (cache : Tree) (required : Bool) : (Mixed.linking required).specs.get?
      ((Mixed.job cache).release, (Mixed.job cache).name) =
        some ⟨"app", [], Mixed.consumers required, ∅, ∅⟩ := by
    cases required <;> rfl
  have done : ((Mixed.linking true).resolveJob (Mixed.job (.string "nil"))).2 = none := by
    decide
  have stopped : ((Mixed.linking true).resolveJob (Mixed.job (.list []))).2 =
      some (.invalidManifest "app" .consumes "cache" (.list [])) := by decide
  obtain ⟨-, -, attached, relaxed⟩ := Linking.resolveJob_outcome (cached (.string "nil") true)
  obtain ⟨offended, -, -, -⟩ := Linking.resolveJob_outcome (cached (.list []) true)
  refine ⟨?_, relaxed _ _ rfl (cached _ false) Mixed.relaxes done, offended.mp ⟨_, stopped⟩⟩
  rw [attached done]
  decide

end JobContainers

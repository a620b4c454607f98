import JobContainers.Proofs.Declarations
import Mathlib.Data.Set.Card

/-!
A cache of specifications over time. Whatever happens to the files between two calls, a pair of
release and job keeps the specification of its first load that succeeded; a load that fails leaves
no trace, and pairs have nothing to do with each other.
-/

set_option autoImplicit false

namespace JobContainers.SpecCache

/-- A call on a cache, or a change of what stands below its base folder. -/
inductive Event where
  | load (release job : String)
  | get (release job : String)
  | change (nodes : List (FileTree.Place × FileTree.Node))

def Event.concerns (release job : String) : Event → Bool
  | .load r j | .get r j => (r, j) = (release, job)
  | .change _ => true

structure Session where
  specs : SpecCache
  files : FileTree

namespace Session

def start (files : FileTree) : Session := ⟨∅, files⟩

def load (s : Session) (release job : String) : Except CompileError JobSpec × Session :=
  match s.specs.load s.files release job with
  | .ok (spec, specs) => (.ok spec, { s with specs })
  | .error cause => (.error cause, s)

def get? (s : Session) (release job : String) : Option JobSpec := s.specs.get? (release, job)

def step (s : Session) : Event → Session
  | .load release job => (s.load release job).2
  | .get _ _ => s
  | .change nodes => { s with files := { s.files with nodes } }

def run (s : Session) (events : List Event) : Session := events.foldl step s

/-- One of the events is a load of the pair that succeeds. -/
def Loads (s : Session) (events : List Event) (release job : String) : Prop :=
  ∃ before behind spec, events = before ++ .load release job :: behind ∧
    ((s.run before).load release job).1 = .ok spec

variable {s : Session} {release job : String} {spec : JobSpec}

/-! One load -/

theorem load_of_held (held : s.get? release job = some spec) :
    s.load release job = (.ok spec, s) := by
  rw [get?] at held
  rw [load, SpecCache.load, held]

theorem load_of_free (free : s.get? release job = none) :
    (s.load release job).1 = JobSource.readSpec ⟨release, job⟩ s.files := by
  rw [get?] at free
  rw [load, SpecCache.load, free]
  cases JobSource.readSpec ⟨release, job⟩ s.files <;> rfl

theorem load_failed {cause : CompileError} (failed : (s.load release job).1 = .error cause) :
    (s.load release job).2 = s := by
  rw [load] at failed ⊢
  split at failed
  next => cases failed
  next => rfl

theorem files_load (s : Session) (release job : String) : (s.load release job).2.files = s.files := by
  rw [load]
  split <;> rfl

theorem get?_load (s : Session) (release job r j : String) :
    (s.load release job).2.get? r j = (s.get? r j).or
      (if (r, j) = (release, job) then (s.load release job).1.toOption else none) := by
  cases held : s.get? release job with
  | some spec =>
      rw [load_of_held held]
      split
      next same =>
        cases same
        rw [held, Option.some_or]
      next => rw [Option.or_none]
  | none =>
      rw [get?] at held
      rw [load, SpecCache.load, held]
      cases JobSource.readSpec ⟨release, job⟩ s.files with
      | error cause =>
          have nothing : (Except.error cause : Except CompileError JobSpec).toOption = none := rfl
          simp [Except.map, nothing]
      | ok spec => exact Registry.get?_add _ _ _ _

theorem get?_loaded (done : (s.load release job).1 = .ok spec) :
    (s.load release job).2.get? release job = some spec := by
  cases held : s.get? release job with
  | some old =>
      rw [load_of_held held] at done ⊢
      cases done
      exact held
  | none =>
      rw [get?_load, held, if_pos rfl, done]
      rfl

/-! Runs -/

theorem get?_step_of_held (held : s.get? release job = some spec) (e : Event) :
    (s.step e).get? release job = some spec := by
  cases e with
  | load r j => rw [step, get?_load, held, Option.some_or]
  | get r j => exact held
  | change nodes => exact held

theorem get?_run_of_held (held : s.get? release job = some spec) (events : List Event) :
    (s.run events).get? release job = some spec := by
  induction events generalizing s with
  | nil => exact held
  | cons e events ih => exact ih (get?_step_of_held held e)

theorem run_split (s : Session) (before behind : List Event) (e : Event) :
    s.run (before ++ e :: behind) = ((s.run before).step e).run behind := by
  rw [run, List.foldl_append, List.foldl_cons]
  rfl

theorem get?_run_of_loaded {before : List Event}
    (done : ((s.run before).load release job).1 = .ok spec) (behind : List Event) :
    (s.run (before ++ .load release job :: behind)).get? release job = some spec := by
  rw [run_split]
  exact get?_run_of_held (get?_loaded done) behind

theorem Loads.cons {e : Event} {events : List Event}
    (loads : (s.step e).Loads events release job) : s.Loads (e :: events) release job := by
  obtain ⟨before, behind, spec, rfl, done⟩ := loads
  exact ⟨e :: before, behind, spec, rfl, done⟩

theorem loads_of_run {events : List Event} (free : s.get? release job = none)
    (held : (s.run events).get? release job = some spec) : s.Loads events release job := by
  induction events generalizing s with
  | nil =>
      rw [run, List.foldl_nil, free] at held
      cases held
  | cons e events ih =>
      cases next : (s.step e).get? release job with
      | none => exact (ih next held).cons
      | some found =>
          -- the first event that leaves a specification is a load of the pair
          cases e with
          | load r j =>
              rw [step, get?_load, free, Option.none_or] at next
              split at next
              next same =>
                cases same
                cases answer : (s.load release job).1 with
                | error cause =>
                    rw [answer] at next
                    cases next
                | ok spec => exact ⟨[], events, spec, rfl, answer⟩
              next => cases next
          | get r j =>
              rw [step, free] at next
              cases next
          | change nodes =>
              have same : (s.step (.change nodes)).get? release job = s.get? release job := rfl
              rw [same, free] at next
              cases next

theorem held_iff {files : FileTree} {events : List Event} :
    (∃ spec, ((start files).run events).get? release job = some spec) ↔
      (start files).Loads events release job := by
  constructor
  · rintro ⟨spec, held⟩
    exact loads_of_run rfl held
  · rintro ⟨before, behind, spec, rfl, done⟩
    exact ⟨spec, get?_run_of_loaded done behind⟩

theorem free_of_not_loads {files : FileTree} {events : List Event}
    (never : ¬(start files).Loads events release job) :
    ((start files).run events).get? release job = none := by
  cases held : ((start files).run events).get? release job with
  | none => rfl
  | some spec => exact absurd (held_iff.mp ⟨spec, held⟩) never

theorem load_again {cause : CompileError} (failed : (s.load release job).1 = .error cause)
    {between : List Event} (apart : .load release job ∉ between) :
    ((s.run (.load release job :: between)).load release job).1 =
      JobSource.readSpec ⟨release, job⟩ (s.run (.load release job :: between)).files := by
  have kept : s.run (.load release job :: between) = s.run between := by
    rw [run, List.foldl_cons, step, load_failed failed, run]
  have free : s.get? release job = none := by
    cases held : s.get? release job with
    | none => rfl
    | some spec =>
        rw [load_of_held held] at failed
        cases failed
  rw [kept]
  apply load_of_free
  cases held : (s.run between).get? release job with
  | none => rfl
  | some spec =>
      obtain ⟨before, behind, -, rfl, -⟩ := loads_of_run free held
      exact absurd (List.mem_append_right before List.mem_cons_self) apart

theorem size_run (files : FileTree) (events : List Event) :
    ((start files).run events).specs.size =
      Set.ncard {key : String × String | (start files).Loads events key.1 key.2} := by
  have keys : {key : String × String | (start files).Loads events key.1 key.2} =
      ((((start files).run events).specs.entries.map (·.1)).toFinset : Set (String × String)) := by
    ext key
    rw [Set.mem_ofPred_eq, ← held_iff, Finset.mem_coe, List.mem_toFinset, ← not_iff_not,
      ← Registry.get?_eq_none_iff, ← Option.ne_none_iff_exists', not_not]
    rfl
  rw [keys, Set.ncard_coe_finset, List.toFinset_card_of_nodup (Registry.distinct _),
    List.length_map, Registry.size]

/-! Two sessions that have the same for one pair -/

structure Agrees (s other : Session) (release job : String) : Prop where
  files : s.files = other.files
  held : s.get? release job = other.get? release job

variable {other : Session}

theorem Agrees.load (agrees : s.Agrees other release job) :
    (s.load release job).1 = (other.load release job).1 := by
  cases held : s.get? release job with
  | some spec => rw [load_of_held held, load_of_held (agrees.held ▸ held)]
  | none => rw [load_of_free held, load_of_free (agrees.held ▸ held), agrees.files]

theorem Agrees.step (agrees : s.Agrees other release job) {e : Event}
    (concerned : e.concerns release job = true) :
    (s.step e).Agrees (other.step e) release job := by
  cases e with
  | load r j =>
      cases of_decide_eq_true concerned
      refine ⟨?_, ?_⟩
      · rw [Session.step, Session.step, files_load, files_load, agrees.files]
      · rw [Session.step, Session.step, get?_load, get?_load, agrees.held, agrees.load]
  | get r j => exact agrees
  | change nodes =>
      refine ⟨?_, agrees.held⟩
      rw [Session.step, Session.step, agrees.files]

theorem Agrees.skip (agrees : s.Agrees other release job) {e : Event}
    (apart : e.concerns release job = false) : (s.step e).Agrees other release job := by
  cases e with
  | load r j =>
      have differs : ¬(release, job) = (r, j) := fun same => of_decide_eq_false apart same.symm
      refine ⟨?_, ?_⟩
      · rw [Session.step, files_load, agrees.files]
      · rw [Session.step, get?_load, if_neg differs, Option.or_none, agrees.held]
  | get r j => exact agrees
  | change nodes => cases apart

theorem Agrees.run_filter (agrees : s.Agrees other release job) (events : List Event) :
    (s.run events).Agrees (other.run (events.filter (·.concerns release job))) release job := by
  induction events generalizing s other with
  | nil => exact agrees
  | cons e events ih =>
      cases concerned : e.concerns release job with
      | true =>
          rw [List.filter_cons_of_pos concerned]
          exact ih (agrees.step concerned)
      | false =>
          rw [List.filter_cons_of_neg (Bool.not_eq_true _ ▸ concerned)]
          exact ih (agrees.skip concerned)

/-- A specification is there exactly if a load of it succeeded before. What the first such load
read from the files is what every later call answers. A load that fails changes nothing, and the
next one reads the files again. There are as many specifications as pairs whose load succeeded, and
without the calls for other pairs those for this one have the same answers. -/
theorem run_writeOnce (files : FileTree) (events : List Event) (release job : String) :
    ((∃ spec, ((start files).run events).get? release job = some spec) ↔
      (start files).Loads events release job) ∧
    (∀ before behind spec, events = before ++ .load release job :: behind →
      ¬(start files).Loads before release job →
      (((start files).run before).load release job).1 = .ok spec →
        JobSource.readSpec ⟨release, job⟩ ((start files).run before).files = .ok spec ∧
        ((start files).run events).get? release job = some spec ∧
        (((start files).run events).load release job).1 = .ok spec) ∧
    (∀ cause, (((start files).run events).load release job).1 = .error cause →
      (((start files).run events).load release job).2 = (start files).run events ∧
      ∀ between, .load release job ∉ between →
        (((start files).run (events ++ .load release job :: between)).load release job).1 =
          JobSource.readSpec ⟨release, job⟩
            ((start files).run (events ++ .load release job :: between)).files) ∧
    ((start files).run events).specs.size =
      Set.ncard {key : String × String | (start files).Loads events key.1 key.2} ∧
    ((start files).run (events.filter (·.concerns release job))).get? release job =
      ((start files).run events).get? release job ∧
    (((start files).run (events.filter (·.concerns release job))).load release job).1 =
      (((start files).run events).load release job).1 := by
  have agrees : ((start files).run events).Agrees
      ((start files).run (events.filter (·.concerns release job))) release job :=
    Agrees.run_filter ⟨rfl, rfl⟩ events
  refine ⟨held_iff, ?_, ?_, size_run files events, agrees.held.symm, agrees.load.symm⟩
  · rintro before behind spec rfl never done
    have held := get?_run_of_loaded done behind
    refine ⟨?_, held, ?_⟩
    · rw [← load_of_free (free_of_not_loads never), done]
    · rw [load_of_held held]
  · intro cause failed
    refine ⟨load_failed failed, ?_⟩
    intro between apart
    have split : (start files).run (events ++ .load release job :: between) =
        ((start files).run events).run (.load release job :: between) := List.foldl_append
    rw [split]
    exact load_again failed apart

namespace Shared

def old : FileTree :=
  (FileTree.empty "base").write "jobs-src/r/x/j/job.MF" "name: old\n".toUTF8

def new : FileTree :=
  (FileTree.empty "base").write "jobs-src/r/x/j/job.MF" "name: new\n".toUTF8

def before : List Event := [.load "r/x" "j", .change old.nodes]

/-- Another pair loads the same file after a change, and then the file is removed. -/
def behind : List Event := [.change new.nodes, .load "r" "x/j", .get "r/x" "j", .change []]

def events : List Event := before ++ .load "r/x" "j" :: behind

def session (events : List Event) : Session := (start (.empty "base")).run events

end Shared

theorem run_writeOnce_shared :
    JobSource.specPath ⟨"r/x", "j"⟩ "base" = JobSource.specPath ⟨"r", "x/j"⟩ "base" ∧
      (∃ spec, spec.name = "old" ∧
        (Shared.session Shared.events).get? "r/x" "j" = some spec ∧
        ((Shared.session Shared.events).load "r/x" "j").1 = .ok spec) ∧
      (∃ spec, spec.name = "new" ∧ (Shared.session Shared.events).get? "r" "x/j" = some spec) ∧
      (Shared.session Shared.events).load "r" "j" =
        (.error (.specLoad "r" "j" (.unreadable "base/jobs-src/r/j/job.MF" .notFound)),
          Shared.session Shared.events) ∧
      Set.ncard {key : String × String |
        (start (.empty "base")).Loads Shared.events key.1 key.2} = 2 := by
  have never : ¬(start (.empty "base")).Loads Shared.before "r/x" "j" := by
    obtain ⟨exactly, -⟩ := run_writeOnce (.empty "base") Shared.before "r/x" "j"
    have free : (Shared.session Shared.before).get? "r/x" "j" = none := by decide +kernel
    rw [← exactly]
    rintro ⟨spec, held⟩
    cases free.symm.trans held
  obtain ⟨-, first, -, size, -, -⟩ := run_writeOnce (.empty "base") Shared.events "r/x" "j"
  obtain ⟨-, -, failing, -, -, -⟩ := run_writeOnce (.empty "base") Shared.events "r" "j"
  obtain ⟨-, -, -, -, alone, -⟩ := run_writeOnce (.empty "base") Shared.events "r" "x/j"
  obtain ⟨old, done, oldName⟩ : ∃ old,
      ((Shared.session Shared.before).load "r/x" "j").1 = .ok old ∧ old.name = "old" :=
    exists_ok (by decide +kernel)
  obtain ⟨-, held, answer⟩ := first Shared.before Shared.behind old rfl never done
  obtain ⟨new, own, newName⟩ : ∃ new,
      (Shared.session (Shared.events.filter (·.concerns "r" "x/j"))).get? "r" "x/j" = some new ∧
        new.name = "new" :=
    Option.map_eq_some_iff.mp (by decide +kernel)
  have failed : ((Shared.session Shared.events).load "r" "j").1 =
      .error (.specLoad "r" "j" (.unreadable "base/jobs-src/r/j/job.MF" .notFound)) := by
    decide +kernel
  refine ⟨by decide +kernel, ⟨old, oldName, held, answer⟩, ⟨new, newName, alone.symm.trans own⟩,
    Prod.ext failed (failing _ failed).1, size.symm.trans (by decide +kernel)⟩

end Session

end JobContainers.SpecCache

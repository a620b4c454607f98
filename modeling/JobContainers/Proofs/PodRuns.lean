import JobContainers.Proofs.HookRuns

/-!
The shells of a pod run as its hooks do. Every state that the shells come to is mirrored by a state
of the hooks, and whatever the hooks do next the shells can do.
-/

set_option autoImplicit false

namespace JobContainers

open Shell

/-- A state of the shells of a pod and the same state of its hooks. -/
structure Shutdown.Mirrors (hooks : List DrainHook) (a : Shutdown) (s : Pod) : Prop where
  files : s.files = a.stamps.image DrainHook.stampPath
  length : s.processes.length = hooks.length
  each : ∀ (i : Nat) (hook : DrainHook) (p : Process), hooks[i]? = some hook →
    s.processes[i]? = some p → hook.Runs p.history (a.phase i) ∧ hook.Shows (a.phase i) p.state

theorem DrainHook.At.not_gone {hook : DrainHook} {phase : Phase} {sh : Session}
    (stands : hook.At phase sh) (code : UInt8) : phase ≠ .gone code := by
  cases stands <;> exact nofun

theorem DrainHook.Shows.exited_iff {hook : DrainHook} {phase : Phase} {state : State}
    (shows' : hook.Shows phase state) (code : UInt8) :
    state = .exited code ↔ phase = .gone code := by
  cases state with
  | exited last =>
      have gone : phase = .gone last := shows'
      rw [gone, State.exited.injEq, Phase.gone.injEq]
  | running sh =>
      have comes : Session.Comes (hook.At phase) sh := shows'
      have stays : phase ≠ .gone code := by
        induction comes with
        | here stands => exact stands.not_gone code
        | on _ behind ih => exact ih behind
      exact iff_of_false nofun stays

namespace Shutdown

variable {hooks : List DrainHook} {a b : Shutdown} {s t : Pod}

theorem Mirrors.placed (mirrors : Mirrors hooks a s) {i : Nat} {p : Process}
    (found : s.processes[i]? = some p) : ∃ hook, hooks[i]? = some hook := by
  obtain ⟨bound, -⟩ := List.getElem?_eq_some_iff.mp found
  rw [mirrors.length] at bound
  exact ⟨_, List.getElem?_eq_getElem bound⟩

theorem Mirrors.process (mirrors : Mirrors hooks a s) {i : Nat} {hook : DrainHook}
    (placed : hooks[i]? = some hook) : ∃ p, s.processes[i]? = some p := by
  obtain ⟨bound, -⟩ := List.getElem?_eq_some_iff.mp placed
  rw [← mirrors.length] at bound
  exact ⟨_, List.getElem?_eq_getElem bound⟩

theorem Mirrors.touched_iff (mirrors : Mirrors hooks a s) {i n : Nat} {name : String} {p : Process}
    (leads : hooks[i]? = some (.leader name n)) (found : s.processes[i]? = some p) :
    Event.touched (DrainHook.stampPath name) ∈ p.history ↔ (a.phase i).settled = true :=
  (mirrors.each i _ p leads found).1.settled_iff.symm

theorem Mirrors.exited_iff (mirrors : Mirrors hooks a s) {i : Nat} {hook : DrainHook} {p : Process}
    (placed : hooks[i]? = some hook) (found : s.processes[i]? = some p) (code : UInt8) :
    p.state = .exited code ↔ a.phase i = .gone code :=
  (mirrors.each i hook p placed found).2.exited_iff code

theorem Mirrors.histories (mirrors : Mirrors hooks a s) :
    List.Forall₂ (fun hook (p : Process) => ∃ phase, hook.Runs p.history phase ∧
      ∀ code, p.state = .exited code ↔ phase = .gone code) hooks s.processes := by
  rw [List.forall₂_iff_get]
  refine ⟨mirrors.length.symm, ?_⟩
  intro i first second
  have placed := List.getElem?_eq_getElem first
  have found := List.getElem?_eq_getElem second
  exact ⟨a.phase i, (mirrors.each i _ _ placed found).1, mirrors.exited_iff placed found⟩

theorem Mirrors.move (mirrors : Mirrors hooks a s) {i : Nat} {hook : DrainHook} {phase : Phase}
    {stamps : Finset String} {history : List Event} {state : State} (placed : hooks[i]? = some hook)
    (runs : hook.Runs history phase) (shows' : hook.Shows phase state) :
    Mirrors hooks (a.move i stamps phase)
      ⟨stamps.image DrainHook.stampPath, s.processes.set i ⟨history, state⟩⟩ where
  files := rfl
  length := by rw [List.length_set, mirrors.length]
  each j other p present found := by
    by_cases moved : j = i
    · subst j
      cases placed.symm.trans present
      obtain ⟨bound, -⟩ := List.getElem?_eq_some_iff.mp placed
      rw [← mirrors.length] at bound
      rw [List.getElem?_set_self bound] at found
      cases found
      rw [phase_move]
      exact ⟨runs, shows'⟩
    · rw [List.getElem?_set_ne (Ne.symm moved)] at found
      rw [phase_move_of_ne a _ _ moved]
      exact mirrors.each j other p present found

theorem Mirrors.stay (mirrors : Mirrors hooks a s) {i : Nat} {hook : DrainHook}
    {history : List Event} {state : State} (placed : hooks[i]? = some hook)
    (runs : hook.Runs history (a.phase i)) (shows' : hook.Shows (a.phase i) state) :
    Mirrors hooks a ⟨s.files, s.processes.set i ⟨history, state⟩⟩ := by
  have same : a.move i a.stamps (a.phase i) = a := by simp [Shutdown.move]
  have moved : Mirrors hooks (a.move i a.stamps (a.phase i)) _ := mirrors.move placed runs shows'
  rwa [same, ← mirrors.files] at moved

theorem path_of_comes {goal : Session → Prop} {i : Nat} {history : List Event} {sh : Session}
    (comes : Session.Comes goal sh) (found : s.processes[i]? = some ⟨history, .running sh⟩) :
    ∃ sh', goal sh' ∧ Relation.ReflTransGen Pod.Step s
      ⟨s.files, s.processes.set i ⟨history, .running sh'⟩⟩ := by
  induction comes generalizing s with
  | @here sh reached =>
      obtain ⟨bound, same⟩ := List.getElem?_eq_some_iff.mp found
      have kept : s.processes.set i ⟨history, .running sh⟩ = s.processes := by
        rw [← same, List.set_getElem_self]
      exact ⟨sh, reached, by rw [kept]⟩
  | @on sh next move behind ih =>
      obtain ⟨bound, -⟩ := List.getElem?_eq_some_iff.mp found
      have step := Pod.Step.move found move (.silent next)
      rw [Option.toList_none, List.append_nil] at step
      obtain ⟨sh', reached, path⟩ := ih (s := ⟨s.files, s.processes.set i ⟨history, .running next⟩⟩)
        (List.getElem?_set_self bound)
      rw [List.set_set] at path
      exact ⟨sh', reached, .head step path⟩

section Plain

variable (plain : ∀ hook ∈ hooks, ∀ job, hook.stampName? = some job → plainName job = true)

include plain

theorem plain_stamps (inv : Invariant hooks a) : ∀ name ∈ a.stamps, plainName name = true := by
  intro name member
  obtain ⟨i, n, leads, -⟩ := (inv.stamped name).mp member
  exact plain _ (List.mem_of_getElem? leads) name rfl

theorem mirrors_start : Mirrors hooks (initial hooks) (Pod.start (hooks.map DrainHook.program)) where
  files := rfl
  length := by simp [Pod.start]
  each i hook p placed found := by
    have started : p = ⟨[], .running (.start hook.program)⟩ := by
      simpa [Pod.start, placed] using found.symm
    subst started
    rw [initial_phase placed]
    exact ⟨.start, DrainHook.comes_begin (plain hook (List.mem_of_getElem? placed))⟩

/-- Whatever a shell does is a step of its hook or none. -/
theorem Mirrors.step (inv : Invariant hooks a) (mirrors : Mirrors hooks a s)
    (step : Pod.Step s t) : ∃ b, Relation.ReflTransGen (Step hooks) a b ∧ Mirrors hooks b t := by
  rcases step with @⟨i, history, sh, m, event, files, state, found, move, result⟩
  obtain ⟨hook, placed⟩ := mirrors.placed found
  obtain ⟨runs, comes⟩ := mirrors.each i hook _ placed found
  rw [mirrors.files] at result
  -- either the shell is still on its way to the phase, or it stands there
  cases comes with
  | on silent behind =>
      cases silent.symm.trans move
      cases result
      rw [← mirrors.files, Option.toList_none, List.append_nil]
      exact ⟨a, .refl, mirrors.stay placed runs behind⟩
  | here stands =>
      obtain ⟨m', same, offers⟩ := stands.offers (plain hook (List.mem_of_getElem? placed))
      cases same.symm.trans move
      obtain ⟨stamps, phase, rfl, shows', ⟨rfl, rfl, rfl⟩ | step⟩ :=
        offers.sound (plain_stamps plain inv) result
      · rw [← mirrors.files, Option.toList_none, List.append_nil]
        exact ⟨a, .refl, mirrors.stay placed runs shows'⟩
      · exact ⟨_, .single (.move placed step), mirrors.move placed (runs.step step) shows'⟩

theorem mirrored {s : Pod} (reached : Pod.Reachable (hooks.map DrainHook.program) s) :
    ∃ a, Reachable hooks a ∧ Mirrors hooks a s := by
  induction reached with
  | refl => exact ⟨_, .refl, mirrors_start plain⟩
  | tail _ step ih =>
      obtain ⟨a, come, mirrors⟩ := ih
      obtain ⟨b, path, further⟩ := mirrors.step plain (reachable_invariant come) step
      exact ⟨b, come.trans path, further⟩

/-- Whatever a hook does next its shell can do. -/
theorem Mirrors.follow (inv : Invariant hooks a) (mirrors : Mirrors hooks a s)
    (step : Step hooks a b) : ∃ t, Relation.ReflTransGen Pod.Step s t ∧ Mirrors hooks b t := by
  rcases step with @⟨i, hook, event, stamps, phase, placed, step⟩
  obtain ⟨⟨history, state⟩, found⟩ := mirrors.process placed
  obtain ⟨runs, comes⟩ := mirrors.each i hook _ placed found
  cases state with
  | exited code =>
      -- nobody moves on from the end
      have gone : a.phase i = .gone code := comes
      generalize a.phase i = current at step gone
      subst gone
      cases step
  | running sh =>
      obtain ⟨bound, -⟩ := List.getElem?_eq_some_iff.mp found
      obtain ⟨sh', stands, path⟩ := path_of_comes comes found
      obtain ⟨m, move, offers⟩ := stands.offers (plain hook (List.mem_of_getElem? placed))
      obtain ⟨state, result, shows'⟩ := offers.complete (plain_stamps plain inv) step
      rw [← mirrors.files] at result
      have last := Pod.Step.move (s := ⟨s.files, s.processes.set i ⟨history, .running sh'⟩⟩)
        (List.getElem?_set_self bound) move result
      rw [List.set_set] at last
      exact ⟨_, path.tail last, mirrors.move placed (runs.step step) shows'⟩

theorem Mirrors.follow_path (inv : Invariant hooks a) (mirrors : Mirrors hooks a s)
    (path : Relation.ReflTransGen (Step hooks) a b) :
    ∃ t, Relation.ReflTransGen Pod.Step s t ∧ Mirrors hooks b t := by
  induction path using Relation.ReflTransGen.head_induction_on generalizing s with
  | refl => exact ⟨s, .refl, mirrors⟩
  | head step _ ih =>
      obtain ⟨t, first, further⟩ := mirrors.follow plain inv step
      obtain ⟨u, path, last⟩ := ih (step_invariant inv step) further
      exact ⟨u, first.trans path, last⟩

end Plain

end Shutdown

end JobContainers

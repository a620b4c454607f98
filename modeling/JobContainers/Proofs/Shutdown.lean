import JobContainers.Proofs.HookText
import JobContainers.Proofs.ShellRuns
import Mathlib.Algebra.Order.BigOperators.Group.Finset

/-!
The hooks of a pod as programs that run side by side. They see each other only through the stamps,
and only count them; that a full count means a stamp of every job is an invariant of all runs.
-/

set_option autoImplicit false

namespace JobContainers

inductive Phase where
  | started
  /-- In front of the drain script, for the first time or again. -/
  | draining
  | drained (code : UInt8)
  | waiting (code : UInt8)
  /-- Behind a count of enough stamps. -/
  | leaving (code : UInt8)
  | gone (code : UInt8)

namespace Phase

def settled : Phase → Bool
  | waiting _ | leaving _ | gone _ => true
  | _ => false

def released : Phase → Bool
  | leaving _ | gone _ => true
  | _ => false

def remaining : Phase → Nat
  | started => 5
  | draining => 4
  | drained _ => 3
  | waiting _ => 2
  | leaving _ => 1
  | gone _ => 0

end Phase

namespace DrainHook

def begin : DrainHook → Phase
  | leader _ _ => .started
  | follower _ => .waiting 0

/-- The number of stamps that a listing shows: a name without characters leaves no file. -/
def listed (stamps : Finset String) : Nat := (stamps.erase "").card

/-- What a hook does next, with what is seen of it. A run of the drain script has an exit code and
a number as its output. -/
inductive Step : DrainHook → Finset String → Phase → Option Shell.Event → Finset String →
    Phase → Prop
  | missing (job : String) (n : Nat) (stamps : Finset String) :
      Step (leader job n) stamps .started (some (.checked (drainPath job) false)) stamps (.drained 0)
  | found (job : String) (n : Nat) (stamps : Finset String) :
      Step (leader job n) stamps .started (some (.checked (drainPath job) true)) stamps .draining
  | fails (job : String) (n : Nat) (stamps : Finset String) (code : UInt8) (output : Int)
      (failed : code ≠ 0) :
      Step (leader job n) stamps .draining (some (.ran (drainPath job) code output)) stamps
        (.drained code)
  | again (job : String) (n : Nat) (stamps : Finset String) (output : Int) (negative : output < 0) :
      Step (leader job n) stamps .draining (some (.ran (drainPath job) 0 output)) stamps .draining
  | ends (job : String) (n : Nat) (stamps : Finset String) (output : Int) (static : 0 ≤ output) :
      Step (leader job n) stamps .draining (some (.ran (drainPath job) 0 output)) stamps (.drained 0)
  | stamp (job : String) (n : Nat) (stamps : Finset String) (code : UInt8) :
      Step (leader job n) stamps (.drained code) (some (.touched (stampPath job)))
        (insert job stamps) (.waiting code)
  | release (hook : DrainHook) (stamps : Finset String) (code : UInt8)
      (enough : hook.stamps ≤ listed stamps) :
      Step hook stamps (.waiting code) none stamps (.leaving code)
  | leave (hook : DrainHook) (stamps : Finset String) (code : UInt8) :
      Step hook stamps (.leaving code) (some (.exited code)) stamps (.gone code)

inductive Runs (hook : DrainHook) : List Shell.Event → Phase → Prop
  | start : Runs hook [] hook.begin
  | step {history : List Shell.Event} {event : Option Shell.Event} {stamps stamps' : Finset String}
      {phase phase' : Phase} (run : Runs hook history phase)
      (step : hook.Step stamps phase event stamps' phase') :
      Runs hook (history ++ event.toList) phase'

theorem Runs.settled_iff {job : String} {n : Nat} {history : List Shell.Event} {phase : Phase}
    (run : (leader job n).Runs history phase) :
    phase.settled = true ↔ Shell.Event.touched (stampPath job) ∈ history := by
  induction run with
  | start => simp [begin, Phase.settled]
  | step _ step ih =>
      cases step <;> simp_all [Phase.settled]

end DrainHook

structure Shutdown where
  stamps : Finset String
  phase : Nat → Phase

namespace Shutdown

def initial (hooks : List DrainHook) : Shutdown :=
  ⟨∅, fun i => (hooks[i]?.map DrainHook.begin).getD .started⟩

def move (s : Shutdown) (i : Nat) (stamps : Finset String) (phase : Phase) : Shutdown :=
  ⟨stamps, Function.update s.phase i phase⟩

theorem stamps_move (s : Shutdown) (i : Nat) (stamps : Finset String) (phase : Phase) :
    (s.move i stamps phase).stamps = stamps := rfl

theorem phase_move (s : Shutdown) (i : Nat) (stamps : Finset String) (phase : Phase) :
    (s.move i stamps phase).phase i = phase := by
  simp [move]

theorem phase_move_of_ne (s : Shutdown) {i j : Nat} (stamps : Finset String) (phase : Phase)
    (other : j ≠ i) : (s.move i stamps phase).phase j = s.phase j := by
  simp [move, other]

inductive Step (hooks : List DrainHook) : Shutdown → Shutdown → Prop
  | move {s : Shutdown} {i : Nat} {hook : DrainHook} {event : Option Shell.Event}
      {stamps : Finset String} {phase : Phase} (placed : hooks[i]? = some hook)
      (step : hook.Step s.stamps (s.phase i) event stamps phase) :
      Step hooks s (s.move i stamps phase)

def Reachable (hooks : List DrainHook) (s : Shutdown) : Prop :=
  Relation.ReflTransGen (Step hooks) (initial hooks) s

/-- Stamps are those of leaders that have settled, and who waits no more has seen enough of them. -/
structure Invariant (hooks : List DrainHook) (s : Shutdown) : Prop where
  stamped : ∀ name, name ∈ s.stamps ↔
    ∃ i n, hooks[i]? = some (.leader name n) ∧ (s.phase i).settled = true
  enough : ∀ i hook, hooks[i]? = some hook → (s.phase i).released = true →
    hook.stamps ≤ DrainHook.listed s.stamps
  follows : ∀ i n, hooks[i]? = some (.follower n) → (s.phase i).settled = true

variable {hooks : List DrainHook} {s t : Shutdown}

theorem initial_phase {i : Nat} {hook : DrainHook} (placed : hooks[i]? = some hook) :
    (initial hooks).phase i = hook.begin := by
  have phase : (initial hooks).phase i = (hooks[i]?.map DrainHook.begin).getD .started := rfl
  rw [phase, placed]
  rfl

theorem initial_invariant (hooks : List DrainHook) : Invariant hooks (initial hooks) where
  stamped name := by
    constructor
    · intro member
      exact absurd member (Finset.notMem_empty name)
    · rintro ⟨i, n, leads, settled⟩
      rw [initial_phase leads] at settled
      exact absurd settled Bool.false_ne_true
  enough i hook placed released := by
    rw [initial_phase placed] at released
    cases hook <;> cases released
  follows i n placed := by
    rw [initial_phase placed]
    rfl

theorem listed_le_card (stamps : Finset String) : DrainHook.listed stamps ≤ stamps.card :=
  Finset.card_le_card (Finset.erase_subset "" stamps)

theorem listed_mono {stamps more : Finset String} (within : stamps ⊆ more) :
    DrainHook.listed stamps ≤ DrainHook.listed more :=
  Finset.card_le_card (Finset.erase_subset_erase "" within)

theorem Invariant.quiet {i : Nat} {hook : DrainHook} {phase : Phase} (inv : Invariant hooks s)
    (placed : hooks[i]? = some hook) (follows : ∀ n, hook = .follower n → phase.settled = true)
    (settles : ∀ name n, hook = .leader name n → phase.settled = (s.phase i).settled)
    (leaves : phase.released = true → hook.stamps ≤ DrainHook.listed s.stamps) :
    Invariant hooks (s.move i s.stamps phase) := by
  have same : ∀ j name n, hooks[j]? = some (.leader name n) →
      ((s.move i s.stamps phase).phase j).settled = (s.phase j).settled := by
    intro j name n leads
    by_cases moved : j = i
    · subst j
      rw [phase_move]
      exact settles name n (Option.some.inj (placed.symm.trans leads))
    · rw [phase_move_of_ne s _ _ moved]
  constructor
  · intro name
    rw [stamps_move, inv.stamped name]
    constructor
    · rintro ⟨j, n, leads, settled⟩
      exact ⟨j, n, leads, (same j name n leads).trans settled⟩
    · rintro ⟨j, n, leads, settled⟩
      exact ⟨j, n, leads, (same j name n leads).symm.trans settled⟩
  · intro j other present released
    by_cases moved : j = i
    · subst j
      cases placed.symm.trans present
      exact leaves (by rwa [phase_move] at released)
    · rw [phase_move_of_ne s _ _ moved] at released
      exact inv.enough j other present released
  · intro j n present
    by_cases moved : j = i
    · subst j
      rw [phase_move]
      exact follows n (Option.some.inj (placed.symm.trans present))
    · rw [phase_move_of_ne s _ _ moved]
      exact inv.follows j n present

theorem Invariant.stamp {i n : Nat} {code : UInt8} {job : String} (inv : Invariant hooks s)
    (placed : hooks[i]? = some (.leader job n)) (pending : (s.phase i).settled = false) :
    Invariant hooks (s.move i (insert job s.stamps) (.waiting code)) := by
  constructor
  · intro name
    rw [stamps_move, Finset.mem_insert, inv.stamped name]
    constructor
    · rintro (rfl | ⟨j, m, leads, settled⟩)
      · exact ⟨i, n, placed, by rw [phase_move]; rfl⟩
      · have others : j ≠ i := by
          rintro rfl
          exact absurd (settled.symm.trans pending) (by decide)
        exact ⟨j, m, leads, by rwa [phase_move_of_ne s _ _ others]⟩
    · rintro ⟨j, m, leads, settled⟩
      by_cases moved : j = i
      · subst j
        cases placed.symm.trans leads
        exact .inl rfl
      · rw [phase_move_of_ne s _ _ moved] at settled
        exact .inr ⟨j, m, leads, settled⟩
  · intro j other present released
    by_cases moved : j = i
    · subst j
      rw [phase_move] at released
      cases released
    · rw [phase_move_of_ne s _ _ moved] at released
      exact (inv.enough j other present released).trans
        (listed_mono (Finset.subset_insert job s.stamps))
  · intro j m present
    have others : j ≠ i := by
      rintro rfl
      cases placed.symm.trans present
    rw [phase_move_of_ne s _ _ others]
    exact inv.follows j m present

theorem step_invariant (inv : Invariant hooks s) (step : Step hooks s t) : Invariant hooks t := by
  rcases step with ⟨placed, step⟩
  -- only a leader that has drained touches the stamps, all other steps are quiet
  generalize current : s.phase _ = phase at step
  cases step with
  | missing | found | fails | again | ends =>
      exact inv.quiet placed nofun (by rw [current]; intros; rfl) nofun
  | stamp job n stamps code => exact inv.stamp placed (by rw [current]; rfl)
  | release hook stamps code enough =>
      exact inv.quiet placed (fun _ _ => rfl) (by rw [current]; intros; rfl) fun _ => enough
  | leave hook stamps code =>
      have enough := inv.enough _ _ placed (by rw [current]; rfl)
      exact inv.quiet placed (fun _ _ => rfl) (by rw [current]; intros; rfl) fun _ => enough

theorem reachable_invariant (reached : Reachable hooks s) : Invariant hooks s := by
  induction reached with
  | refl => exact initial_invariant hooks
  | tail _ step ih => exact step_invariant ih step

theorem mem_stampNames {name : String} : name ∈ hooks.filterMap DrainHook.stampName? ↔
    ∃ (i : Nat) (n : Nat), hooks[i]? = some (.leader name n) := by
  constructor
  · intro member
    obtain ⟨hook, placed, named⟩ := List.mem_filterMap.mp member
    obtain ⟨i, found⟩ := List.mem_iff_getElem?.mp placed
    cases hook with
    | leader job n =>
        cases named
        exact ⟨i, n, found⟩
    | follower n => cases named
  · rintro ⟨i, n, leads⟩
    exact List.mem_filterMap.mpr ⟨_, List.mem_of_getElem? leads, rfl⟩

theorem stamps_subset_names (inv : Invariant hooks s) :
    s.stamps ⊆ (hooks.filterMap DrainHook.stampName?).toFinset := by
  intro name member
  obtain ⟨i, n, leads, -⟩ := (inv.stamped name).mp member
  exact List.mem_toFinset.mpr (mem_stampNames.mpr ⟨i, n, leads⟩)

def Stamped (hooks : List DrainHook) (s : Shutdown) : Prop :=
  ∀ (i : Nat) (name : String) (n : Nat), hooks[i]? = some (.leader name n) →
    (s.phase i).settled = true

theorem stamps_of_stamped (inv : Invariant hooks s) (stamped : Stamped hooks s) :
    s.stamps = (hooks.filterMap DrainHook.stampName?).toFinset := by
  apply (stamps_subset_names inv).antisymm
  intro name member
  obtain ⟨i, n, leads⟩ := mem_stampNames.mp (List.mem_toFinset.mp member)
  exact (inv.stamped name).mpr ⟨i, n, leads, stamped i name n leads⟩

theorem card_toFinset_eq_length {names : List String} :
    names.toFinset.card = names.length ↔ names.Nodup := by
  rw [← Multiset.coe_nodup, ← Multiset.toFinset_card_eq_card_iff_nodup]
  rfl

/-- As many names as are counted by position are listed only if they differ and none is empty. -/
theorem length_le_listed {names : List String} :
    names.length ≤ DrainHook.listed names.toFinset ↔ names.Nodup ∧ "" ∉ names := by
  have few := List.toFinset_card_le names
  have fewer := listed_le_card names.toFinset
  constructor
  · intro enough
    have all : names.toFinset.card = names.length := le_antisymm few (enough.trans fewer)
    refine ⟨card_toFinset_eq_length.mp all, ?_⟩
    intro member
    have less := Finset.card_erase_lt_of_mem (List.mem_toFinset.mpr member)
    rw [DrainHook.listed] at enough
    omega
  · rintro ⟨distinct, full⟩
    rw [DrainHook.listed, Finset.erase_eq_of_notMem (by simpa using full),
      List.toFinset_card_of_nodup distinct]

def Advances (hooks : List DrainHook) (s : Shutdown) : Prop :=
  ∃ (i : Nat) (hook : DrainHook) (event : Option Shell.Event) (stamps : Finset String)
    (phase : Phase), hooks[i]? = some hook ∧
      hook.Step s.stamps (s.phase i) event stamps phase ∧
      phase.remaining < (s.phase i).remaining

theorem leader_advances {i n : Nat} {name : String} (leads : hooks[i]? = some (.leader name n))
    (busy : (s.phase i).settled = false) : Advances hooks s := by
  suffices step : ∃ event stamps phase,
      (DrainHook.leader name n).Step s.stamps (s.phase i) event stamps phase ∧
        phase.remaining < (s.phase i).remaining by
    obtain ⟨event, stamps, phase, step⟩ := step
    exact ⟨i, _, event, stamps, phase, leads, step⟩
  cases current : s.phase i with
  | started => exact ⟨_, _, _, .missing name n s.stamps, by decide⟩
  | draining => exact ⟨_, _, _, .ends name n s.stamps 0 (le_refl 0), by decide⟩
  | drained code => exact ⟨_, _, _, .stamp name n s.stamps code, Nat.lt_add_one 2⟩
  | waiting code | leaving code | gone code => rw [current] at busy; cases busy

def work (hooks : List DrainHook) (s : Shutdown) : Nat :=
  ∑ i ∈ Finset.range hooks.length, (s.phase i).remaining

theorem Advances.step (advances : Advances hooks s) :
    ∃ t, Step hooks s t ∧ work hooks t < work hooks s := by
  obtain ⟨i, hook, event, stamps, phase, placed, step, less⟩ := advances
  refine ⟨_, .move placed step, ?_⟩
  obtain ⟨bound, -⟩ := List.getElem?_eq_some_iff.mp placed
  apply Finset.sum_lt_sum
  · intro j _
    by_cases moved : j = i
    · subst j
      rw [phase_move]
      exact less.le
    · rw [phase_move_of_ne s _ _ moved]
  · refine ⟨i, Finset.mem_range.mpr bound, ?_⟩
    rwa [phase_move]

/-- Hooks that agree on a number of stamps, with a leader for each of as many names. -/
structure Agreement (hooks : List DrainHook) (names : List String) : Prop where
  leaders : hooks.filterMap DrainHook.stampName? = names
  agreed : ∀ hook ∈ hooks, hook.stamps = names.length

section Agreed

variable {names : List String} (agreement : Agreement hooks names)

include agreement

theorem mem_names {i n : Nat} {name : String} (leads : hooks[i]? = some (.leader name n)) :
    name ∈ names := by
  rw [← agreement.leaders]
  exact mem_stampNames.mpr ⟨i, n, leads⟩

theorem exists_leader {name : String} (member : name ∈ names) :
    ∃ i : Nat, hooks[i]? = some (DrainHook.leader name names.length) := by
  rw [← agreement.leaders] at member
  obtain ⟨hook, placed, named⟩ := List.mem_filterMap.mp member
  obtain ⟨i, found⟩ := List.mem_iff_getElem?.mp placed
  have stamps := agreement.agreed hook placed
  cases hook with
  | leader job n =>
      cases named
      cases stamps
      exact ⟨i, found⟩
  | follower n => cases named

theorem stamps_subset (inv : Invariant hooks s) : s.stamps ⊆ names.toFinset := by
  rw [← agreement.leaders]
  exact stamps_subset_names inv

theorem card_stamps_le (inv : Invariant hooks s) : s.stamps.card ≤ names.length :=
  (Finset.card_le_card (stamps_subset agreement inv)).trans (List.toFinset_card_le names)

theorem stamps_of_released (inv : Invariant hooks s) {i : Nat} {hook : DrainHook}
    (placed : hooks[i]? = some hook) (released : (s.phase i).released = true) :
    s.stamps = names.toFinset ∧ names.Nodup ∧ "" ∉ names := by
  have enough := inv.enough i hook placed released
  rw [agreement.agreed hook (List.mem_of_getElem? placed)] at enough
  have within := stamps_subset agreement inv
  have distinct := length_le_listed.mp (enough.trans (listed_mono within))
  refine ⟨Finset.eq_of_subset_of_card_le within ?_, distinct⟩
  rw [List.toFinset_card_of_nodup distinct.1]
  exact enough.trans (listed_le_card s.stamps)

section Distinct

variable (distinct : names.Nodup)

include distinct

theorem leader_unique {i j m n : Nat} {name : String} (first : hooks[i]? = some (.leader name m))
    (second : hooks[j]? = some (.leader name n)) : i = j := by
  have apart := distinct
  rw [← agreement.leaders, List.Nodup, List.pairwise_filterMap, List.pairwise_iff_getElem] at apart
  obtain ⟨inFirst, isFirst⟩ := List.getElem?_eq_some_iff.mp first
  obtain ⟨inSecond, isSecond⟩ := List.getElem?_eq_some_iff.mp second
  rcases Nat.lt_trichotomy i j with before | same | behind
  · have differ := apart i j inFirst inSecond before name (by rw [isFirst]; rfl) name
      (by rw [isSecond]; rfl)
    exact absurd rfl differ
  · exact same
  · have differ := apart j i inSecond inFirst behind name (by rw [isSecond]; rfl) name
      (by rw [isFirst]; rfl)
    exact absurd rfl differ

theorem leader_settled (inv : Invariant hooks s) {i n : Nat} {name : String}
    (leads : hooks[i]? = some (.leader name n)) :
    (s.phase i).settled = true ↔ name ∈ s.stamps := by
  constructor
  · intro settled
    exact (inv.stamped name).mpr ⟨i, n, leads, settled⟩
  · intro member
    obtain ⟨j, m, other, settled⟩ := (inv.stamped name).mp member
    rwa [leader_unique agreement distinct leads other]

variable (full : "" ∉ names)

include full

theorem waiting_advances (inv : Invariant hooks s) {i : Nat} {code : UInt8} {hook : DrainHook}
    (placed : hooks[i]? = some hook) (waits : s.phase i = .waiting code) : Advances hooks s := by
  by_cases missing : ∃ name ∈ names, name ∉ s.stamps
  · -- a stamp is missing, so its leader is still busy
    obtain ⟨name, member, absent⟩ := missing
    obtain ⟨j, leads⟩ := exists_leader agreement member
    have busy : (s.phase j).settled = false := by
      rw [Bool.eq_false_iff]
      intro settled
      exact absent ((leader_settled agreement distinct inv leads).mp settled)
    exact leader_advances leads busy
  · have all : names.toFinset ⊆ s.stamps := by
      intro name member
      by_contra absent
      exact missing ⟨name, List.mem_toFinset.mp member, absent⟩
    have enough : hook.stamps ≤ DrainHook.listed s.stamps := by
      rw [agreement.agreed hook (List.mem_of_getElem? placed)]
      exact (length_le_listed.mpr ⟨distinct, full⟩).trans (listed_mono all)
    have step : hook.Step s.stamps (s.phase i) none s.stamps (.leaving code) := by
      rw [waits]
      exact .release hook s.stamps code enough
    exact ⟨i, hook, _, _, _, placed, step, by rw [waits]; exact Nat.lt_add_one 1⟩

theorem advances (inv : Invariant hooks s) {i : Nat} {hook : DrainHook}
    (placed : hooks[i]? = some hook) (stays : ∀ code, s.phase i ≠ .gone code) :
    Advances hooks s := by
  cases settled : (s.phase i).settled with
  | false =>
      cases hook with
      | leader job n => exact leader_advances placed settled
      | follower n =>
          rw [inv.follows i n placed] at settled
          cases settled
  | true =>
      cases current : s.phase i with
      | waiting code => exact waiting_advances agreement distinct full inv placed current
      | leaving code =>
          have step : hook.Step s.stamps (s.phase i) (some (.exited code)) s.stamps (.gone code) := by
            rw [current]
            exact .leave hook s.stamps code
          exact ⟨i, hook, _, _, _, placed, step, by rw [current]; exact Nat.lt_add_one 0⟩
      | gone code => exact absurd current (stays code)
      | started | draining | drained code => rw [current] at settled; cases settled

/-- From every state all hooks can come to their end. -/
theorem all_go (inv : Invariant hooks s) :
    ∃ t, Relation.ReflTransGen (Step hooks) s t ∧
      ∀ (i : Nat) (hook : DrainHook), hooks[i]? = some hook → ∃ code, t.phase i = .gone code := by
  -- by what is left to do for all hooks together
  induction size : work hooks s using Nat.strong_induction_on generalizing s with
  | h size ih =>
      by_cases ended : ∀ (i : Nat) (hook : DrainHook), hooks[i]? = some hook →
          ∃ code, s.phase i = .gone code
      · exact ⟨s, .refl, ended⟩
      · push Not at ended
        obtain ⟨i, hook, placed, stays⟩ := ended
        obtain ⟨next, step, less⟩ := (advances agreement distinct full inv placed stays).step
        obtain ⟨t, path, gone⟩ := ih _ (size ▸ less) (step_invariant inv step) rfl
        exact ⟨t, .head step path, gone⟩

end Distinct

end Agreed

end Shutdown

end JobContainers

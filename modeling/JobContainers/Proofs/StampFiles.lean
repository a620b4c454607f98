import JobContainers.Proofs.Rendezvous

set_option autoImplicit false

namespace JobContainers

open Shell

namespace Shell

def Command.touches : Command → List Word
  | call name args => if name = "touch" then args else []
  | _ => []

def Script.touches : Script → List Word
  | finish => []
  | blank rest => rest.touches
  | command c rest => c.touches ++ rest.touches
  | function _ body rest | loop _ body rest => body.touches ++ rest.touches
  | choice _ yes no rest => yes.touches ++ no.touches ++ rest.touches
  | shortLoop _ body rest => body.touches ++ rest.touches

end Shell

theorem DrainHook.touches_program (hook : DrainHook) :
    hook.program.touches = (hook.stampName?.map fun job => Word.bare (stampPath job)).toList := by
  cases hook with
  | leader job n =>
      simp [program, waitExit, stamp, leave, echo, guarded, callWaitExit, rounds, round, checkStatus,
        checkOutput, failed, dynamicWait, staticWait, Script.touches, Command.touches, stampName?]
  | follower n =>
      simp [program, leave, echo, Script.touches, Command.touches, stampName?]

/-- The files that the scripts of containers touch. -/
def Container.stampFiles (containers : List Container) : Finset String :=
  (((stopScripts containers).flatMap Script.touches).map (·.text)).toFinset

/-- Every leader has left its stamp. -/
def Shell.Pod.Stamped (hooks : List DrainHook) (s : Pod) : Prop :=
  ∀ (i n : Nat) (name : String) (p : Process), hooks[i]? = some (.leader name n) →
    s.processes[i]? = some p → Event.touched (DrainHook.stampPath name) ∈ p.history

namespace Conversion

variable {c : Conversion} {jobs : List Job} {general : List VolumeMount} {disks : DiskCatalog}
  {out : List Container}

theorem stampFiles_ok (regular : c.errand = false)
    (done : c.containers jobs general disks = .ok out)
    (plain : ∀ job ∈ jobs, plainName job.name = true) :
    Container.stampFiles out = ((c.stampNames jobs).map DrainHook.stampPath).toFinset := by
  have touched : (c.stopHooks jobs).flatMap (fun hook => hook.program.touches) =
      (c.stampNames jobs).map fun name => Word.bare (DrainHook.stampPath name) := by
    simp only [DrainHook.touches_program]
    rw [← List.filterMap_eq_flatMap_toList, ← List.map_filterMap, stampNames_hooks]
  rw [Container.stampFiles, stopScripts_ok plain regular done, List.flatMap_map, touched,
    List.map_map]
  rfl

theorem card_stampFiles (regular : c.errand = false)
    (done : c.containers jobs general disks = .ok out)
    (plain : ∀ job ∈ jobs, plainName job.name = true) :
    (Container.stampFiles out).card ≤ jobs.countP c.runs ∧
      ((Container.stampFiles out).card = jobs.countP c.runs ↔ (c.stampNames jobs).Nodup) := by
  have paths : ((c.stampNames jobs).map DrainHook.stampPath).length = jobs.countP c.runs := by
    rw [List.length_map, length_stampNames]
  rw [stampFiles_ok regular done plain, ← paths, Shutdown.card_toFinset_eq_length,
    List.nodup_map_iff DrainHook.stampPath_injective]
  exact ⟨List.toFinset_card_le _, Iff.rfl⟩

theorem files_of_stamped (plain : ∀ job ∈ jobs, plainName job.name = true) {s : Pod}
    (reached : Pod.Reachable ((c.stopHooks jobs).map DrainHook.program) s)
    (stamped : s.Stamped (c.stopHooks jobs)) :
    s.files = ((c.stampNames jobs).map DrainHook.stampPath).toFinset ∧
      (jobs.countP c.runs ≤ entries Volume.drainStamps s.files ↔
        (c.stampNames jobs).Nodup ∧ "" ∉ c.stampNames jobs) := by
  obtain ⟨a, come, mirrors⟩ := Shutdown.mirrored (plain_hooks plain) reached
  have inv := Shutdown.reachable_invariant come
  have settled : Shutdown.Stamped (c.stopHooks jobs) a := by
    intro i name n leads
    obtain ⟨p, there⟩ := mirrors.process leads
    exact (mirrors.touched_iff leads there).mp (stamped i n name p leads there)
  have all := Shutdown.stamps_of_stamped inv settled
  rw [stampNames_hooks] at all
  constructor
  · rw [mirrors.files, all]
    ext path
    simp
  · rw [mirrors.files, DrainHook.entries_stamps (Shutdown.plain_stamps (plain_hooks plain) inv), all,
      ← length_stampNames, Shutdown.length_le_listed]

/-- Stamps are named after jobs but counted by position: there are as many files as everyone waits
for exactly if the jobs with processes have different names. Otherwise no container ever goes. -/
theorem stampFiles_reach (regular : c.errand = false)
    (done : c.containers jobs general disks = .ok out) :
    c.stamps jobs = .ok (jobs.countP c.runs) ∧
      (∀ h ∈ out.filterMap Container.stopHandler?,
        ∃ hook : DrainHook, hook.handler = h ∧ hook.stamps = jobs.countP c.runs) ∧
      ((∀ job ∈ jobs, plainName job.name = true) →
        Container.stampFiles out = ((c.stampNames jobs).map DrainHook.stampPath).toFinset ∧
        (Container.stampFiles out).card ≤ jobs.countP c.runs ∧
        ((Container.stampFiles out).card = jobs.countP c.runs ↔ (c.stampNames jobs).Nodup) ∧
        ∀ s, Pod.Reachable (Container.stopScripts out) s →
          (s.Stamped (c.stopHooks jobs) → s.files = Container.stampFiles out ∧
            (jobs.countP c.runs ≤ entries Volume.drainStamps s.files ↔
              (c.stampNames jobs).Nodup ∧ "" ∉ c.stampNames jobs)) ∧
          ((∃ p ∈ s.processes, ∃ code, p.state = .exited code) →
            (c.stampNames jobs).Nodup ∧ "" ∉ c.stampNames jobs) ∧
          ((c.stampNames jobs).Nodup → "" ∉ c.stampNames jobs →
            ∃ t, Relation.ReflTransGen Pod.Step s t ∧
              ∀ p ∈ t.processes, ∃ code, p.state = .exited code)) := by
  obtain ⟨stamps, counted, -⟩ := bind_ok.mp done
  obtain rfl := stamps_ok counted
  refine ⟨counted, ?_, ?_⟩
  · intro h member
    rw [stopHandlers_ok regular done] at member
    obtain ⟨hook, placed, rfl⟩ := List.mem_map.mp member
    exact ⟨hook, rfl, stamps_of_hooks placed⟩
  · intro plain
    obtain ⟨few, exact⟩ := card_stampFiles regular done plain
    refine ⟨stampFiles_ok regular done plain, few, exact, ?_⟩
    intro s reached
    rw [stopScripts_ok plain regular done] at reached
    refine ⟨?_, ?_, ?_⟩
    · rw [stampFiles_ok regular done plain]
      exact files_of_stamped plain reached
    · intro exited
      obtain ⟨-, distinct, shown, -⟩ := seen_of_exited plain reached exited
      exact ⟨distinct, shown⟩
    · exact all_exit plain reached

end Conversion

theorem stampFiles_trio :
    ∃ out, Trio.conversion.errand = false ∧
      Trio.conversion.containers Trio.jobs [] (Disk.catalog []) = .ok out ∧
      Trio.conversion.stamps Trio.jobs = .ok 2 ∧
      (∀ job ∈ Trio.jobs, plainName job.name = true) ∧ (Container.stampFiles out).card = 2 ∧
      ∃ s, Pod.Reachable (Container.stopScripts out) s ∧
        ∀ p ∈ s.processes, ∃ code, p.state = .exited code := by
  obtain ⟨out, done, -⟩ := Trio.converted
  obtain ⟨counted, -, files⟩ := Conversion.stampFiles_reach rfl done
  obtain ⟨-, -, exact, runs⟩ := files Trio.plain
  obtain ⟨-, -, ended⟩ := runs _ .refl
  rw [Trio.running] at counted exact
  have distinct : (Trio.conversion.stampNames Trio.jobs).Nodup := by decide
  have shown : "" ∉ Trio.conversion.stampNames Trio.jobs := by decide
  obtain ⟨s, path, gone⟩ := ended distinct shown
  exact ⟨out, rfl, done, counted, Trio.plain, exact.mpr distinct, s, path, gone⟩

namespace Twins

def jobs : List Job := [⟨"a", "r1", .unset, ∅, ∅, .unset⟩, ⟨"a", "r2", .unset, ∅, ∅, .unset⟩]

def conversion : Conversion where
  group := "web"
  errand := false
  configs := .ofList [("a", ⟨[Trio.process "p"], .unset⟩)]
  images := fun _ job => .ok ("registry/" ++ job)
  settings := { Settings.default with disableLogSidecar := true }

def hooks : List DrainHook := [.leader "a" 2, .leader "a" 2]

theorem running : jobs.countP conversion.runs = 2 := by decide

theorem converted : ∃ out, conversion.containers jobs [] (Disk.catalog []) = .ok out := by
  have ran : (conversion.containers jobs [] (Disk.catalog [])).toOption.map List.length =
      some 2 := by decide
  obtain ⟨out, done, -⟩ := exists_ok ran
  exact ⟨out, done⟩

theorem plain : ∀ job ∈ jobs, plainName job.name = true := by decide

theorem stopHooks_eq : conversion.stopHooks jobs = hooks := by
  rw [Conversion.stopHooks, running]
  decide

theorem both_wait : ∃ a, Shutdown.Reachable hooks a ∧ DrainHook.listed a.stamps = 1 ∧
    ∀ i < 2, a.phase i = .waiting 0 := by
  have start : Shutdown.Reachable hooks (Shutdown.initial hooks) := .refl
  have missing := start.tail (.move (i := 0) rfl (.missing "a" 2 _))
  have first := missing.tail (.move (i := 0) rfl (.stamp "a" 2 _ 0))
  have other := first.tail (.move (i := 1) rfl (.missing "a" 2 _))
  have second := other.tail (.move (i := 1) rfl (.stamp "a" 2 _ 0))
  refine ⟨_, second, by decide, ?_⟩
  intro i bound
  rcases i with _ | _ | i
  · rfl
  · rfl
  · omega

theorem hook_at {i : Nat} {hook : DrainHook} (placed : hooks[i]? = some hook) :
    i < 2 ∧ hook = .leader "a" 2 := by
  rcases i with _ | _ | i
  · exact ⟨by decide, (Option.some.inj placed).symm⟩
  · exact ⟨by decide, (Option.some.inj placed).symm⟩
  · cases placed

theorem both_stamped : ∃ s, Pod.Reachable (hooks.map DrainHook.program) s ∧ s.Stamped hooks ∧
    entries Volume.drainStamps s.files = 1 := by
  have plain := Conversion.plain_hooks (c := conversion) plain
  rw [stopHooks_eq] at plain
  obtain ⟨a, path, few, wait⟩ := both_wait
  obtain ⟨s, reached, mirrors⟩ := (Shutdown.mirrors_start plain).follow_path plain
    (Shutdown.initial_invariant hooks) path
  refine ⟨s, reached, ?_, ?_⟩
  · intro i n name p leads there
    apply (mirrors.touched_iff leads there).mpr
    rw [wait i (hook_at leads).1]
    rfl
  · rwa [mirrors.files,
      DrainHook.entries_stamps (Shutdown.plain_stamps plain (Shutdown.reachable_invariant path))]

end Twins

/-- With a repeated name two stamps are waited for and one is left, so the pod hangs. -/
theorem stampFiles_fail_twins :
    ∃ out, Twins.conversion.containers Twins.jobs [] (Disk.catalog []) = .ok out ∧
      Twins.conversion.errand = false ∧ Twins.conversion.stamps Twins.jobs = .ok 2 ∧
      (Container.stampFiles out).card = 1 ∧
      (∃ s, Pod.Reachable (Container.stopScripts out) s ∧
        s.Stamped (Twins.conversion.stopHooks Twins.jobs) ∧
        entries Volume.drainStamps s.files = 1) ∧
      ∀ s, Pod.Reachable (Container.stopScripts out) s →
        ∀ p ∈ s.processes, ∀ code, p.state ≠ .exited code := by
  obtain ⟨out, done⟩ := Twins.converted
  have files : (Container.stampFiles out).card = 1 := by
    rw [Conversion.stampFiles_ok rfl done Twins.plain]
    decide
  have repeated : ¬(Twins.conversion.stampNames Twins.jobs).Nodup := by decide
  refine ⟨out, done, rfl, by decide, files, ?_, ?_⟩
  · rw [Conversion.stopScripts_ok Twins.plain rfl done, Twins.stopHooks_eq]
    exact Twins.both_stamped
  · intro s reached p member code exited
    rw [Conversion.stopScripts_ok Twins.plain rfl done] at reached
    exact repeated (Conversion.seen_of_exited Twins.plain reached ⟨p, member, code, exited⟩).2.1

end JobContainers

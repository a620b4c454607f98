import JobContainers.Proofs.ConversionShape
import JobContainers.Proofs.HookReading
import JobContainers.Proofs.PodRuns

/-!
The rendezvous of a converted pod. Conversion hands out hooks that agree on the number of leaders,
so whoever leaves leaves after all of them have drained.
-/

set_option autoImplicit false

namespace JobContainers

open Shell

/-- The scripts by which containers stop, read from their texts. -/
def Container.stopScripts (containers : List Container) : List Script :=
  (containers.filterMap Container.stopHandler?).filterMap Handler.program?

namespace Conversion

/-- The hooks of jobs; all wait for as many stamps as there are jobs with processes. -/
def stopHooks (c : Conversion) (jobs : List Job) : List DrainHook :=
  c.hooks (jobs.countP c.runs) jobs

def stampNames (c : Conversion) (jobs : List Job) : List String :=
  (jobs.filter c.runs).map (·.name)

variable {c : Conversion} {jobs : List Job} {general : List VolumeMount} {disks : DiskCatalog}
  {out : List Container}

theorem stampNames_hooks (c : Conversion) (jobs : List Job) :
    (c.stopHooks jobs).filterMap DrainHook.stampName? = c.stampNames jobs := by
  rw [← DrainHook.filterMap_stampName?, stopHooks, filter_isLeader_hooks, List.filterMap_map,
    stampNames, ← List.filterMap_eq_map]
  rfl

theorem length_stampNames (c : Conversion) (jobs : List Job) :
    (c.stampNames jobs).length = jobs.countP c.runs := by
  rw [stampNames, List.length_map, List.countP_eq_length_filter]

theorem mem_stampNames {name : String} :
    name ∈ c.stampNames jobs ↔ ∃ job ∈ jobs, c.runs job = true ∧ job.name = name := by
  simp only [stampNames, List.mem_map, List.mem_filter, and_assoc]

theorem agreement_hooks (c : Conversion) (jobs : List Job) :
    Shutdown.Agreement (c.stopHooks jobs) (c.stampNames jobs) where
  leaders := stampNames_hooks c jobs
  agreed hook member := by rw [stamps_of_hooks member, length_stampNames]

section Plain

variable (plain : ∀ job ∈ jobs, plainName job.name = true)

include plain

theorem plain_hooks : ∀ hook ∈ c.stopHooks jobs, ∀ name, hook.stampName? = some name →
    plainName name = true := by
  intro hook member name named
  obtain ⟨job, placed, rfl⟩ := stampName_of_hooks member named
  exact plain job placed

theorem read_hooks :
    ((c.stopHooks jobs).map DrainHook.handler).map Handler.program? =
      ((c.stopHooks jobs).map DrainHook.program).map some := by
  rw [List.map_map, List.map_map]
  apply List.map_congr_left
  intro hook member
  exact DrainHook.program?_handler (plain_hooks plain hook member)

theorem stopScripts_ok (regular : c.errand = false)
    (done : c.containers jobs general disks = .ok out) :
    Container.stopScripts out = (c.stopHooks jobs).map DrainHook.program := by
  rw [Container.stopScripts, stopHandlers_ok regular done, List.filterMap_map,
    ← List.filterMap_eq_map]
  apply List.filterMap_congr
  intro hook member
  exact DrainHook.program?_handler (plain_hooks plain hook member)

section Reached

variable {s : Pod} (reached : Pod.Reachable ((c.stopHooks jobs).map DrainHook.program) s)

include reached

theorem files_iff (path : String) :
    path ∈ s.files ↔ ∃ job ∈ jobs, c.runs job = true ∧ DrainHook.stampPath job.name = path ∧
      ∃ (i n : Nat) (p : Process), (c.stopHooks jobs)[i]? = some (.leader job.name n) ∧
        s.processes[i]? = some p ∧ Event.touched path ∈ p.history := by
  obtain ⟨a, come, mirrors⟩ := Shutdown.mirrored (plain_hooks plain) reached
  have inv := Shutdown.reachable_invariant come
  rw [mirrors.files, Finset.mem_image]
  constructor
  · rintro ⟨name, member, rfl⟩
    obtain ⟨i, n, leads, settled⟩ := (inv.stamped name).mp member
    obtain ⟨job, known, running, rfl⟩ :=
      mem_stampNames.mp (Shutdown.mem_names (agreement_hooks c jobs) leads)
    obtain ⟨p, there⟩ := mirrors.process leads
    exact ⟨job, known, running, rfl, i, n, p, leads, there,
      (mirrors.touched_iff leads there).mpr settled⟩
  · rintro ⟨job, -, -, rfl, i, n, p, leads, there, touched⟩
    exact ⟨job.name, (inv.stamped job.name).mpr
      ⟨i, n, leads, (mirrors.touched_iff leads there).mp touched⟩, rfl⟩

theorem card_files_le : s.files.card ≤ jobs.countP c.runs := by
  obtain ⟨a, come, mirrors⟩ := Shutdown.mirrored (plain_hooks plain) reached
  rw [mirrors.files, Finset.card_image_of_injective _ DrainHook.stampPath_injective,
    ← length_stampNames]
  exact Shutdown.card_stamps_le (agreement_hooks c jobs) (Shutdown.reachable_invariant come)

/-- Who has gone has seen as many stamps as it waited for, so the names of the jobs are different and
not empty. -/
theorem seen_of_exited (exited : ∃ p ∈ s.processes, ∃ code, p.state = .exited code) :
    jobs.countP c.runs ≤ entries Volume.drainStamps s.files ∧
      (c.stampNames jobs).Nodup ∧ "" ∉ c.stampNames jobs ∧
      ∀ job ∈ jobs, c.runs job = true → DrainHook.stampPath job.name ∈ s.files := by
  obtain ⟨a, come, mirrors⟩ := Shutdown.mirrored (plain_hooks plain) reached
  have inv := Shutdown.reachable_invariant come
  have agreement := agreement_hooks c jobs
  obtain ⟨p, member, code, exited⟩ := exited
  obtain ⟨i, found⟩ := List.mem_iff_getElem?.mp member
  obtain ⟨hook, placed⟩ := mirrors.placed found
  have released : (a.phase i).released = true := by
    rw [(mirrors.exited_iff placed found code).mp exited]
    rfl
  obtain ⟨all, distinct, shown⟩ := Shutdown.stamps_of_released agreement inv placed released
  rw [mirrors.files, DrainHook.entries_stamps (Shutdown.plain_stamps (plain_hooks plain) inv)]
  refine ⟨?_, distinct, shown, ?_⟩
  · have enough := inv.enough i hook placed released
    rwa [agreement.agreed hook (List.mem_of_getElem? placed), length_stampNames] at enough
  · intro job known running
    rw [all]
    exact Finset.mem_image_of_mem _
      (List.mem_toFinset.mpr (mem_stampNames.mpr ⟨job, known, running, rfl⟩))

variable (distinct : (c.stampNames jobs).Nodup)

include distinct

theorem exists_toucher {job : Job} (known : job ∈ jobs) (running : c.runs job = true)
    (stamped : DrainHook.stampPath job.name ∈ s.files) :
    ∃ (i : Nat) (p : Process),
      (∀ j n : Nat, (c.stopHooks jobs)[j]? = some (.leader job.name n) ↔
        j = i ∧ n = jobs.countP c.runs) ∧
      s.processes[i]? = some p ∧ Event.touched (DrainHook.stampPath job.name) ∈ p.history := by
  have agreement := agreement_hooks c jobs
  obtain ⟨i, leads⟩ :=
    Shutdown.exists_leader agreement (mem_stampNames.mpr ⟨job, known, running, rfl⟩)
  rw [length_stampNames] at leads
  obtain ⟨other, -, -, same, j, n, p, placed, there, touched⟩ :=
    (files_iff plain reached _).mp stamped
  rw [DrainHook.stampPath_injective same] at placed
  obtain rfl := Shutdown.leader_unique agreement distinct leads placed
  refine ⟨i, p, ?_, there, touched⟩
  intro j n
  constructor
  · intro other
    obtain rfl := Shutdown.leader_unique agreement distinct leads other
    cases leads.symm.trans other
    exact ⟨rfl, rfl⟩
  · rintro ⟨rfl, rfl⟩
    exact leads

theorem all_exit (shown : "" ∉ c.stampNames jobs) :
    ∃ t, Relation.ReflTransGen Pod.Step s t ∧
      ∀ p ∈ t.processes, ∃ code, p.state = .exited code := by
  obtain ⟨a, come, mirrors⟩ := Shutdown.mirrored (plain_hooks plain) reached
  have inv := Shutdown.reachable_invariant come
  obtain ⟨b, path, ended⟩ := Shutdown.all_go (agreement_hooks c jobs) distinct shown inv
  obtain ⟨t, steps, last⟩ := mirrors.follow_path (plain_hooks plain) inv path
  refine ⟨t, steps, ?_⟩
  intro p member
  obtain ⟨i, found⟩ := List.mem_iff_getElem?.mp member
  obtain ⟨hook, placed⟩ := last.placed found
  obtain ⟨code, gone⟩ := ended i hook placed
  exact ⟨code, (last.exited_iff placed found code).mpr gone⟩

end Reached

/-- However the scripts of a pod interleave and whatever the drain scripts give, each does what its
hook says, no container has gone before every job with processes has drained and left its stamp,
stamps are left by leaders alone, and from every state all containers can still go. -/
theorem rendezvous (regular : c.errand = false)
    (done : c.containers jobs general disks = .ok out) (distinct : (jobs.map (·.name)).Nodup)
    {s : Pod} (reached : Pod.Reachable (Container.stopScripts out) s) :
    out.filterMap Container.stopHandler? = (c.stopHooks jobs).map DrainHook.handler ∧
      (out.filterMap Container.stopHandler?).map Handler.program? =
        (Container.stopScripts out).map some ∧
      List.Forall₂ (fun hook (p : Process) => ∃ phase, hook.Runs p.history phase ∧
        ∀ code, p.state = .exited code ↔ phase = .gone code) (c.stopHooks jobs) s.processes ∧
      ((∃ p ∈ s.processes, ∃ code, p.state = .exited code) →
        jobs.countP c.runs ≤ entries Volume.drainStamps s.files ∧
        ∀ job ∈ jobs, c.runs job = true → DrainHook.stampPath job.name ∈ s.files ∧
          ∃ (i : Nat) (p : Process),
            (∀ j n : Nat, (c.stopHooks jobs)[j]? = some (.leader job.name n) ↔
              j = i ∧ n = jobs.countP c.runs) ∧
            s.processes[i]? = some p ∧
            Event.touched (DrainHook.stampPath job.name) ∈ p.history) ∧
      (∀ path, path ∈ s.files ↔ ∃ job ∈ jobs, c.runs job = true ∧
        DrainHook.stampPath job.name = path ∧
        ∃ (i n : Nat) (p : Process), (c.stopHooks jobs)[i]? = some (.leader job.name n) ∧
          s.processes[i]? = some p ∧ Event.touched path ∈ p.history) ∧
      s.files.card ≤ jobs.countP c.runs ∧
      ("" ∉ c.stampNames jobs →
        ∃ t, Relation.ReflTransGen Pod.Step s t ∧
          ∀ p ∈ t.processes, ∃ code, p.state = .exited code) := by
  have apart : (c.stampNames jobs).Nodup :=
    distinct.sublist (List.filter_sublist.map Job.name)
  rw [stopScripts_ok plain regular done] at reached ⊢
  rw [stopHandlers_ok regular done]
  obtain ⟨a, -, mirrors⟩ := Shutdown.mirrored (plain_hooks plain) reached
  refine ⟨rfl, read_hooks plain, mirrors.histories, ?_, files_iff plain reached,
    card_files_le plain reached, all_exit plain reached apart⟩
  intro exited
  obtain ⟨enough, -, -, stamped⟩ := seen_of_exited plain reached exited
  refine ⟨enough, ?_⟩
  intro job known running
  have there := stamped job known running
  exact ⟨there, exists_toucher plain reached apart known running there⟩

end Plain

end Conversion

namespace Trio

def hooks : List DrainHook := [.leader "api" 2, .follower 2, .leader "db" 2]

theorem stopHooks_eq : conversion.stopHooks jobs = hooks := by
  rw [Conversion.stopHooks, running]
  decide

theorem plain : ∀ job ∈ jobs, plainName job.name = true := by decide

theorem follower_goes : ∃ a, Shutdown.Reachable hooks a ∧ a.phase 1 = .gone 0 := by
  have start : Shutdown.Reachable hooks (Shutdown.initial hooks) := .refl
  have missing := start.tail (.move (i := 0) rfl (.missing "api" 2 _))
  have first := missing.tail (.move (i := 0) rfl (.stamp "api" 2 _ 0))
  have found := first.tail (.move (i := 2) rfl (.found "db" 2 _))
  have failed := found.tail (.move (i := 2) rfl (.fails "db" 2 _ 3 0 (by decide)))
  have second := failed.tail (.move (i := 2) rfl (.stamp "db" 2 _ 3))
  have enough := second.tail (.move (i := 1) rfl (.release (.follower 2) _ 0 (by decide)))
  have leaves := enough.tail (.move (i := 1) rfl (.leave (.follower 2) _ 0))
  exact ⟨_, leaves, rfl⟩

theorem script_exits : ∃ s, Pod.Reachable (hooks.map DrainHook.program) s ∧
    ∃ p ∈ s.processes, p.state = .exited 0 := by
  have plain := Conversion.plain_hooks (c := conversion) plain
  rw [stopHooks_eq] at plain
  obtain ⟨a, path, gone⟩ := follower_goes
  obtain ⟨s, reached, mirrors⟩ := (Shutdown.mirrors_start plain).follow_path plain
    (Shutdown.initial_invariant hooks) path
  have placed : hooks[1]? = some (.follower 2) := rfl
  obtain ⟨p, found⟩ := mirrors.process placed
  exact ⟨s, reached, p, List.mem_of_getElem? found, (mirrors.exited_iff placed found 0).mpr gone⟩

end Trio

theorem rendezvous_trio :
    ∃ out s, Trio.conversion.errand = false ∧
      Trio.conversion.containers Trio.jobs [] (Disk.catalog []) = .ok out ∧
      (Trio.jobs.map (·.name)).Nodup ∧ (∀ job ∈ Trio.jobs, plainName job.name = true) ∧
      Pod.Reachable (Container.stopScripts out) s ∧ (∃ p ∈ s.processes, p.state = .exited 0) ∧
      (Container.stopScripts out).length = 3 ∧ DrainHook.stampPath "api" ∈ s.files ∧
      DrainHook.stampPath "db" ∈ s.files ∧ s.files.card ≤ 2 := by
  obtain ⟨out, done, -⟩ := Trio.converted
  have distinct : (Trio.jobs.map (·.name)).Nodup := by decide
  have scripts : Container.stopScripts out = Trio.hooks.map DrainHook.program := by
    rw [Conversion.stopScripts_ok Trio.plain rfl done, Trio.stopHooks_eq]
  obtain ⟨s, reached, p, member, exited⟩ := Trio.script_exits
  rw [← scripts] at reached
  obtain ⟨-, -, -, all, -, few, -⟩ := Conversion.rendezvous Trio.plain rfl done distinct reached
  rw [Trio.running] at few
  obtain ⟨-, stamped⟩ := all ⟨p, member, 0, exited⟩
  have api := stamped (Trio.job "api") (by decide) (by decide)
  have db := stamped (Trio.job "db") (by decide) (by decide)
  have three : (Container.stopScripts out).length = 3 := by
    rw [scripts]
    rfl
  exact ⟨out, s, rfl, done, distinct, Trio.plain, reached, ⟨p, member, exited⟩, three, api.1, db.1,
    few⟩

end JobContainers

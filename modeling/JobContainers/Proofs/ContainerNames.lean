import JobContainers.Proofs.ConversionShape
import JobContainers.Proofs.Labels
import Mathlib.Data.List.Nodup

set_option autoImplicit false

namespace JobContainers

namespace Conversion

def processNames (c : Conversion) (jobs : List Job) : List (String × String) :=
  jobs.flatMap fun job => (c.processes job).map fun p => (job.name, p.name)

variable {c : Conversion} {general : List VolumeMount} {disks : DiskCatalog} {jobs : List Job}
  {out : List Container}

theorem names_sidecars (c : Conversion) :
    c.sidecars.map (·.name) = if c.settings.disableLogSidecar then [] else ["logs"] := by
  rw [sidecars]
  split <;> rfl

theorem names_ok (done : c.containers jobs general disks = .ok out) :
    out.map (·.name) = ((c.processNames jobs).map fun n => DnsLabel.containerName n.1 n.2)
      ++ if c.settings.disableLogSidecar then [] else ["logs"] := by
  obtain ⟨blocks, rfl, built⟩ := containers_ok done
  have inBlocks : blocks.map (List.map (·.name)) = jobs.map fun job =>
      ((c.processes job).map fun p => (job.name, p.name)).map fun n =>
        DnsLabel.containerName n.1 n.2 := by
    refine map_eq_map built ?_
    rintro job block ⟨config, found, made⟩
    have named : block.map (·.name) = config.processes.zipIdx.map fun entry =>
        DnsLabel.containerName job.name entry.1.name :=
      map_eq_map made fun entry x container => container.name
    have numbered : config.processes = config.processes.zipIdx.map Prod.fst :=
      (List.zipIdx_map_fst 0 config.processes).symm
    rw [named, processes_of found, List.map_map]
    nth_rewrite 2 [numbered]
    rw [List.map_map]
    rfl
  rw [List.map_append, names_sidecars, List.map_flatten, inBlocks, processNames, List.map_flatMap,
    List.flatMap_def]

theorem nodup_processNames (jobsDiffer : (jobs.map (·.name)).Nodup)
    (processesDiffer : ∀ job ∈ jobs, ((c.processes job).map (·.name)).Nodup) :
    (c.processNames jobs).Nodup := by
  rw [processNames, List.nodup_flatMap]
  constructor
  · intro job member
    apply List.Nodup.of_map Prod.snd
    rw [List.map_map]
    exact processesDiffer job member
  · refine (List.pairwise_map.mp jobsDiffer).imp ?_
    intro job other differ names ofJob ofOther
    obtain ⟨p, -, rfl⟩ := List.mem_map.mp ofJob
    obtain ⟨q, -, same⟩ := List.mem_map.mp ofOther
    exact differ (congrArg Prod.fst same).symm

/-- Job and process as their joined name can show them: labels that fit into one. -/
def Fitting (names : String × String) : Prop :=
  DnsLabel.isPlain names.1 = true ∧ DnsLabel.isPlain names.2 = true ∧
    names.1.length + names.2.length < DnsLabel.maxLength

/-- The first job's name goes on with a hyphen in that of the second, and what follows there is
what the first one's process begins with. -/
def Shifted (first second : String × String) : Prop :=
  ∃ middle, second.1 = first.1 ++ "-" ++ middle ∧ first.2 = middle ++ "-" ++ second.2

theorem containerName_of_shifted {first second : String × String}
    (shifted : Shifted first second) :
    first.1 ++ "-" ++ first.2 = second.1 ++ "-" ++ second.2 := by
  obtain ⟨middle, job, process⟩ := shifted
  rw [job, process]
  simp only [String.append_assoc]

theorem eq_or_shifted {first second : String × String}
    (same : first.1 ++ "-" ++ first.2 = second.1 ++ "-" ++ second.2) :
    first = second ∨ Shifted first second ∨ Shifted second first := by
  rcases DnsLabel.eq_or_shifted_of_joined same with ⟨job, process⟩ | ahead | behind
  · exact .inl (Prod.ext job process)
  · exact .inr (.inl ahead)
  · exact .inr (.inr behind)

theorem ne_of_shifted {first second : String × String} (shifted : Shifted first second) :
    first ≠ second := by
  rintro rfl
  obtain ⟨middle, job, -⟩ := shifted
  have size := congrArg String.length job
  have hyphen : "-".length = 1 := rfl
  rw [String.length_append, String.length_append, hyphen] at size
  omega

theorem Fitting.containerName {names : String × String} (fitting : Fitting names) :
    DnsLabel.containerName names.1 names.2 = names.1 ++ "-" ++ names.2 :=
  DnsLabel.containerName_plain fitting.1 fitting.2.1 fitting.2.2

theorem Fitting.ne_sidecar {names : String × String} (fitting : Fitting names) :
    DnsLabel.containerName names.1 names.2 ≠ "logs" := by
  rw [fitting.containerName]
  intro same
  have hyphen : '-' ∈ "logs".toList := by
    rw [← same, DnsLabel.toList_joined]
    exact List.mem_append_right _ List.mem_cons_self
  exact absurd hyphen (by decide)

/-- With different names of jobs and of the processes of a job, two containers share a name exactly
if two processes come to one label or, beside the sidecar, one comes to the sidecar's. Names that
are labels already and fit come to one label only by a hyphen that shifts from the one part to the
other. -/
theorem containers_names (jobsDiffer : (jobs.map (·.name)).Nodup)
    (processesDiffer : ∀ job ∈ jobs, ((c.processes job).map (·.name)).Nodup)
    (done : c.containers jobs general disks = .ok out) :
    ((out.map (·.name)).Nodup ↔
      (∀ first ∈ c.processNames jobs, ∀ second ∈ c.processNames jobs,
        DnsLabel.containerName first.1 first.2 = DnsLabel.containerName second.1 second.2 →
          first = second) ∧
      (c.settings.disableLogSidecar = false → ∀ names ∈ c.processNames jobs,
        DnsLabel.containerName names.1 names.2 ≠ "logs")) ∧
    ((∀ names ∈ c.processNames jobs, Fitting names) →
      ((out.map (·.name)).Nodup ↔
        ∀ first ∈ c.processNames jobs, ∀ second ∈ c.processNames jobs,
          ¬Shifted first second)) := by
  have exactly : (out.map (·.name)).Nodup ↔
      (∀ first ∈ c.processNames jobs, ∀ second ∈ c.processNames jobs,
        DnsLabel.containerName first.1 first.2 = DnsLabel.containerName second.1 second.2 →
          first = second) ∧
      (c.settings.disableLogSidecar = false → ∀ names ∈ c.processNames jobs,
        DnsLabel.containerName names.1 names.2 ≠ "logs") := by
    rw [names_ok done, List.nodup_append,
      List.nodup_map_iff_inj_on (nodup_processNames jobsDiffer processesDiffer)]
    refine and_congr_right fun _ => ?_
    cases c.settings.disableLogSidecar with
    | true => simp
    | false =>
        simp only [Bool.false_eq_true, if_false, List.mem_singleton, List.nodup_singleton,
          List.mem_map, true_and, forall_eq, forall_const, forall_exists_index, and_imp,
          forall_apply_eq_imp_iff₂]
  refine ⟨exactly, fun fitting => exactly.trans ?_⟩
  constructor
  · rintro ⟨labels, -⟩ first inFirst second inSecond shifted
    refine ne_of_shifted shifted (labels first inFirst second inSecond ?_)
    rw [(fitting first inFirst).containerName, (fitting second inSecond).containerName]
    exact containerName_of_shifted shifted
  · intro unshifted
    refine ⟨?_, fun _ names member => (fitting names member).ne_sidecar⟩
    intro first inFirst second inSecond same
    rw [(fitting first inFirst).containerName, (fitting second inSecond).containerName] at same
    rcases eq_or_shifted same with equal | ahead | behind
    · exact equal
    · exact absurd ahead (unshifted first inFirst second inSecond)
    · exact absurd behind (unshifted second inSecond first inFirst)

end Conversion

theorem containers_names_trio :
    ∃ out, (Trio.jobs.map (·.name)).Nodup ∧
      (∀ job ∈ Trio.jobs, ((Trio.conversion.processes job).map (·.name)).Nodup) ∧
      Trio.conversion.containers Trio.jobs [] (Disk.catalog []) = .ok out ∧
      (out.map (·.name)).Nodup := by
  obtain ⟨out, done, -⟩ := Trio.converted
  have jobsDiffer : (Trio.jobs.map (·.name)).Nodup := by decide
  have processesDiffer : ∀ job ∈ Trio.jobs,
      ((Trio.conversion.processes job).map (·.name)).Nodup := by decide
  refine ⟨out, jobsDiffer, processesDiffer, done, ?_⟩
  refine (Conversion.containers_names jobsDiffer processesDiffer done).1.mpr ⟨?_, fun _ => ?_⟩
  · decide
  · decide

namespace Shift

def jobs : List Job := [Trio.job "a-b", Trio.job "a"]

def conversion : Conversion where
  group := "web"
  errand := false
  configs := .ofList [("a-b", ⟨[Trio.process "c"], .unset⟩), ("a", ⟨[Trio.process "b-c"], .unset⟩)]
  images := fun _ job => .ok ("registry/web-" ++ job ++ ":1")
  settings := { Settings.default with disableLogSidecar := true }

end Shift

theorem containers_names_shifted :
    ∃ out, (Shift.jobs.map (·.name)).Nodup ∧
      (∀ job ∈ Shift.jobs, ((Shift.conversion.processes job).map (·.name)).Nodup) ∧
      Shift.conversion.containers Shift.jobs [] (Disk.catalog []) = .ok out ∧
      ¬(out.map (·.name)).Nodup := by
  have ran : (Shift.conversion.containers Shift.jobs [] (Disk.catalog [])).toOption.map
      (fun out => out.map (·.name)) = some ["a-b-c", "a-b-c"] := by decide
  obtain ⟨out, done, names⟩ := exists_ok ran
  refine ⟨out, by decide, by decide, done, ?_⟩
  rw [names]
  decide

end JobContainers

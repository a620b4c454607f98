import JobContainers.Compilation
import JobContainers.Proofs.ConversionShape

/-!
Which configuration a job of a group is converted with. Configurations are handed over by job name,
so of several jobs with one name the last one decides for all of them.
-/

set_option autoImplicit false

namespace JobContainers

def Job.configuration (job : Job) : RuntimeConfig := job.resolved.runtime.getD .empty

def lastNamed (jobs : List Job) (name : String) : Option Job :=
  jobs.reverse.find? (·.name = name)

theorem exists_lastNamed {jobs : List Job} {job : Job} (member : job ∈ jobs) :
    ∃ last, lastNamed jobs job.name = some last ∧ last ∈ jobs ∧ last.name = job.name := by
  have present : (lastNamed jobs job.name).isSome := by
    refine List.find?_isSome.mpr ⟨job, List.mem_reverse.mpr member, ?_⟩
    exact decide_eq_true rfl
  obtain ⟨last, found⟩ := Option.isSome_iff_exists.mp present
  rw [lastNamed] at found
  have named := List.find?_some found
  exact ⟨last, found, List.mem_reverse.mp (List.mem_of_find?_eq_some found),
    of_decide_eq_true named⟩

/-- Two configurations give a job the same containers. -/
def Conversion.Alike (c : Conversion) (general : List VolumeMount) (disks : DiskCatalog)
    (stamps : Nat) (job : Job) (config other : RuntimeConfig) : Prop :=
  ∀ block, c.BuildsAll general disks stamps job config block ↔
    c.BuildsAll general disks stamps job other block

namespace Compilation

theorem get?_configs (jobs : List Job) (name : String) :
    (configs jobs).get? name = (lastNamed jobs name).map Job.configuration := by
  rw [configs, Dict.get?_ofList, ← List.map_reverse, lastNamed]
  exact Entries.lookup_map Job.name Job.configuration jobs.reverse name

theorem configs_own (jobs : List Job) :
    (∀ job ∈ jobs, (configs jobs).get? job.name = some job.configuration) ↔
      ∀ job ∈ jobs, ∀ other ∈ jobs, job.name = other.name →
        job.configuration = other.configuration := by
  constructor
  · intro own job member other placed same
    apply Option.some.inj
    rw [← own job member, same, own other placed]
  · intro agree job member
    obtain ⟨last, found, placed, name⟩ := exists_lastNamed member
    rw [get?_configs, found, Option.map_some, agree job member last placed name.symm]

variable {c : Compilation} {group : String} {mounts : List VolumeMount} {disks : DiskCatalog}

theorem compile_ok {out : CompiledGroup} (done : (c.compile group mounts disks).1 = .ok out) :
    (c.manifest.gather c.cluster c.files group).1 = .ok out.jobs ∧
      (c.conversion group out.jobs).containers out.jobs mounts disks = .ok out.containers := by
  obtain ⟨jobs, gathered, done⟩ := bind_ok.mp done
  obtain ⟨containers, converted, made⟩ := bind_ok.mp done
  obtain rfl := Except.ok.inj made
  exact ⟨gathered, converted⟩

theorem alike_iff {conversion : Conversion} {general : List VolumeMount} {stamps : Nat}
    {job : Job} {own handed : RuntimeConfig} {block : List Container}
    (built : conversion.BuildsAll general disks stamps job handed block) :
    conversion.BuildsAll general disks stamps job own block ↔
      conversion.Alike general disks stamps job own handed := by
  constructor
  · intro same other
    constructor
    · intro made
      rwa [same.unique made] at built
    · intro made
      rwa [built.unique made] at same
  · intro alike
    exact (alike block).mpr built

/-- The containers at a position are those of the last job of that name. They are the position's
own exactly if the two configurations give the same containers. -/
theorem compile_configurations {out : CompiledGroup}
    (done : (c.compile group mounts disks).1 = .ok out) :
    let conversion := c.conversion group out.jobs
    ∃ stamps blocks, conversion.stamps out.jobs = .ok stamps ∧
      out.jobs.mapM (conversion.jobContainers mounts disks stamps) = .ok blocks ∧
      out.containers = blocks.flatten ++ conversion.sidecars ∧
      List.Forall₂ (fun job block => ∃ last, lastNamed out.jobs job.name = some last ∧
        conversion.BuildsAll mounts disks stamps job last.configuration block) out.jobs blocks ∧
      (List.Forall₂ (fun job block =>
          conversion.BuildsAll mounts disks stamps job job.configuration block) out.jobs blocks ↔
        ∀ job ∈ out.jobs, ∀ last, lastNamed out.jobs job.name = some last →
          conversion.Alike mounts disks stamps job job.configuration last.configuration) ∧
      ((∀ job ∈ out.jobs, conversion.configs.get? job.name = some job.configuration) ↔
        ∀ job ∈ out.jobs, ∀ other ∈ out.jobs, job.name = other.name →
          job.configuration = other.configuration) := by
  intro conversion
  obtain ⟨-, converted⟩ := compile_ok done
  obtain ⟨stamps, counted, rest⟩ := bind_ok.mp converted
  obtain ⟨blocks, built, joined⟩ := bind_ok.mp rest
  have handed : List.Forall₂ (fun job block => ∃ last, lastNamed out.jobs job.name = some last ∧
      conversion.BuildsAll mounts disks stamps job last.configuration block) out.jobs blocks := by
    refine (mapM_ok.mp built).imp ?_
    intro job block made
    obtain ⟨config, found, shaped⟩ := Conversion.jobContainers_ok made
    obtain ⟨last, named, rfl⟩ := Option.map_eq_some_iff.mp ((get?_configs _ _).symm.trans found)
    exact ⟨last, named, shaped⟩
  refine ⟨stamps, blocks, counted, built, (Except.ok.inj joined).symm, handed, ?_,
    configs_own out.jobs⟩
  -- position by position: what was handed over gives the block, so its own must give the same
  apply forall₂_iff_forall handed
  rintro job block ⟨last, named, made⟩
  rw [alike_iff made]
  constructor
  · intro alike other found
    rw [named] at found
    cases found
    exact alike
  · intro alike
    exact alike last named

end Compilation

namespace Doubled

def job (release : String) : Job := ⟨"a", release, .unset, ∅, ∅, .unset⟩

def compilation : Compilation where
  manifest := ⟨"shop", [], [⟨"web", 1, [], none, [job "r1", job "r2"]⟩]⟩
  kubeNamespace := "ns"
  files :=
    (FileTree.empty "base").write "jobs-src/r1/a/job.MF" "templates:\n  t: bpm.yml\n".toUTF8
      |>.write "jobs-src/r1/a/templates/t"
        "processes:\n- name: p1\n  executable: /p1\n- name: p2\n  executable: /p2\n".toUTF8
      |>.write "jobs-src/r2/a/job.MF" "templates:\n  t: bpm.yml\n".toUTF8
      |>.write "jobs-src/r2/a/templates/t" "processes:\n- name: p3\n  executable: /p3\n".toUTF8
  images := fun _ job => .ok ("registry/" ++ job)
  settings := { Settings.default with disableLogSidecar := true }

theorem compiled : ∃ out, (compilation.compile "web" [] (Disk.catalog [])).1 = .ok out ∧
    out.jobs.map (·.configuration.processes.length) = [2, 1] ∧ out.containers.length = 2 := by
  have ran : (compilation.compile "web" [] (Disk.catalog [])).1.toOption.map (fun out =>
      (out.jobs.map (·.configuration.processes.length), out.containers.length)) =
      some ([2, 1], 2) := by decide +kernel
  obtain ⟨out, done, both⟩ := exists_ok ran
  obtain ⟨own, made⟩ := Prod.mk.inj both
  exact ⟨out, done, own, made⟩

end Doubled

theorem compile_configurations_doubled :
    ∃ out stamps blocks, (Doubled.compilation.compile "web" [] (Disk.catalog [])).1 = .ok out ∧
      out.jobs.map (·.configuration.processes.length) = [2, 1] ∧
      out.containers = List.flatten blocks ∧
      List.Forall₂ (fun job block => ∃ last, lastNamed out.jobs job.name = some last ∧
        (Doubled.compilation.conversion "web" out.jobs).BuildsAll [] (Disk.catalog []) stamps job
          last.configuration block) out.jobs blocks := by
  obtain ⟨out, done, own, -⟩ := Doubled.compiled
  obtain ⟨stamps, blocks, -, -, joined, handed, -, -⟩ :=
    Compilation.compile_configurations done
  exact ⟨out, stamps, blocks, done, own, joined.trans (List.append_nil _), handed⟩

/-- With their own configurations the two jobs would have three containers. -/
theorem own_configurations_fail :
    ∃ out, (Doubled.compilation.compile "web" [] (Disk.catalog [])).1 = .ok out ∧
      ¬∃ stamps blocks, out.containers =
          List.flatten blocks ++ (Doubled.compilation.conversion "web" out.jobs).sidecars ∧
        List.Forall₂ (fun job block => (Doubled.compilation.conversion "web" out.jobs).BuildsAll []
          (Disk.catalog []) stamps job job.configuration block) out.jobs blocks := by
  obtain ⟨out, done, own, made⟩ := Doubled.compiled
  refine ⟨out, done, ?_⟩
  rintro ⟨stamps, blocks, joined, built⟩
  have sizes : blocks.map List.length = [2, 1] := by
    rw [← own]
    exact map_eq_map built fun job block shaped => shaped.length
  have none : (Doubled.compilation.conversion "web" out.jobs).sidecars = [] := rfl
  rw [joined, none, List.append_nil, List.length_flatten, sizes] at made
  exact absurd made (by decide)

end JobContainers

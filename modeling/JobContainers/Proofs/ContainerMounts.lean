import JobContainers.Proofs.ConversionShape

/-!
The mounts of a container: of all that are offered, those of the group first, the first one for
each path is kept and the order with it. What is not a mount of the group comes from a disk of the
job, and disks of other jobs make no difference.
-/

set_option autoImplicit false

namespace JobContainers

namespace VolumeMount

def paths (ms : List VolumeMount) : List String := ms.map (·.mountPath)

def firsts (ms : List VolumeMount) : List VolumeMount :=
  (ms.zipIdx.filter fun (m, i) => m.mountPath ∉ paths (ms.take i)).map (·.1)

/-- Of the mounts that are offered those are kept that come first for their path. -/
structure KeepsFirst (offered kept : List VolumeMount) : Prop where
  positions : kept = firsts offered
  inOrder : kept.Sublist offered
  distinct : (paths kept).Nodup
  covers : ∀ m ∈ offered, ∃ k ∈ kept, k.mountPath = m.mountPath
  earliest : ∀ k ∈ kept, offered.find? (·.mountPath = k.mountPath) = some k
  settled : dedupe kept = kept

variable {taken others : List String} {ms : List VolumeMount} {m : VolumeMount}

theorem firstPerPath_of_taken (here : m.mountPath ∈ taken) :
    firstPerPath taken (m :: ms) = firstPerPath taken ms := by
  rw [firstPerPath, if_pos here]

theorem firstPerPath_of_free (free : m.mountPath ∉ taken) :
    firstPerPath taken (m :: ms) = m :: firstPerPath (m.mountPath :: taken) ms := by
  rw [firstPerPath, if_neg free]

theorem firstPerPath_congr (same : ∀ path, path ∈ taken ↔ path ∈ others) :
    firstPerPath taken ms = firstPerPath others ms := by
  induction ms generalizing taken others with
  | nil => rfl
  | cons m ms ih =>
      have grown : ∀ path, path ∈ m.mountPath :: taken ↔ path ∈ m.mountPath :: others := by
        simp [same]
      simp only [firstPerPath, same, ih same, ih grown]

theorem firstPerPath_append (ms later : List VolumeMount) :
    firstPerPath taken (ms ++ later) =
      firstPerPath taken ms ++ firstPerPath (paths ms ++ taken) later := by
  induction ms generalizing taken with
  | nil => rfl
  | cons m ms ih =>
      rw [List.cons_append]
      by_cases here : m.mountPath ∈ taken
      · have known : ∀ path, path ∈ paths ms ++ taken ↔ path ∈ paths (m :: ms) ++ taken := by
          intro path
          simp [paths]
          grind
        rw [firstPerPath_of_taken here, firstPerPath_of_taken here, ih, firstPerPath_congr known]
      · -- the path of the head has come to the front of those that are taken
        have known : ∀ path, path ∈ paths ms ++ m.mountPath :: taken ↔
            path ∈ paths (m :: ms) ++ taken := by
          intro path
          simp [paths]
          grind
        rw [firstPerPath_of_free here, firstPerPath_of_free here, ih, firstPerPath_congr known,
          List.cons_append]

theorem firstPerPath_sublist : (firstPerPath taken ms).Sublist ms := by
  induction ms generalizing taken with
  | nil => exact .slnil
  | cons m ms ih =>
      by_cases here : m.mountPath ∈ taken
      · rw [firstPerPath_of_taken here]
        exact ih.cons m
      · rw [firstPerPath_of_free here]
        exact ih.cons_cons m

theorem mem_firstPerPath : m ∈ firstPerPath taken ms ↔
    m.mountPath ∉ taken ∧ ms.find? (·.mountPath = m.mountPath) = some m := by
  induction ms generalizing taken with
  | nil => simp [firstPerPath]
  | cons first ms ih =>
      by_cases here : first.mountPath ∈ taken
      · rw [firstPerPath_of_taken here, ih]
        grind
      · rw [firstPerPath_of_free here, List.mem_cons, ih]
        grind

theorem nodup_firstPerPath : (paths (firstPerPath taken ms)).Nodup := by
  induction ms generalizing taken with
  | nil => exact .nil
  | cons m ms ih =>
      by_cases here : m.mountPath ∈ taken
      · rw [firstPerPath_of_taken here]
        exact ih
      · rw [firstPerPath_of_free here, paths, List.map_cons, List.nodup_cons]
        refine ⟨?_, ih⟩
        intro again
        obtain ⟨k, kept, same⟩ := List.mem_map.mp again
        have apart := (mem_firstPerPath.mp kept).1
        rw [same] at apart
        exact apart List.mem_cons_self

theorem firstPerPath_of_nodup (distinct : (paths ms).Nodup)
    (free : ∀ m ∈ ms, m.mountPath ∉ taken) : firstPerPath taken ms = ms := by
  induction ms generalizing taken with
  | nil => rfl
  | cons m ms ih =>
      rw [paths, List.map_cons, List.nodup_cons] at distinct
      rw [firstPerPath_of_free (free m List.mem_cons_self), ih distinct.2]
      intro k member
      rw [List.mem_cons, not_or]
      refine ⟨?_, free k (List.mem_cons_of_mem m member)⟩
      intro same
      exact distinct.1 (same ▸ List.mem_map_of_mem member)

theorem dedupe_dedupe (ms : List VolumeMount) : dedupe (dedupe ms) = dedupe ms :=
  firstPerPath_of_nodup nodup_firstPerPath (by simp)

def isFirst (taken : List String) (ms : List VolumeMount) (e : VolumeMount × Nat) : Bool :=
  e.1.mountPath ∉ taken ++ paths (ms.take e.2)

theorem isFirst_cons : isFirst taken (m :: ms) ∘ Prod.map id (· + 1) =
    isFirst (m.mountPath :: taken) ms := by
  funext e
  have same : e.1.mountPath ∈ taken ++ paths (m :: ms.take e.2) ↔
      e.1.mountPath ∈ m.mountPath :: taken ++ paths (ms.take e.2) := by
    simp only [paths, List.map_cons, List.mem_append, List.mem_cons]
    tauto
  simp only [isFirst, Function.comp_apply, Prod.map_fst, Prod.map_snd, id_eq, List.take_succ_cons,
    same]

theorem firstPerPath_eq_positions :
    firstPerPath taken ms = (ms.zipIdx.filter (isFirst taken ms)).map (·.1) := by
  induction ms generalizing taken with
  | nil => rfl
  | cons m ms ih =>
      have positions : (m :: ms).zipIdx = (m, 0) :: ms.zipIdx.map (Prod.map id (· + 1)) := by
        rw [List.zipIdx_cons, List.zipIdx_succ]
        rfl
      have behind : ((ms.zipIdx.map (Prod.map id (· + 1))).filter
          (isFirst taken (m :: ms))).map (·.1) = firstPerPath (m.mountPath :: taken) ms := by
        rw [List.filter_map, isFirst_cons, List.map_map, ih]
        rfl
      rw [positions, List.filter_cons]
      by_cases here : m.mountPath ∈ taken
      · have known : ∀ path, path ∈ taken ↔ path ∈ m.mountPath :: taken := by
          intro path
          grind
        have hidden : isFirst taken (m :: ms) (m, 0) = false := by
          simp [isFirst, here]
        rw [hidden, if_neg Bool.false_ne_true, behind, firstPerPath_of_taken here,
          firstPerPath_congr known]
      · have shown : isFirst taken (m :: ms) (m, 0) = true := by
          simp [isFirst, here, paths]
        rw [if_pos shown, List.map_cons, behind, firstPerPath_of_free here]

theorem dedupe_keepsFirst (ms : List VolumeMount) : KeepsFirst ms (dedupe ms) where
  positions := firstPerPath_eq_positions
  inOrder := firstPerPath_sublist
  distinct := nodup_firstPerPath
  covers m member := by
    have found : (ms.find? (·.mountPath = m.mountPath)).isSome := by
      rw [List.find?_isSome]
      exact ⟨m, member, by simp⟩
    obtain ⟨k, first⟩ := Option.isSome_iff_exists.mp found
    have same : k.mountPath = m.mountPath := by simpa using List.find?_some first
    refine ⟨k, mem_firstPerPath.mpr ⟨List.not_mem_nil, ?_⟩, same⟩
    rw [same]
    exact first
  earliest k kept := (mem_firstPerPath.mp kept).2
  settled := dedupe_dedupe ms

end VolumeMount

namespace Disk

/-- A disk that a mount for a process of a job comes from: it is one of the job's, and either the
process's own or marked as a disk of the job itself. -/
structure Serves (job process : String) (m : VolumeMount) (d : Disk) : Prop where
  mounted : d.mount = some m
  ofJob : d.hasLabel jobLabel job = true
  scope : d.hasLabel processLabel process = true ∨ d.hasLabel ephemeralLabel "true" = true ∨
    d.hasLabel persistentLabel "true" = true

/-- What the disks offer a process of a job: the mounts of all disks with both labels, then that of
the first disk of the job that is marked ephemeral and that of the first one marked persistent. -/
def offered (disks : List Disk) (job process : String) : List VolumeMount :=
  (disks.filter fun d =>
      d.hasLabel jobLabel job && d.hasLabel processLabel process).filterMap (·.mount)
    ++ ((disks.find? fun d =>
      d.hasLabel jobLabel job && d.hasLabel ephemeralLabel "true").bind (·.mount)).toList
    ++ ((disks.find? fun d =>
      d.hasLabel jobLabel job && d.hasLabel persistentLabel "true").bind (·.mount)).toList

def containerMounts (general : List VolumeMount) (disks : List Disk) (job process : String) :
    List VolumeMount :=
  VolumeMount.ofContainer general ((catalog disks).processMounts job process)
    ((catalog disks).jobMounts job)

variable {disks : List Disk} {general : List VolumeMount} {job process : String} {m : VolumeMount}

theorem processMounts_eq : (catalog disks).processMounts job process =
    (disks.filter fun d =>
      d.hasLabel jobLabel job && d.hasLabel processLabel process).filterMap (·.mount) := by
  have swapped : (fun d : Disk => d.hasLabel processLabel process && d.hasLabel jobLabel job) =
      fun d => d.hasLabel jobLabel job && d.hasLabel processLabel process :=
    funext fun d => Bool.and_comm _ _
  simp only [catalog, mounts, labelled, List.filter_filter, swapped]

theorem firstMarked_labelled (disks : List Disk) (job label : String) :
    firstMarked (labelled disks jobLabel job) label =
      (disks.find? fun d => d.hasLabel jobLabel job && d.hasLabel label "true").bind (·.mount) := by
  rw [firstMarked, labelled, List.find?_filter]
  simp only [Bool.decide_and, Bool.decide_eq_true]

theorem containerMounts_eq :
    containerMounts general disks job process =
      VolumeMount.dedupe (general ++ offered disks job process) := by
  have ephemeral := firstMarked_labelled disks job ephemeralLabel
  have persistent := firstMarked_labelled disks job persistentLabel
  rw [containerMounts, VolumeMount.ofContainer, processMounts_eq, offered, ← ephemeral,
    ← persistent]
  simp only [catalog, List.append_assoc]

theorem exists_marked {label : String} (marked : (disks.find? fun d =>
      d.hasLabel jobLabel job && d.hasLabel label "true").bind (·.mount) = some m) :
    ∃ d ∈ disks, d.hasLabel jobLabel job = true ∧ d.hasLabel label "true" = true ∧
      d.mount = some m := by
  obtain ⟨d, found, mounted⟩ := Option.bind_eq_some_iff.mp marked
  have both : d.hasLabel jobLabel job = true ∧ d.hasLabel label "true" = true := by
    simpa using List.find?_some found
  exact ⟨d, List.mem_of_find?_eq_some found, both.1, both.2, mounted⟩

theorem exists_serves (inside : m ∈ offered disks job process) :
    ∃ d ∈ disks, d.Serves job process m := by
  simp only [offered, List.mem_append, Option.mem_toList] at inside
  rcases inside with (own | ephemeral) | persistent
  · obtain ⟨d, labels, mounted⟩ := List.mem_filterMap.mp own
    obtain ⟨known, both⟩ := List.mem_filter.mp labels
    obtain ⟨ofJob, ofProcess⟩ := Bool.and_eq_true_iff.mp both
    exact ⟨d, known, mounted, ofJob, .inl ofProcess⟩
  · obtain ⟨d, known, ofJob, marked, mounted⟩ := exists_marked ephemeral
    exact ⟨d, known, mounted, ofJob, .inr (.inl marked)⟩
  · obtain ⟨d, known, ofJob, marked, mounted⟩ := exists_marked persistent
    exact ⟨d, known, mounted, ofJob, .inr (.inr marked)⟩

theorem labelled_labelled (key value : String) :
    labelled (labelled disks key value) key value = labelled disks key value := by
  rw [labelled, labelled, List.filter_filter]
  simp only [Bool.and_self]

theorem containerMounts_labelled :
    containerMounts general (labelled disks jobLabel job) job process =
      containerMounts general disks job process := by
  simp only [containerMounts, catalog, labelled_labelled]

/-- The mounts of a container are those that come first for their path, of the general ones and
then of those the disks offer; so a disk never takes the place of a general mount. All others come
from disks of the job that are the process's own or marked, and disks of other jobs could be left
out. These are the mounts of every container of a conversion. -/
theorem containerMounts_first (general : List VolumeMount) (disks : List Disk) :
    (∀ job process,
      VolumeMount.KeepsFirst (general ++ offered disks job process)
        (containerMounts general disks job process) ∧
      (catalog disks).processMounts job process =
        (disks.filter fun d =>
          d.hasLabel jobLabel job && d.hasLabel processLabel process).filterMap (·.mount) ∧
      ((catalog disks).jobMounts job).ephemeral =
        (disks.find? fun d =>
          d.hasLabel jobLabel job && d.hasLabel ephemeralLabel "true").bind (·.mount) ∧
      ((catalog disks).jobMounts job).persistent =
        (disks.find? fun d =>
          d.hasLabel jobLabel job && d.hasLabel persistentLabel "true").bind (·.mount) ∧
      VolumeMount.dedupe general <+: containerMounts general disks job process ∧
      (∀ m ∈ containerMounts general disks job process, m ∉ general →
        ∃ d ∈ disks, d.Serves job process m) ∧
      containerMounts general (labelled disks jobLabel job) job process =
        containerMounts general disks job process) ∧
    ∀ (c : Conversion) (jobs : List Job) (out : List Container),
      c.containers jobs general (catalog disks) = .ok out →
      ∃ blocks, out = blocks.flatten ++ c.sidecars ∧
        List.Forall₂ (fun job block => ∃ config, c.configs.get? job.name = some config ∧
          List.Forall₂ (fun p x => x.volumeMounts = containerMounts general disks job.name p.name)
            config.processes block) jobs blocks := by
  constructor
  · intro job process
    have kept := VolumeMount.dedupe_keepsFirst (general ++ offered disks job process)
    rw [← containerMounts_eq] at kept
    refine ⟨kept, processMounts_eq, firstMarked_labelled disks job ephemeralLabel,
      firstMarked_labelled disks job persistentLabel, ?_, ?_, containerMounts_labelled⟩
    · rw [containerMounts_eq, VolumeMount.dedupe, VolumeMount.dedupe,
        VolumeMount.firstPerPath_append]
      exact List.prefix_append _ _
    · intro m member others
      have within := kept.inOrder.mem member
      rw [List.mem_append] at within
      exact exists_serves (within.resolve_left others)
  · intro c jobs out done
    obtain ⟨blocks, joined, built⟩ := Conversion.containers_ok done
    refine ⟨blocks, joined, built.imp ?_⟩
    intro job block made
    obtain ⟨config, found, containers⟩ := made
    have mounts := containers.imp fun entry x container => container.mounts
    refine ⟨config, found, ?_⟩
    rw [← List.zipIdx_map_fst 0 config.processes, List.forall₂_map_left_iff]
    exact mounts

end Disk

namespace Furnished

def mount (name path : String) : VolumeMount := ⟨name, path, none, none⟩

def general : List VolumeMount := [mount "jobs-dir" Volume.jobs]

def cache : VolumeMount := mount "cache" "/var/vcap/cache/api"
def data : VolumeMount := mount "data" "/var/vcap/data/api"
def store : VolumeMount := mount "store" "/var/vcap/store/api"

/-- The first disk wants the place of a general mount, and the last two come too late or belong to
another job. Those that are marked have no process. -/
def disks : List Disk :=
  [⟨some (mount "shadow" Volume.jobs), .ofList [("job_name", "api"), ("process_name", "api")]⟩,
    ⟨some store, .ofList [("job_name", "api"), ("persistent", "true")]⟩,
    ⟨some data, .ofList [("job_name", "api"), ("ephemeral", "true")]⟩,
    ⟨some cache, .ofList [("job_name", "api"), ("process_name", "api")]⟩,
    ⟨some (mount "late" "/var/vcap/data/late"), .ofList [("job_name", "api"), ("ephemeral", "true")]⟩,
    ⟨some (mount "other" "/var/vcap/store/db"),
      .ofList [("job_name", "db"), ("persistent", "true")]⟩]

theorem mounts_api : Disk.containerMounts general disks "api" "api" =
    general ++ [cache, data, store] := by
  decide

theorem converted : ∃ out,
    Trio.conversion.containers Trio.jobs general (Disk.catalog disks) = .ok out ∧
      out.length = 4 := by
  have ran : (Trio.conversion.containers Trio.jobs general (Disk.catalog disks)).toOption.map
      List.length = some 4 := by decide
  exact exists_ok ran

end Furnished

/-- A container keeps the general mount and has the disks of its process and its job; the marked
ones have no process label. -/
theorem containerMounts_first_furnished :
    Disk.containerMounts Furnished.general Furnished.disks "api" "api" =
        Furnished.general ++ [Furnished.cache, Furnished.data, Furnished.store] ∧
      Disk.offered Furnished.disks "api" "api" = Furnished.mount "shadow" Volume.jobs ::
        [Furnished.cache, Furnished.data, Furnished.store] ∧
      (∀ d ∈ Furnished.disks, d.mount = some Furnished.data ∨ d.mount = some Furnished.store →
        d.labels.get? Disk.processLabel = none) ∧
      (∃ d ∈ Furnished.disks, d.Serves "api" "api" Furnished.data) ∧
      (∃ d ∈ Furnished.disks, d.Serves "api" "api" Furnished.store) ∧
      ∃ out blocks,
        Trio.conversion.containers Trio.jobs Furnished.general (Disk.catalog Furnished.disks) =
          .ok out ∧
        out = blocks.flatten ++ Trio.conversion.sidecars ∧
        List.Forall₂ (fun job block => ∃ config,
          Trio.conversion.configs.get? job.name = some config ∧
          List.Forall₂ (fun p x => x.volumeMounts =
            Disk.containerMounts Furnished.general Furnished.disks job.name p.name)
            config.processes block) Trio.jobs blocks := by
  have mounts := Disk.containerMounts_first Furnished.general Furnished.disks
  obtain ⟨kept, -, -, -, -, served, -⟩ := mounts.1 "api" "api"
  have offers : Disk.offered Furnished.disks "api" "api" = Furnished.mount "shadow" Volume.jobs ::
      [Furnished.cache, Furnished.data, Furnished.store] := by decide
  have unlabelled : ∀ d ∈ Furnished.disks,
      d.mount = some Furnished.data ∨ d.mount = some Furnished.store →
        d.labels.get? Disk.processLabel = none := by decide
  have data := served Furnished.data (by rw [Furnished.mounts_api]; decide) (by decide)
  have store := served Furnished.store (by rw [Furnished.mounts_api]; decide) (by decide)
  obtain ⟨out, done, -⟩ := Furnished.converted
  obtain ⟨blocks, joined, built⟩ := mounts.2 Trio.conversion Trio.jobs out done
  exact ⟨Furnished.mounts_api, offers, unlabelled, data, store, out, blocks, done, joined, built⟩

end JobContainers

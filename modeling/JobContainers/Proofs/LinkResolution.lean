import JobContainers.Proofs.Collection
import JobContainers.Proofs.Consumption

set_option autoImplicit false

namespace JobContainers

theorem group?_withInstances (m : Manifest) (cluster : Cluster) (group : String) :
    (m.withInstances cluster).group? group = (m.group? group).map (·.withInstances cluster) := by
  rw [Manifest.group?, Manifest.withInstances, List.find?_map]
  rfl

theorem linked_collected {m collected : Manifest} {cluster : Cluster} {files : FileTree}
    {l : Linking} (done : Linking.empty.collect cluster files m = (l, collected, none))
    (job : Job) (c : ConsumedLink) :
    ((job.linked l.providers c).isSome ↔
      job.switchesOff c = false ∧ m.Provides files.specs c.type (job.soughtName c)) ∧
    ∀ link, job.linked l.providers c = some link →
      ∃ d, (m.declarations files.specs).filter (fun d => d.key = (c.type, job.soughtName c)) = [d] ∧
        link = d.link cluster := by
  rw [Job.linked]
  cases job.switchesOff c with
  | true =>
      rw [if_pos rfl]
      simp
  | false =>
      rw [if_neg Bool.false_ne_true, Linking.collect_empty_isSome done, ← provides_iff]
      constructor
      · exact ⟨fun provided => ⟨rfl, provided⟩, fun both => both.2⟩
      · intro link present
        exact (Linking.collect_empty_get done).mp present

namespace Manifest

variable {m : Manifest} {cluster : Cluster} {files : FileTree} {group : String}

theorem gather_of_fault {cause : CompileError}
    (fails : (Linking.empty.collect cluster files m).2.2 = some cause) (group : String) :
    m.gather cluster files group = (.error cause, []) := by
  rcases done : Linking.empty.collect cluster files m with ⟨l, collected, fault⟩
  rw [done] at fails
  obtain rfl : fault = some cause := fails
  rw [gather, done]

theorem gather_of_collected {l : Linking} {collected : Manifest}
    (done : Linking.empty.collect cluster files m = (l, collected, none)) (group : String) :
    m.gather cluster files group =
      match m.group? group with
      | none => (.error (.groupNotFound group), [])
      | some g => m.gatherJobs files l (g.withInstances cluster).jobs := by
  obtain ⟨-, -, -, rfl⟩ := Linking.collect_empty done
  rw [gather, done]
  dsimp only
  rw [group?_withInstances]
  cases m.group? group <;> rfl

theorem gather_ok {jobs : List Job} (done : (m.gather cluster files group).1 = .ok jobs) :
    ∃ l g, Linking.empty.collect cluster files m = (l, m.withInstances cluster, none) ∧
      m.group? group = some g ∧
      List.Forall₂ (fun job result => ∃ warnings, m.gatherJob files l job = .ok (result, warnings))
        (g.withInstances cluster).jobs jobs := by
  rcases run : Linking.empty.collect cluster files m with ⟨l, collected, fault⟩
  cases fault with
  | some cause =>
      rw [gather_of_fault (by rw [run])] at done
      cases done
  | none =>
      rw [gather_of_collected run] at done
      obtain ⟨-, -, -, rfl⟩ := Linking.collect_empty run
      cases found : m.group? group with
      | none => rw [found] at done; cases done
      | some g =>
          rw [found] at done
          exact ⟨l, g, rfl, rfl, gatherJobs_ok done⟩

theorem gathered_raw {l : Linking} {g : InstanceGroup} {jobs : List Job}
    (gathered : List.Forall₂ (fun job result => ∃ warnings,
      m.gatherJob files l job = .ok (result, warnings)) (g.withInstances cluster).jobs jobs) :
    jobs.map Job.raw = g.jobs.map Job.raw := by
  calc
    jobs.map Job.raw = (g.withInstances cluster).jobs.map Job.raw := by
      apply map_eq_map gathered
      intro job result made
      obtain ⟨warnings, made⟩ := made
      exact (gatherJob_ok made).1
    _ = g.jobs.map Job.raw := List.map_map

theorem gatherJob_links {l : Linking} {job gathered : Job} {warnings : List Warning}
    (done : m.gatherJob files l job = .ok (gathered, warnings))
    (fresh : job.resolved.consumes = ∅) :
    ∃ spec, l.specs.get? (gathered.release, gathered.name) = some spec ∧
      ((spec.consumes.map (·.name)).Nodup → ∀ c ∈ spec.consumes,
        gathered.resolved.consumes.get? c.name = gathered.linked l.providers c) := by
  obtain ⟨raw, -, spec, cached, attached⟩ := gatherJob_ok done
  obtain ⟨name, release, -, -, -⟩ := Job.fields_of_raw raw
  refine ⟨spec, by rw [release, name]; exact cached, ?_⟩
  intro distinct c member
  have sameRaw : (job.withRelease m).raw = gathered.raw := by rw [raw, Job.withRelease_raw]
  rw [Linking.attach_named attached, fresh, Dict.get?_empty, Option.or_none,
    Job.linkNamed_of_mem distinct member, Job.linked_of_raw sameRaw]

/-- A consumer has a link exactly if it is not switched off and some job of the deployment declares
a provider of its type under the name that it looks for. There is one such declaration then, and
the link is that of the declaration. -/
theorem gather_links {jobs : List Job} (done : (m.gather cluster files group).1 = .ok jobs)
    (fresh : ∀ g ∈ m.instanceGroups, ∀ job ∈ g.jobs, job.resolved = .unset) :
    (∃ g, m.group? group = some g ∧ jobs.map Job.raw = g.jobs) ∧
      ∀ job ∈ jobs, ∃ spec, files.specs job.release job.name = .ok spec ∧
        ((spec.consumes.map (·.name)).Nodup → ∀ c ∈ spec.consumes,
          ((job.resolved.consumes.get? c.name).isSome ↔
            job.switchesOff c = false ∧ m.Provides files.specs c.type (job.soughtName c)) ∧
          ∀ link, job.resolved.consumes.get? c.name = some link →
            ∃ d, (m.declarations files.specs).filter
                (fun d => d.key = (c.type, job.soughtName c)) = [d] ∧
              link.instances = d.group.jobInstances cluster d.job.name ∧
              link.properties = d.job.linkProperties d.spec d.provided) := by
  obtain ⟨l, g, collected, found, gathered⟩ := gather_ok done
  have unset : ∀ job ∈ g.jobs, job.resolved = .unset := fresh g (List.mem_of_find?_eq_some found)
  constructor
  · refine ⟨g, found, ?_⟩
    rw [gathered_raw gathered,
      List.map_congr_left fun job placed => Job.raw_of_unset (unset job placed)]
    exact List.map_id' g.jobs
  · intro job member
    obtain ⟨source, placed, warnings, made⟩ := exists_item gathered member
    -- collecting sets instances only, so the job comes to its consumers without links
    have unlinked : source.resolved.consumes = ∅ := by
      obtain ⟨original, inside, rfl⟩ := List.mem_map.mp placed
      rw [Job.withInstances, unset original inside]
      rfl
    obtain ⟨spec, cached, links⟩ := gatherJob_links made unlinked
    refine ⟨spec, Linking.collect_empty_spec collected cached, ?_⟩
    intro distinct c consumed
    rw [links distinct c consumed]
    obtain ⟨present, origin⟩ := linked_collected collected job c
    refine ⟨present, ?_⟩
    intro link linked
    obtain ⟨d, single, rfl⟩ := origin link linked
    exact ⟨d, single, rfl, rfl⟩

end Manifest

namespace Renamed

def manifest : Manifest where
  name := "shop"
  releases := []
  instanceGroups :=
    [⟨"web", 1, [], none, [⟨"app", "r", .unset, ∅,
        .ofList [("store", .ofEntries [("from", .string "main")])], .unset⟩]⟩,
      ⟨"data", 2, ["z1"], none, [⟨"pg", "r", .unset,
        .ofList [("db", .ofEntries [("as", .string "main")])], ∅, .unset⟩]⟩]

def files : FileTree :=
  (FileTree.empty "base").write "jobs-src/r/app/job.MF"
      ("consumes:\n- name: store\n  type: sql\n- name: cache\n  type: kv\n  optional: true\n"
        ++ "templates:\n  t: bpm.yml\n").toUTF8
    |>.write "jobs-src/r/app/templates/t" "processes: []\n".toUTF8
    |>.write "jobs-src/r/pg/job.MF" "provides:\n- name: db\n  type: sql\n".toUTF8

def cluster : Cluster := ⟨"shop", Cluster.defaultDomain⟩

end Renamed

theorem gather_links_renamed :
    ∃ job link, (Renamed.manifest.gather Renamed.cluster Renamed.files "web").1 = .ok [job] ∧
      (∀ g ∈ Renamed.manifest.instanceGroups, ∀ job ∈ g.jobs, job.resolved = .unset) ∧
      job.resolved.consumes.get? "store" = some link ∧
      job.resolved.consumes.get? "cache" = none ∧
      ∃ d, (Renamed.manifest.declarations Renamed.files.specs).filter
          (fun d => d.key = ("sql", "main")) = [d] ∧
        link.instances = d.group.jobInstances Renamed.cluster d.job.name ∧
        link.properties = d.job.linkProperties d.spec d.provided := by
  have ran : ((Renamed.manifest.gather Renamed.cluster Renamed.files "web").1.toOption.map
      fun jobs => jobs.map fun job => (job.release, job.name,
        job.soughtName ⟨"store", "sql", false⟩, (job.resolved.consumes.get? "store").isSome,
        (job.resolved.consumes.get? "cache").isSome)) =
      some [("r", "app", "main", true, false)] := by decide +kernel
  have declared : (Renamed.files.specs "r" "app").toOption.map (·.consumes) =
      some [⟨"store", "sql", false⟩, ⟨"cache", "kv", true⟩] := by decide +kernel
  cases done : (Renamed.manifest.gather Renamed.cluster Renamed.files "web").1 with
  | error cause => rw [done] at ran; cases ran
  | ok jobs =>
      rw [done] at ran
      obtain ⟨job, rfl, fields⟩ := List.map_eq_singleton_iff.mp (Option.some.inj ran)
      obtain ⟨release, name, sought, store, cache⟩ : job.release = "r" ∧ job.name = "app" ∧
          job.soughtName ⟨"store", "sql", false⟩ = "main" ∧
          (job.resolved.consumes.get? "store").isSome = true ∧
          (job.resolved.consumes.get? "cache").isSome = false := by
        simpa only [Prod.mk.injEq] using fields
      have fresh : ∀ g ∈ Renamed.manifest.instanceGroups, ∀ job ∈ g.jobs,
          job.resolved = .unset := by decide
      obtain ⟨-, linked⟩ := Manifest.gather_links done fresh
      obtain ⟨spec, read, ofConsumer⟩ := linked job List.mem_cons_self
      rw [release, name] at read
      rw [read] at declared
      have consumers : spec.consumes = [⟨"store", "sql", false⟩, ⟨"cache", "kv", true⟩] :=
        Option.some.inj declared
      rw [consumers] at ofConsumer
      obtain ⟨link, present⟩ := Option.isSome_iff_exists.mp store
      obtain ⟨-, origin⟩ := ofConsumer (by decide) _ List.mem_cons_self
      obtain ⟨d, single, instances, properties⟩ := origin link present
      rw [sought] at single
      exact ⟨job, link, rfl, fresh, present, Option.isNone_iff_eq_none.mp (by simpa using cache),
        d, single, instances, properties⟩

end JobContainers

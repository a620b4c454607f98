import JobContainers.Proofs.Declarations

set_option autoImplicit false

namespace JobContainers

def InstanceGroup.withInstances (g : InstanceGroup) (cluster : Cluster) : InstanceGroup :=
  { g with jobs := g.jobs.map fun job => job.withInstances (g.jobInstances cluster job.name) }

def Manifest.withInstances (m : Manifest) (cluster : Cluster) : Manifest :=
  { m with instanceGroups := m.instanceGroups.map fun g => g.withInstances cluster }

def InstanceGroup.mapJobs (f : Job → Job) (g : InstanceGroup) : InstanceGroup :=
  { g with jobs := g.jobs.map f }

def Manifest.mapJobs (f : Job → Job) (m : Manifest) : Manifest :=
  { m with instanceGroups := m.instanceGroups.map (·.mapJobs f) }

theorem Manifest.group?_mapJobs (f : Job → Job) (m : Manifest) (group : String) :
    (m.mapJobs f).group? group = (m.group? group).map (·.mapJobs f) := by
  rw [group?, mapJobs, List.find?_map]
  rfl

/-- The function leaves all that collecting reads of a job. -/
structure Job.KeepsCollected (f : Job → Job) : Prop where
  name : ∀ job, (f job).name = job.name
  release : ∀ job, (f job).release = job.release
  overrides : ∀ job, (f job).properties.overrides = job.properties.overrides
  provides : ∀ job, (f job).provides = job.provides

namespace Linking

section Unread

open Progress (outcome)

variable {f : Job → Job} (keeps : Job.KeepsCollected f)

include keeps

theorem provide_of_keeps (job : Job) : provide (f job) = provide job := by
  funext spec instances t provided
  simp only [provide, Job.providerName, Job.linkProperties, Job.effectiveProperty, Job.property?,
    keeps.name, keeps.overrides, keeps.provides]

variable (l : Linking) (cluster : Cluster) (files : FileTree)

theorem collectJob_mapJobs (g : InstanceGroup) (job : Job) :
    outcome (collectJob cluster files (g.mapJobs f) l (f job)) =
      outcome (collectJob cluster files g l job) := by
  have instances (name : String) :
      (g.mapJobs f).jobInstances cluster name = g.jobInstances cluster name := rfl
  rw [collectJob, collectJob, keeps.name, keeps.release]
  cases l.specs.load files job.release job.name with
  | error cause => rfl
  | ok loaded =>
      obtain ⟨spec, specs⟩ := loaded
      dsimp only
      rw [instances, provide_of_keeps keeps]
      rcases Progress.fold (provide job spec (g.jobInstances cluster job.name)) l.providers
        spec.provides with ⟨providers, _ | cause⟩ <;> rfl

theorem collectGroup_mapJobs (g : InstanceGroup) :
    outcome (collectGroup cluster files l (g.mapJobs f)) =
      outcome (collectGroup cluster files l g) :=
  Progress.update_map (fun l job => collectJob_mapJobs keeps l cluster files g job) l g.jobs

theorem collect_mapJobs (m : Manifest) :
    outcome (l.collect cluster files (m.mapJobs f)) = outcome (l.collect cluster files m) :=
  Progress.update_map (fun l g => collectGroup_mapJobs keeps l cluster files g) l m.instanceGroups

end Unread

/-- Declarations are added behind what is registered; no job gets another specification. -/
structure Extends (files : FileTree) (cluster : Cluster) (before after : Linking)
    (added : List Declaration) : Prop where
  source : after.specs.source files = before.specs.source files
  kept : ∀ key spec, before.specs.get? key = some spec → after.specs.get? key = some spec
  providers : after.providers.entries =
    before.providers.entries ++ added.map (Declaration.entry cluster)

variable {files : FileTree} {cluster : Cluster}

theorem Extends.refl (l : Linking) : l.Extends files cluster l [] :=
  ⟨rfl, fun _ _ present => present, (List.append_nil _).symm⟩

theorem Extends.trans {first second third : Linking} {ds es : List Declaration}
    (left : first.Extends files cluster second ds)
    (right : second.Extends files cluster third es) :
    first.Extends files cluster third (ds ++ es) := by
  refine ⟨right.source.trans left.source,
    fun key spec present => right.kept key spec (left.kept key spec present), ?_⟩
  rw [right.providers, left.providers, List.map_append, List.append_assoc]

def Caches (l : Linking) (job : Job) : Prop :=
  ∃ spec, l.specs.get? (job.release, job.name) = some spec

theorem Extends.caches {before after : Linking} {ds : List Declaration} {job : Job}
    (grown : before.Extends files cluster after ds) (cached : before.Caches job) :
    after.Caches job := by
  obtain ⟨spec, present⟩ := cached
  exact ⟨spec, grown.kept _ spec present⟩

theorem register_ok {t after : ProviderTable} {type name : String} {link : JobLink}
    (done : t.register type name link = .ok after) :
    after.entries = t.entries ++ [((type, name), link)] := by
  rw [ProviderTable.register] at done
  split at done
  · cases done
  · rename_i free
    cases done
    exact Registry.entries_add link free

theorem provide_ok {g : InstanceGroup} {job : Job} {spec : JobSpec} {t after : ProviderTable}
    {provided : ProvidedLink}
    (done : provide job spec (g.jobInstances cluster job.name) t provided = .ok after) :
    after.entries = t.entries ++ [Declaration.entry cluster ⟨g, job, spec, provided⟩] := by
  obtain ⟨name, named, registered⟩ := bind_ok.mp done
  cases Job.providerName_ok named
  exact register_ok registered

theorem provide_all {g : InstanceGroup} {job : Job} {spec : JobSpec} {t after : ProviderTable}
    {provides : List ProvidedLink}
    (done : Progress.fold (provide job spec (g.jobInstances cluster job.name)) t provides =
      (after, none)) :
    after.entries = t.entries ++
      provides.map fun provided => Declaration.entry cluster ⟨g, job, spec, provided⟩ := by
  refine Progress.fold_induction _ (fun t provides after => after.entries = t.entries ++
    provides.map fun provided => Declaration.entry cluster ⟨g, job, spec, provided⟩) ?_ ?_ done
  · intro t
    exact (List.append_nil _).symm
  · intro t provided middle provides after first rest
    rw [rest, provide_ok first, List.append_assoc, List.map_cons, List.singleton_append]

theorem collectJob_ok {g : InstanceGroup} {l after : Linking} {job collected : Job}
    (done : collectJob cluster files g l job = (after, collected, none)) :
    l.Extends files cluster after (job.declarations (l.specs.source files) g) ∧
      after.Caches job ∧ collected = job.withInstances (g.jobInstances cluster job.name) := by
  rw [collectJob] at done
  split at done
  · cases done
  · rename_i spec specs loaded
    obtain ⟨read, same, cached, kept⟩ := SpecCache.load_ok loaded
    dsimp only at done
    split at done
    · cases done
    · rename_i providers provided
      cases done
      refine ⟨⟨same, kept, ?_⟩, ⟨spec, cached⟩, rfl⟩
      rw [Job.declarations, read, List.map_map]
      exact provide_all provided

theorem update_ok {α : Type} {step : Linking → α → Linking × α × Option CompileError}
    (declarations : α → SpecSource → List Declaration) (jobs : α → List Job) (result : α → α)
    (each : ∀ l x after y, step l x = (after, y, none) →
      l.Extends files cluster after (declarations x (l.specs.source files)) ∧
        (∀ job ∈ jobs x, after.Caches job) ∧ y = result x)
    {l after : Linking} {xs ys : List α}
    (done : Progress.update step l xs = (after, ys, none)) :
    l.Extends files cluster after (xs.flatMap fun x => declarations x (l.specs.source files)) ∧
      (∀ x ∈ xs, ∀ job ∈ jobs x, after.Caches job) ∧ ys = xs.map result := by
  refine Progress.update_induction _ (fun l xs after ys =>
    l.Extends files cluster after (xs.flatMap fun x => declarations x (l.specs.source files)) ∧
      (∀ x ∈ xs, ∀ job ∈ jobs x, after.Caches job) ∧ ys = xs.map result) ?_ ?_ done
  · intro l
    exact ⟨.refl l, by simp, rfl⟩
  · intro l x middle y xs last ys first ⟨rest, cached, same⟩
    obtain ⟨extended, here, updated⟩ := each l x middle y first
    -- the rest is described by the middle state, which has the same specifications
    rw [extended.source] at rest
    refine ⟨extended.trans rest, ?_, by rw [updated, same, List.map_cons]⟩
    intro other member job placed
    rcases List.mem_cons.mp member with rfl | member
    · exact rest.caches (here job placed)
    · exact cached other member job placed

theorem jobs_ok {g : InstanceGroup} {l after : Linking} {jobs collected : List Job}
    (done : Progress.update (collectJob cluster files g) l jobs = (after, collected, none)) :
    l.Extends files cluster after
        (jobs.flatMap fun job => job.declarations (l.specs.source files) g) ∧
      (∀ job ∈ jobs, after.Caches job) ∧
      collected = jobs.map fun job => job.withInstances (g.jobInstances cluster job.name) := by
  have each : ∀ l job after collected, collectJob cluster files g l job = (after, collected, none) →
      l.Extends files cluster after (job.declarations (l.specs.source files) g) ∧
        (∀ other ∈ [job], after.Caches other) ∧
        collected = job.withInstances (g.jobInstances cluster job.name) := by
    intro l job after collected made
    obtain ⟨extended, cached, same⟩ := collectJob_ok made
    exact ⟨extended, List.forall_mem_singleton.mpr cached, same⟩
  obtain ⟨extended, cached, same⟩ := update_ok (fun job specs => job.declarations specs g)
    (fun job => [job]) (fun job => job.withInstances (g.jobInstances cluster job.name)) each done
  exact ⟨extended, fun job placed => cached job placed job List.mem_cons_self, same⟩

theorem collectGroup_ok {l after : Linking} {g collected : InstanceGroup}
    (done : collectGroup cluster files l g = (after, collected, none)) :
    l.Extends files cluster after (g.declarations (l.specs.source files)) ∧
      (∀ job ∈ g.jobs, after.Caches job) ∧ collected = g.withInstances cluster := by
  rcases run : Progress.update (collectJob cluster files g) l g.jobs with ⟨last, jobs, fault⟩
  rw [collectGroup, run] at done
  cases done
  obtain ⟨extended, cached, same⟩ := jobs_ok run
  refine ⟨extended, cached, ?_⟩
  rw [same]
  rfl

theorem groups_ok {l after : Linking} {gs collected : List InstanceGroup}
    (done : Progress.update (collectGroup cluster files) l gs = (after, collected, none)) :
    l.Extends files cluster after (gs.flatMap (·.declarations (l.specs.source files))) ∧
      (∀ g ∈ gs, ∀ job ∈ g.jobs, after.Caches job) ∧
      collected = gs.map (·.withInstances cluster) :=
  update_ok InstanceGroup.declarations (·.jobs) (·.withInstances cluster)
    (fun _ _ _ _ made => collectGroup_ok made) done

theorem collect_ok {l after : Linking} {m collected : Manifest}
    (done : l.collect cluster files m = (after, collected, none)) :
    l.Extends files cluster after (m.declarations (l.specs.source files)) ∧
      (∀ g ∈ m.instanceGroups, ∀ job ∈ g.jobs, after.Caches job) ∧
      collected = m.withInstances cluster := by
  rcases run : Progress.update (collectGroup cluster files) l m.instanceGroups with
    ⟨last, groups, fault⟩
  rw [collect, run] at done
  cases done
  obtain ⟨extended, cached, same⟩ := groups_ok run
  refine ⟨extended, cached, ?_⟩
  rw [same]
  rfl

/-- A pass over a whole deployment that starts from nothing: the table has one entry for each
declaration, and jobs have the specifications of the files. -/
theorem collect_empty {after : Linking} {m collected : Manifest}
    (done : Linking.empty.collect cluster files m = (after, collected, none)) :
    after.specs.source files = files.specs ∧
      after.providers.entries = (m.declarations files.specs).map (Declaration.entry cluster) ∧
      (∀ g ∈ m.instanceGroups, ∀ job ∈ g.jobs, after.Caches job) ∧
      collected = m.withInstances cluster := by
  obtain ⟨extended, cached, same⟩ := collect_ok done
  exact ⟨extended.source, extended.providers, cached, same⟩

theorem collect_empty_get {after : Linking} {m collected : Manifest} {key : String × String}
    {link : JobLink} (done : Linking.empty.collect cluster files m = (after, collected, none)) :
    after.providers.get? key = some link ↔
      ∃ d, (m.declarations files.specs).filter (fun d => d.key = key) = [d] ∧
        link = d.link cluster := by
  obtain ⟨-, entries, -, -⟩ := collect_empty done
  have distinct := after.providers.distinct
  rw [entries, List.map_map] at distinct
  rw [Registry.get?, entries]
  exact Declaration.lookup_entries cluster key link distinct

theorem collect_empty_isSome {after : Linking} {m collected : Manifest} {key : String × String}
    (done : Linking.empty.collect cluster files m = (after, collected, none)) :
    (after.providers.get? key).isSome ↔ ∃ d ∈ m.declarations files.specs, d.key = key := by
  obtain ⟨-, entries, -, -⟩ := collect_empty done
  rw [← Option.ne_none_iff_isSome, ne_eq, Registry.get?_eq_none_iff, not_not, entries,
    List.map_map, List.mem_map]
  rfl

theorem collect_empty_spec {after : Linking} {m collected : Manifest} {job : Job} {spec : JobSpec}
    (done : Linking.empty.collect cluster files m = (after, collected, none))
    (cached : after.specs.get? (job.release, job.name) = some spec) :
    files.specs job.release job.name = .ok spec := by
  obtain ⟨source, -, -, -⟩ := collect_empty done
  rw [← source, SpecCache.source, cached]

end Linking

end JobContainers

import JobContainers.Proofs.Collection
import Mathlib.Data.Finset.Card

set_option autoImplicit false

namespace JobContainers

namespace Job

def identity (job : Job) : String × String := (job.release, job.name)

def NamesProvider (job : Job) (provider : String) : Prop :=
  ∀ settings, job.provides.get? provider = some settings → settings.isMap = true

/-- The specification of the job loads, and all its providers have a name. -/
def Collectable (job : Job) (specs : SpecSource) : Prop :=
  ∃ spec, specs job.release job.name = .ok spec ∧
    ∀ provided ∈ spec.provides, job.NamesProvider provided.name

theorem providerName_iff {job : Job} {provider name : String} :
    job.providerName provider = .ok name ↔
      job.NamesProvider provider ∧ name = job.registeredName provider := by
  rw [providerName, NamesProvider, registeredName]
  cases job.provides.get? provider with
  | none =>
      constructor
      · intro done
        cases done
        refine ⟨?_, rfl⟩
        intro settings present
        cases present
      · rintro ⟨-, rfl⟩
        rfl
  | some settings =>
      cases settings with
      | map entries =>
          constructor
          · intro done
            cases done
            refine ⟨?_, rfl⟩
            intro settings same
            cases same
            rfl
          · rintro ⟨-, rfl⟩
            rfl
      | null | bool | number | string | list =>
          constructor
          · intro done
            cases done
          · rintro ⟨isMap, -⟩
            cases isMap _ rfl

end Job

namespace Manifest

def jobs (m : Manifest) : List Job := m.instanceGroups.flatMap (·.jobs)

structure Collectable (m : Manifest) (specs : SpecSource) : Prop where
  jobs : ∀ job ∈ m.jobs, job.Collectable specs
  distinct : ((m.declarations specs).map Declaration.key).Nodup

end Manifest

namespace Linking

variable {files : FileTree} {cluster : Cluster}

/-- Specifications of jobs have been loaded, and none beside them. -/
structure Loads (files : FileTree) (before after : Linking) (jobs : List Job) : Prop where
  source : after.specs.source files = before.specs.source files
  collectable : ∀ job ∈ jobs, job.Collectable (before.specs.source files)
  cached : ∀ key, (after.specs.get? key).isSome ↔
    (before.specs.get? key).isSome ∨ key ∈ jobs.map Job.identity

theorem Loads.refl (l : Linking) : l.Loads files l [] := ⟨rfl, by simp, by simp⟩

theorem Loads.trans {first second third : Linking} {jobs more : List Job}
    (left : first.Loads files second jobs) (right : second.Loads files third more) :
    first.Loads files third (jobs ++ more) where
  source := right.source.trans left.source
  collectable job member := by
    rcases List.mem_append.mp member with member | member
    · exact left.collectable job member
    · exact left.source ▸ right.collectable job member
  cached key := by
    rw [right.cached, left.cached, List.map_append, List.mem_append, or_assoc]

theorem load_cached {c after : SpecCache} {release job : String} {spec : JobSpec}
    (done : c.load files release job = .ok (spec, after)) (key : String × String) :
    (after.get? key).isSome ↔ (c.get? key).isSome ∨ key = (release, job) := by
  rw [SpecCache.load] at done
  split at done
  · rename_i cached present
    cases done
    constructor
    · exact .inl
    · rintro (known | rfl)
      · exact known
      · exact Option.isSome_of_mem present
  · obtain ⟨read, -, same⟩ := map_ok.mp done
    cases same
    rw [Registry.get?_add, Option.isSome_or, Bool.or_eq_true]
    by_cases here : key = (release, job) <;> simp [here]

theorem load_total {c : SpecCache} {release job : String} {spec : JobSpec}
    (read : c.source files release job = .ok spec) :
    ∃ after, c.load files release job = .ok (spec, after) := by
  rw [SpecCache.source] at read
  rw [SpecCache.load]
  cases present : c.get? (release, job) with
  | none =>
      rw [present] at read
      exact ⟨_, map_ok.mpr ⟨spec, read, rfl⟩⟩
  | some cached =>
      rw [present] at read
      cases read
      exact ⟨c, rfl⟩

theorem provide_names {job : Job} {spec : JobSpec} {instances : List JobInstance}
    {t after : ProviderTable} {provides : List ProvidedLink}
    (done : Progress.fold (provide job spec instances) t provides = (after, none)) :
    ∀ provided ∈ provides, job.NamesProvider provided.name := by
  refine Progress.fold_induction _ (fun _ provides _ =>
    ∀ provided ∈ provides, job.NamesProvider provided.name) (by simp) ?_ done
  intro t provided middle provides after first rest
  obtain ⟨name, named, -⟩ := bind_ok.mp first
  exact List.forall_mem_cons.mpr ⟨(Job.providerName_iff.mp named).1, rest⟩

theorem collectJob_loads {g : InstanceGroup} {l after : Linking} {job collected : Job}
    (done : collectJob cluster files g l job = (after, collected, none)) :
    l.Loads files after [job] := by
  rw [collectJob] at done
  split at done
  · cases done
  · rename_i spec specs loaded
    obtain ⟨read, same, -, -⟩ := SpecCache.load_ok loaded
    dsimp only at done
    split at done
    · cases done
    · rename_i providers provided
      cases done
      refine ⟨same, ?_, ?_⟩
      · exact List.forall_mem_singleton.mpr ⟨spec, read, provide_names provided⟩
      · intro key
        rw [load_cached loaded, List.map_singleton, List.mem_singleton, Job.identity]

theorem update_loads {α : Type} {step : Linking → α → Linking × α × Option CompileError}
    (jobs : α → List Job)
    (each : ∀ l x after y, step l x = (after, y, none) → l.Loads files after (jobs x))
    {l after : Linking} {xs ys : List α}
    (done : Progress.update step l xs = (after, ys, none)) :
    l.Loads files after (xs.flatMap jobs) := by
  refine Progress.update_induction _ (fun l xs after _ => l.Loads files after (xs.flatMap jobs))
    Loads.refl ?_ done
  intro l x middle y xs last ys first rest
  exact (each l x middle y first).trans rest

theorem jobs_load {g : InstanceGroup} {l after : Linking} {jobs collected : List Job}
    (done : Progress.update (collectJob cluster files g) l jobs = (after, collected, none)) :
    l.Loads files after jobs := by
  rw [← List.flatMap_singleton' jobs]
  exact update_loads (fun job => [job]) (fun _ _ _ _ one => collectJob_loads one) done

theorem groups_load {l after : Linking} {gs collected : List InstanceGroup}
    (done : Progress.update (collectGroup cluster files) l gs = (after, collected, none)) :
    l.Loads files after (gs.flatMap (·.jobs)) := by
  refine update_loads (·.jobs) ?_ done
  intro l g after collected made
  rcases run : Progress.update (collectJob cluster files g) l g.jobs with ⟨last, jobs, fault⟩
  rw [collectGroup, run] at made
  cases made
  exact jobs_load run

theorem collect_loads {l after : Linking} {m collected : Manifest}
    (done : l.collect cluster files m = (after, collected, none)) :
    l.Loads files after m.jobs := by
  rcases run : Progress.update (collectGroup cluster files) l m.instanceGroups with
    ⟨last, groups, fault⟩
  rw [collect, run] at done
  cases done
  exact groups_load run

/-- Declarations can be registered: their specifications are the known ones, and no key is taken. -/
structure Ready (files : FileTree) (specs : SpecSource) (l : Linking) (ds : List Declaration) :
    Prop where
  source : l.specs.source files = specs
  distinct : (l.providers.entries.map (·.1) ++ ds.map Declaration.key).Nodup

variable {specs : SpecSource}

theorem Ready.left {l : Linking} {ds es : List Declaration}
    (ready : l.Ready files specs (ds ++ es)) : l.Ready files specs ds := by
  refine ⟨ready.source, ready.distinct.sublist ?_⟩
  rw [List.map_append]
  exact (List.sublist_append_left _ _).append_left _

theorem Ready.next {l after : Linking} {ds es : List Declaration}
    (ready : l.Ready files specs (ds ++ es)) (grown : l.Extends files cluster after ds) :
    after.Ready files specs es := by
  refine ⟨grown.source.trans ready.source, ?_⟩
  have keys : (ds.map (Declaration.entry cluster)).map (·.1) = ds.map Declaration.key :=
    List.map_map
  rw [grown.providers, List.map_append, keys, List.append_assoc, ← List.map_append]
  exact ready.distinct

theorem register_free {t : ProviderTable} {type name : String} (link : JobLink)
    (free : (type, name) ∉ t.entries.map (·.1)) :
    t.register type name link = .ok (t.add (type, name) link) := by
  rw [ProviderTable.register, Registry.get?_eq_none_iff.mpr free]

theorem provide_total {job : Job} {spec : JobSpec} {instances : List JobInstance}
    {t : ProviderTable} {provides : List ProvidedLink}
    (named : ∀ provided ∈ provides, job.NamesProvider provided.name)
    (distinct : (t.entries.map (·.1) ++ provides.map fun provided =>
      (provided.type, job.registeredName provided.name)).Nodup) :
    ∃ after, Progress.fold (provide job spec instances) t provides = (after, none) := by
  refine Progress.fold_total _ (fun t provides =>
    (∀ provided ∈ provides, job.NamesProvider provided.name) ∧
      (t.entries.map (·.1) ++ provides.map fun provided =>
        (provided.type, job.registeredName provided.name)).Nodup) ?_ ⟨named, distinct⟩
  rintro t provided provides ⟨named, distinct⟩
  obtain ⟨here, others⟩ := List.forall_mem_cons.mp named
  rw [List.map_cons] at distinct
  have free : (provided.type, job.registeredName provided.name) ∉ t.entries.map (·.1) := by
    intro taken
    exact List.disjoint_of_nodup_append distinct taken List.mem_cons_self
  have name := Job.providerName_iff.mpr ⟨here, rfl⟩
  refine ⟨_, bind_ok.mpr ⟨_, name, register_free _ free⟩, others, ?_⟩
  rw [Registry.entries_add _ (Registry.get?_eq_none_iff.mpr free), List.map_append,
    List.append_assoc]
  exact distinct

theorem collectJob_total {g : InstanceGroup} {l : Linking} {job : Job}
    (ready : l.Ready files specs (job.declarations specs g))
    (collectable : job.Collectable specs) :
    ∃ after collected, collectJob cluster files g l job = (after, collected, none) := by
  obtain ⟨spec, read, named⟩ := collectable
  rw [← ready.source] at read
  obtain ⟨cache, loaded⟩ := load_total read
  have keys : (job.declarations specs g).map Declaration.key = spec.provides.map
      fun provided => (provided.type, job.registeredName provided.name) := by
    rw [← ready.source, Job.declarations, read, List.map_map]
    rfl
  have distinct := ready.distinct
  rw [keys] at distinct
  obtain ⟨providers, provided⟩ : ∃ providers, Progress.fold
      (provide job spec (g.jobInstances cluster job.name)) l.providers spec.provides =
        (providers, none) := provide_total named distinct
  rw [collectJob, loaded]
  dsimp only
  rw [provided]
  exact ⟨_, _, rfl⟩

theorem update_grows {α : Type} {step : Linking → α → Linking × α × Option CompileError}
    (declarations : α → List Declaration)
    {l : Linking} {xs : List α}
    (each : ∀ x ∈ xs, ∀ l : Linking, l.Ready files specs (declarations x) →
      ∃ after y, step l x = (after, y, none) ∧ l.Extends files cluster after (declarations x))
    (ready : l.Ready files specs (xs.flatMap declarations)) :
    ∃ after ys, Progress.update step l xs = (after, ys, none) := by
  refine Progress.update_total step (fun l xs => l.Ready files specs (xs.flatMap declarations) ∧
    ∀ x ∈ xs, ∀ l : Linking, l.Ready files specs (declarations x) →
      ∃ after y, step l x = (after, y, none) ∧
        l.Extends files cluster after (declarations x)) ?_ ⟨ready, each⟩
  rintro l x xs ⟨ready, each⟩
  obtain ⟨here, others⟩ := List.forall_mem_cons.mp each
  rw [List.flatMap_cons] at ready
  -- the item adds its own declarations and no others, so the keys of the rest stay free
  obtain ⟨middle, y, first, grown⟩ := here l ready.left
  exact ⟨middle, y, first, ready.next grown, others⟩

theorem collectJob_grows {g : InstanceGroup} {l : Linking} {job : Job}
    (ready : l.Ready files specs (job.declarations specs g))
    (collectable : job.Collectable specs) :
    ∃ after collected, collectJob cluster files g l job = (after, collected, none) ∧
      l.Extends files cluster after (job.declarations specs g) := by
  obtain ⟨after, collected, done⟩ := collectJob_total ready collectable
  obtain ⟨grown, -, -⟩ := collectJob_ok done
  rw [ready.source] at grown
  exact ⟨after, collected, done, grown⟩

theorem jobs_grow (cluster : Cluster) {g : InstanceGroup} {l : Linking} {jobs : List Job}
    (ready : l.Ready files specs (jobs.flatMap fun job => job.declarations specs g))
    (collectable : ∀ job ∈ jobs, job.Collectable specs) :
    ∃ after collected, Progress.update (collectJob cluster files g) l jobs =
      (after, collected, none) := by
  have each : ∀ job ∈ jobs, ∀ l : Linking, l.Ready files specs (job.declarations specs g) →
      ∃ after collected, collectJob cluster files g l job = (after, collected, none) ∧
        l.Extends files cluster after (job.declarations specs g) := by
    intro job member l ready
    exact collectJob_grows ready (collectable job member)
  exact update_grows (fun job => job.declarations specs g) each ready

theorem collectGroup_grows {g : InstanceGroup} {l : Linking}
    (ready : l.Ready files specs (g.declarations specs))
    (collectable : ∀ job ∈ g.jobs, job.Collectable specs) :
    ∃ after collected, collectGroup cluster files l g = (after, collected, none) ∧
      l.Extends files cluster after (g.declarations specs) := by
  obtain ⟨after, jobs, run⟩ := jobs_grow cluster ready collectable
  have done : collectGroup cluster files l g = (after, { g with jobs := jobs }, none) := by
    rw [collectGroup, run]
  obtain ⟨grown, -, -⟩ := collectGroup_ok done
  rw [ready.source] at grown
  exact ⟨after, _, done, grown⟩

theorem groups_grow (cluster : Cluster) {l : Linking} {gs : List InstanceGroup}
    (ready : l.Ready files specs (gs.flatMap fun g => g.declarations specs))
    (collectable : ∀ job ∈ gs.flatMap (·.jobs), job.Collectable specs) :
    ∃ after collected, Progress.update (collectGroup cluster files) l gs =
      (after, collected, none) := by
  have groups : ∀ g ∈ gs, ∀ l : Linking, l.Ready files specs (g.declarations specs) →
      ∃ after collected, collectGroup cluster files l g = (after, collected, none) ∧
        l.Extends files cluster after (g.declarations specs) := by
    intro g inside l ready
    apply collectGroup_grows ready
    intro job placed
    exact collectable job (List.mem_flatMap.mpr ⟨g, inside, placed⟩)
  exact update_grows (fun g => InstanceGroup.declarations g specs) groups ready

theorem collect_total {m : Manifest} (collectable : m.Collectable files.specs) :
    ∃ l collected, Linking.empty.collect cluster files m = (l, collected, none) := by
  have start : Linking.empty.Ready files files.specs (m.declarations files.specs) :=
    ⟨rfl, collectable.distinct⟩
  obtain ⟨after, collected, run⟩ := groups_grow cluster start collectable.jobs
  exact ⟨after, { m with instanceGroups := collected }, by rw [collect, run]⟩

theorem collectable_of_collect {m collected : Manifest} {l : Linking}
    (done : Linking.empty.collect cluster files m = (l, collected, none)) :
    m.Collectable files.specs := by
  refine ⟨(collect_loads done).collectable, ?_⟩
  obtain ⟨-, entries, -, -⟩ := collect_empty done
  have distinct := l.providers.distinct
  rwa [entries, List.map_map] at distinct

/-- Specifications of jobs have been loaded as far as there are any. -/
structure Tries (files : FileTree) (before after : Linking) (jobs : List Job) : Prop where
  source : after.specs.source files = before.specs.source files
  cached : ∀ key, (after.specs.get? key).isSome ↔ (before.specs.get? key).isSome ∨
    key ∈ jobs.map Job.identity ∧ ∃ spec, before.specs.source files key.1 key.2 = .ok spec

theorem Loads.tries {before after : Linking} {jobs : List Job}
    (loads : before.Loads files after jobs) : before.Tries files after jobs := by
  refine ⟨loads.source, ?_⟩
  intro key
  rw [loads.cached]
  refine or_congr_right ?_
  constructor
  · intro member
    refine ⟨member, ?_⟩
    obtain ⟨job, placed, rfl⟩ := List.mem_map.mp member
    obtain ⟨spec, read, -⟩ := loads.collectable job placed
    exact ⟨spec, read⟩
  · intro both
    exact both.1

theorem Tries.trans {first second third : Linking} {jobs more : List Job}
    (left : first.Tries files second jobs) (right : second.Tries files third more) :
    first.Tries files third (jobs ++ more) := by
  refine ⟨right.source.trans left.source, ?_⟩
  intro key
  rw [right.cached, left.cached, left.source, List.map_append, List.mem_append, or_assoc,
    or_and_right]

theorem Tries.get? {before after : Linking} {jobs : List Job}
    (tries : before.Tries files after jobs) (key : String × String) (spec : JobSpec) :
    after.specs.get? key = some spec ↔ before.specs.get? key = some spec ∨
      key ∈ jobs.map Job.identity ∧ before.specs.source files key.1 key.2 = .ok spec := by
  have known (l : Linking) (found : JobSpec) (present : l.specs.get? key = some found) :
      l.specs.source files key.1 key.2 = .ok found := by
    rw [SpecCache.source, present]
  constructor
  · intro present
    have read := known after spec present
    rw [tries.source] at read
    rcases (tries.cached key).mp (Option.isSome_of_mem present) with old | new
    · obtain ⟨kept, there⟩ := Option.isSome_iff_exists.mp old
      have same := (known before kept there).symm.trans read
      exact .inl (by rw [there, Except.ok.inj same])
    · exact .inr ⟨new.1, read⟩
  · intro either
    have read : before.specs.source files key.1 key.2 = .ok spec := by
      rcases either with old | new
      · exact known before spec old
      · exact new.2
    have cached : (after.specs.get? key).isSome := by
      rw [tries.cached]
      rcases either with old | new
      · exact .inl (Option.isSome_of_mem old)
      · exact .inr ⟨new.1, spec, new.2⟩
    obtain ⟨found, present⟩ := Option.isSome_iff_exists.mp cached
    have same := known after found present
    rw [tries.source, read] at same
    rw [present, Except.ok.inj same]

theorem specs_of_collect {m collected : Manifest} {l : Linking}
    (done : Linking.empty.collect cluster files m = (l, collected, none))
    (key : String × String) (spec : JobSpec) :
    l.specs.get? key = some spec ↔
      key ∈ m.jobs.map Job.identity ∧ files.specs key.1 key.2 = .ok spec := by
  rw [(collect_loads done).tries.get?]
  refine or_iff_right ?_
  intro present
  cases present

theorem size_specs {m collected : Manifest} {l : Linking}
    (done : Linking.empty.collect cluster files m = (l, collected, none)) :
    l.specs.size = (m.jobs.map Job.identity).toFinset.card := by
  have same : (l.specs.entries.map (·.1)).toFinset = (m.jobs.map Job.identity).toFinset := by
    ext key
    rw [List.mem_toFinset, List.mem_toFinset, ← not_iff_not, ← Registry.get?_eq_none_iff,
      ← Option.not_isSome_iff_eq_none, (collect_loads done).cached, not_iff_not]
    exact or_iff_right Bool.false_ne_true
  rw [← same, List.toFinset_card_of_nodup l.specs.distinct, List.length_map, Registry.size]

/-- Collecting succeeds exactly if all specifications load, providers have readable settings and
their keys are distinct. The table then has one entry for each declaration, the cache one for each
release and job, and all that jobs have got is their instances. -/
theorem collect_outcome (m : Manifest) (cluster : Cluster) (files : FileTree) :
    ((∃ l collected, Linking.empty.collect cluster files m = (l, collected, none)) ↔
        (∀ job ∈ m.jobs, job.Collectable files.specs) ∧
          ((m.declarations files.specs).map Declaration.key).Nodup) ∧
      ∀ l collected, Linking.empty.collect cluster files m = (l, collected, none) →
        l.providers.entries = (m.declarations files.specs).map (Declaration.entry cluster) ∧
        (∀ d ∈ m.declarations files.specs, l.providers.get? d.key =
          some ⟨d.group.jobInstances cluster d.job.name, d.job.linkProperties d.spec d.provided⟩) ∧
        l.providers.size = (m.declarations files.specs).length ∧
        (∀ key spec, l.specs.get? key = some spec ↔
          key ∈ m.jobs.map Job.identity ∧ files.specs key.1 key.2 = .ok spec) ∧
        l.specs.size = (m.jobs.map Job.identity).toFinset.card ∧
        collected = { m with instanceGroups := m.instanceGroups.map fun g =>
          { g with jobs := g.jobs.map fun job =>
            job.withInstances (g.jobInstances cluster job.name) } } := by
  constructor
  · constructor
    · rintro ⟨l, collected, done⟩
      obtain ⟨jobs, distinct⟩ := collectable_of_collect done
      exact ⟨jobs, distinct⟩
    · rintro ⟨jobs, distinct⟩
      exact collect_total ⟨jobs, distinct⟩
  · intro l collected done
    obtain ⟨-, entries, -, same⟩ := collect_empty done
    refine ⟨entries, ?_, ?_, specs_of_collect done, size_specs done, same⟩
    · intro d declared
      apply Registry.get?_of_mem
      rw [entries]
      exact List.mem_map_of_mem declared
    · rw [Registry.size, entries, List.length_map]

end Linking

namespace Aliased

def job (name : String) (provides : Dict Tree) : Job := ⟨name, "r", .unset, provides, ∅, .unset⟩

def manifest : Manifest where
  name := "shop"
  releases := []
  instanceGroups :=
    [⟨"data", 2, ["z1"], none, [job "pg" ∅, job "app" ∅]⟩,
      ⟨"spare", 1, [], none, [job "pg" (.ofList [("db", .ofEntries [("as", .string "spare")])])]⟩]

def files : FileTree :=
  (FileTree.empty "base").write "jobs-src/r/app/job.MF" "name: app\n".toUTF8
    |>.write "jobs-src/r/pg/job.MF" "provides:\n- name: db\n  type: sql\n".toUTF8

def cluster : Cluster := ⟨"shop", Cluster.defaultDomain⟩

end Aliased

theorem collect_outcome_aliased :
    ∃ l collected,
      Linking.empty.collect Aliased.cluster Aliased.files Aliased.manifest = (l, collected, none) ∧
      ((Aliased.manifest.declarations Aliased.files.specs).map Declaration.key).Nodup ∧
      l.providers.size = 2 ∧ l.specs.size = 2 := by
  obtain ⟨exactly, outcome⟩ :=
    Linking.collect_outcome Aliased.manifest Aliased.cluster Aliased.files
  have ran : (Linking.empty.collect Aliased.cluster Aliased.files Aliased.manifest).2.2 = none := by
    decide +kernel
  rcases done : Linking.empty.collect Aliased.cluster Aliased.files Aliased.manifest with
    ⟨l, collected, fault⟩
  rw [done] at ran
  obtain rfl : fault = none := ran
  obtain ⟨-, distinct⟩ := exactly.mp ⟨l, collected, done⟩
  obtain ⟨-, -, providers, -, specs, -⟩ := outcome l collected done
  have declared : (Aliased.manifest.declarations Aliased.files.specs).length = 2 := by
    decide +kernel
  exact ⟨l, collected, rfl, distinct, providers.trans declared, specs.trans (by decide)⟩

end JobContainers

import JobContainers.Proofs.CollectionOutcome

/-!
Collections that stop early, from any state. The first step that fails decides on the error; what
the steps before it have registered, loaded and set is kept, and nothing behind it is touched.
-/

set_option autoImplicit false

namespace JobContainers

structure Manifest.Place (m : Manifest) where
  earlier : List InstanceGroup
  group : InstanceGroup
  later : List InstanceGroup
  groups : m.instanceGroups = earlier ++ group :: later
  before : List Job
  job : Job
  behind : List Job
  jobs : group.jobs = before ++ job :: behind

inductive Job.Refuses (job : Job) (taken : List (String × String)) (provided : ProvidedLink) :
    CompileError → Prop where
  | settings (found : Tree) (present : job.provides.get? provided.name = some found)
      (unreadable : found.isMap = false) :
      Refuses job taken provided (.invalidManifest job.name .provides provided.name found)
  | taken (named : job.NamesProvider provided.name)
      (occupied : (provided.type, job.registeredName provided.name) ∈ taken) :
      Refuses job taken provided
        (.duplicateProvider provided.type (job.registeredName provided.name))

/-- Why a job is not collected, with its declarations before the one that is refused. -/
inductive Job.Fails (job : Job) (g : InstanceGroup) (specs : SpecSource)
    (taken : List (String × String)) : List Declaration → CompileError → Prop where
  | load (cause : CompileError) (unread : specs job.release job.name = .error cause) :
      Fails job g specs taken [] cause
  | provide (spec : JobSpec) (first rest : List ProvidedLink) (provided : ProvidedLink)
      (cause : CompileError) (read : specs job.release job.name = .ok spec)
      (declares : spec.provides = first ++ provided :: rest)
      (named : ∀ earlier ∈ first, job.NamesProvider earlier.name)
      (distinct : (taken ++ first.map fun earlier =>
        (earlier.type, job.registeredName earlier.name)).Nodup)
      (refused : job.Refuses (taken ++ first.map fun earlier =>
        (earlier.type, job.registeredName earlier.name)) provided cause) :
      Fails job g specs taken (first.map fun earlier => ⟨g, job, spec, earlier⟩) cause

namespace Manifest.Place

variable {m : Manifest} (p : m.Place)

def jobsBefore : List Job := p.earlier.flatMap (·.jobs) ++ p.before

def declared (specs : SpecSource) : List Declaration :=
  p.earlier.flatMap (·.declarations specs) ++ p.before.flatMap (·.declarations specs p.group)

/-- The deployment with instances for all jobs before the place and no others. -/
def halted (cluster : Cluster) : Manifest :=
  { m with instanceGroups := p.earlier.map (·.withInstances cluster) ++ { p.group with
      jobs := p.before.map (fun job => job.withInstances (p.group.jobInstances cluster job.name))
        ++ p.job :: p.behind } :: p.later }

/-- The first step that fails belongs to the job at the place: all before it load, and none of the
preceding declarations is refused. -/
structure FirstFault (specs : SpecSource) (taken : List (String × String))
    (preceding : List Declaration) (cause : CompileError) : Prop where
  collectable : ∀ job ∈ p.jobsBefore, job.Collectable specs
  distinct : (taken ++ (p.declared specs).map Declaration.key).Nodup
  fails : ∃ own, preceding = p.declared specs ++ own ∧
    p.job.Fails p.group specs (taken ++ (p.declared specs).map Declaration.key) own cause

end Manifest.Place

namespace Linking

def taken (l : Linking) : List (String × String) := l.providers.entries.map (·.1)

variable {files : FileTree} {cluster : Cluster}

theorem Extends.taken {before after : Linking} {ds : List Declaration}
    (grown : before.Extends files cluster after ds) :
    after.taken = before.taken ++ ds.map Declaration.key := by
  have keys : (ds.map (Declaration.entry cluster)).map (·.1) = ds.map Declaration.key :=
    List.map_map
  rw [Linking.taken, grown.providers, List.map_append, keys, Linking.taken]

theorem Extends.get? {before after : Linking} {ds : List Declaration}
    (grown : before.Extends files cluster after ds) (key : String × String) :
    after.providers.get? key = (before.providers.get? key).or
      ((ds.find? fun d => d.key = key).map (Declaration.link cluster)) := by
  rw [Registry.get?, grown.providers, List.lookup_append, Registry.get?]
  congr 1
  exact Entries.lookup_map Declaration.key (Declaration.link cluster) ds key

theorem source_fault {c : SpecCache} {release job : String} {cause : CompileError}
    (unread : c.source files release job = .error cause) :
    ∃ fault, cause = .specLoad release job fault := by
  rw [SpecCache.source] at unread
  split at unread
  · cases unread
  · rw [FileTree.specs, JobSource.readSpec] at unread
    split at unread
    · cases unread
      exact ⟨_, rfl⟩
    · rename_i text _
      cases parsed : JobSpec.ofDocument text with
      | error fault =>
          rw [parsed] at unread
          cases unread
          exact ⟨_, rfl⟩
      | ok spec =>
          rw [parsed] at unread
          cases unread

theorem load_fault {c : SpecCache} {release job : String} {cause : CompileError} :
    c.load files release job = .error cause ↔ c.source files release job = .error cause := by
  rw [SpecCache.load, SpecCache.source]
  cases c.get? (release, job) with
  | some spec => simp
  | none =>
      rw [FileTree.specs]
      cases JobSource.readSpec ⟨release, job⟩ files <;> simp [Except.map]

theorem providerName_fault {job : Job} {provider : String} {cause : CompileError} :
    job.providerName provider = .error cause ↔
      ∃ found, job.provides.get? provider = some found ∧ found.isMap = false ∧
        cause = .invalidManifest job.name .provides provider found := by
  rw [Job.providerName]
  cases present : job.provides.get? provider with
  | none => simp
  | some settings =>
      cases settings with
      | map entries => simp [Tree.isMap]
      | null | bool | number | string | list =>
          simp only [Except.error.injEq, Option.some.injEq, exists_eq_left', Tree.isMap, true_and]
          exact eq_comm

theorem register_fault {t : ProviderTable} {type name : String} {link : JobLink}
    {cause : CompileError} :
    t.register type name link = .error cause ↔
      (type, name) ∈ t.entries.map (·.1) ∧ cause = .duplicateProvider type name := by
  rw [ProviderTable.register]
  cases present : t.get? (type, name) with
  | none =>
      have free := Registry.get?_eq_none_iff.mp present
      simp only [reduceCtorEq, false_iff]
      intro both
      exact free both.1
  | some old =>
      have occupied : (type, name) ∈ t.entries.map (·.1) := by
        by_contra free
        rw [Registry.get?_eq_none_iff.mpr free] at present
        cases present
      simp only [Except.error.injEq, occupied, true_and]
      exact eq_comm

theorem provide_fault {job : Job} {spec : JobSpec} {instances : List JobInstance}
    {t : ProviderTable} {provided : ProvidedLink} {cause : CompileError} :
    provide job spec instances t provided = .error cause ↔
      job.Refuses (t.entries.map (·.1)) provided cause := by
  rw [provide, bind_error]
  constructor
  · intro fault
    rcases fault with unnamed | refused
    · obtain ⟨found, present, unreadable, rfl⟩ := providerName_fault.mp unnamed
      exact .settings found present unreadable
    · obtain ⟨name, named, refused⟩ := refused
      obtain ⟨readable, rfl⟩ := Job.providerName_iff.mp named
      obtain ⟨occupied, rfl⟩ := register_fault.mp refused
      exact .taken readable occupied
  · intro refused
    cases refused with
    | settings found present unreadable =>
        exact .inl (providerName_fault.mpr ⟨found, present, unreadable, rfl⟩)
    | taken named occupied =>
        have name := Job.providerName_iff.mpr ⟨named, rfl⟩
        exact .inr ⟨_, name, register_fault.mpr ⟨occupied, rfl⟩⟩

theorem provide_keys {g : InstanceGroup} {job : Job} {spec : JobSpec} {t after : ProviderTable}
    {provides : List ProvidedLink}
    (done : Progress.fold (provide job spec (g.jobInstances cluster job.name)) t provides =
      (after, none)) :
    after.entries.map (·.1) = t.entries.map (·.1) ++
      provides.map fun provided => (provided.type, job.registeredName provided.name) := by
  rw [provide_all done, List.map_append, List.map_map]
  rfl

theorem fails_of_collectJob {g : InstanceGroup} {l after : Linking} {job left : Job}
    {cause : CompileError}
    (stopped : collectJob cluster files g l job = (after, left, some cause)) :
    left = job ∧ ∃ own, job.Fails g (l.specs.source files) l.taken own cause := by
  rw [collectJob] at stopped
  split at stopped
  · rename_i fault unread
    cases stopped
    exact ⟨rfl, [], .load cause (load_fault.mp unread)⟩
  · rename_i spec cache loaded
    obtain ⟨read, -, -, -⟩ := SpecCache.load_ok loaded
    dsimp only at stopped
    split at stopped
    · rename_i providers fault run
      cases stopped
      obtain ⟨first, provided, rest, declares, registered, refused⟩ := Progress.fold_fault.mp run
      have keys := provide_keys registered
      have distinct := providers.distinct
      have refuses := provide_fault.mp refused
      rw [keys] at distinct refuses
      exact ⟨rfl, _, .provide spec first rest provided cause read declares
        (provide_names registered) distinct refuses⟩
    · cases stopped

theorem collectJob_fault (cluster : Cluster) {g : InstanceGroup} {l : Linking} {job : Job}
    {own : List Declaration} {cause : CompileError}
    (fails : job.Fails g (l.specs.source files) l.taken own cause) :
    ∃ after, collectJob cluster files g l job = (after, job, some cause) ∧
      l.Extends files cluster after own ∧ l.Tries files after [job] := by
  cases fails with
  | load _ unread =>
      refine ⟨l, ?_, .refl l, rfl, ?_⟩
      · rw [collectJob, load_fault.mpr unread]
      · intro key
        rw [List.map_singleton, List.mem_singleton]
        refine (or_iff_left ?_).symm
        intro both
        obtain ⟨rfl, spec, read⟩ := both
        rw [Job.identity, unread] at read
        cases read
  | provide spec first rest provided _ read declares named distinct refused =>
      obtain ⟨cache, loaded⟩ := load_total read
      obtain ⟨-, source, -, kept⟩ := SpecCache.load_ok loaded
      obtain ⟨providers, registered⟩ : ∃ providers, Progress.fold
          (provide job spec (g.jobInstances cluster job.name)) l.providers first =
            (providers, none) := provide_total named distinct
      have run : Progress.fold (provide job spec (g.jobInstances cluster job.name)) l.providers
          spec.provides = (providers, some cause) := by
        refine Progress.fold_fault.mpr ⟨first, provided, rest, declares, registered, ?_⟩
        rw [provide_fault, provide_keys registered]
        exact refused
      refine ⟨⟨cache, providers⟩, ?_, ⟨source, kept, ?_⟩, source, ?_⟩
      · rw [collectJob, loaded]
        dsimp only
        rw [run]
      · rw [List.map_map]
        exact provide_all registered
      · intro key
        rw [List.map_singleton, List.mem_singleton, load_cached loaded]
        refine or_congr_right ?_
        constructor
        · intro here
          subst here
          exact ⟨rfl, spec, read⟩
        · intro both
          exact both.1

section Deployment

variable {m : Manifest} {l : Linking}

theorem before_ok (p : m.Place) {first second : Linking} {groups : List InstanceGroup}
    {jobs : List Job}
    (earlier : Progress.update (collectGroup cluster files) l p.earlier = (first, groups, none))
    (before : Progress.update (collectJob cluster files p.group) first p.before =
      (second, jobs, none)) :
    l.Extends files cluster second (p.declared (l.specs.source files)) ∧
      l.Loads files second p.jobsBefore ∧
      groups = p.earlier.map (·.withInstances cluster) ∧
      jobs = p.before.map fun job => job.withInstances (p.group.jobInstances cluster job.name) := by
  obtain ⟨grown, -, sameGroups⟩ := groups_ok earlier
  obtain ⟨further, -, sameJobs⟩ := jobs_ok before
  have declared := grown.trans further
  rw [grown.source] at declared
  exact ⟨declared, (groups_load earlier).trans (jobs_load before), sameGroups, sameJobs⟩

theorem firstFault_of_collect {after : Linking} {collected : Manifest} {cause : CompileError}
    (stopped : l.collect cluster files m = (after, collected, some cause)) :
    ∃ (p : m.Place) (preceding : List Declaration),
      p.FirstFault (l.specs.source files) l.taken preceding cause := by
  rcases run : Progress.update (collectGroup cluster files) l m.instanceGroups with
    ⟨last, groups, fault⟩
  rw [collect, run] at stopped
  cases stopped
  obtain ⟨earlier, g, later, first, done, left, groups, passed, fails, -⟩ :=
    Progress.update_fault.mp run
  rcases inside : Progress.update (collectJob cluster files g) first g.jobs with
    ⟨stop, jobs, fault⟩
  rw [collectGroup, inside] at fails
  cases fails
  obtain ⟨before, job, behind, second, set, kept, jobs, went, faulty, -⟩ :=
    Progress.update_fault.mp inside
  obtain ⟨-, own, why⟩ := fails_of_collectJob faulty
  let p : m.Place := ⟨earlier, g, later, groups, before, job, behind, jobs⟩
  obtain ⟨grown, loads, -, -⟩ := before_ok p passed went
  rw [grown.source, grown.taken] at why
  have distinct : (l.taken ++ (p.declared (l.specs.source files)).map Declaration.key).Nodup := by
    rw [← grown.taken]
    exact second.providers.distinct
  exact ⟨p, _, loads.collectable, distinct, own, rfl, why⟩

theorem collect_of_firstFault (cluster : Cluster) {p : m.Place} {preceding : List Declaration}
    {cause : CompileError}
    (fault : p.FirstFault (l.specs.source files) l.taken preceding cause) :
    ∃ after, l.collect cluster files m = (after, p.halted cluster, some cause) ∧
      l.Extends files cluster after preceding ∧
      l.Tries files after (p.jobsBefore ++ [p.job]) := by
  obtain ⟨collectable, distinct, own, rfl, fails⟩ := fault
  have ready : l.Ready files (l.specs.source files) (p.declared (l.specs.source files)) :=
    ⟨rfl, distinct⟩
  obtain ⟨first, groups, passed⟩ := groups_grow cluster ready.left fun job member =>
    collectable job (List.mem_append_left _ member)
  obtain ⟨grown, -, -⟩ := groups_ok passed
  obtain ⟨second, jobs, went⟩ := jobs_grow cluster (ready.next grown) fun job member =>
    collectable job (List.mem_append_right _ member)
  obtain ⟨extended, loads, rfl, rfl⟩ := before_ok p passed went
  rw [← extended.taken, ← extended.source] at fails
  obtain ⟨after, faulty, further, tried⟩ := collectJob_fault cluster fails
  refine ⟨after, ?_, extended.trans further, loads.tries.trans tried⟩
  have inside := Progress.update_fault.mpr
    ⟨p.before, p.job, p.behind, second, _, p.job, p.jobs, went, faulty, rfl⟩
  have group : collectGroup cluster files first p.group = (after, { p.group with
      jobs := p.before.map (fun job => job.withInstances (p.group.jobInstances cluster job.name))
        ++ p.job :: p.behind }, some cause) := by
    rw [collectGroup, inside]
  have run := Progress.update_fault.mpr
    ⟨p.earlier, p.group, p.later, first, _, _, p.groups, passed, group, rfl⟩
  rw [collect, run]
  rfl

theorem collect_keeps (l : Linking) (cluster : Cluster) (files : FileTree) (m : Manifest) :
    ∃ added, l.Extends files cluster (l.collect cluster files m).1 added := by
  rcases done : l.collect cluster files m with ⟨after, collected, _ | cause⟩
  · exact ⟨_, (collect_ok done).1⟩
  · obtain ⟨p, preceding, fault⟩ := firstFault_of_collect done
    obtain ⟨reached, stopped, grown, -⟩ := collect_of_firstFault cluster fault
    rw [done] at stopped
    cases stopped
    exact ⟨preceding, grown⟩

theorem occupied_of_firstFault {p : m.Place} {preceding : List Declaration} {type name : String}
    (fault : p.FirstFault (l.specs.source files) l.taken preceding
      (.duplicateProvider type name)) :
    (type, name) ∈ l.taken ++ preceding.map Declaration.key := by
  obtain ⟨-, -, own, rfl, fails⟩ := fault
  rw [List.map_append, ← List.append_assoc]
  generalize stop : CompileError.duplicateProvider type name = cause at fails
  cases fails with
  | load _ unread =>
      obtain ⟨fault, same⟩ := source_fault unread
      rw [same] at stop
      cases stop
  | provide spec first rest provided _ _ _ _ _ refused =>
      rw [List.map_map]
      cases refused with
      | settings found _ _ => cases stop
      | taken _ occupied =>
          cases stop
          exact occupied

/-- Collecting keeps what was there. It fails exactly if some step does, for the cause of the first
one: then the table has got the declarations before it, the cache the specifications up to its job
and the deployment the instances of the jobs before that, and the rest is as it was. -/
theorem collect_stops (l : Linking) (cluster : Cluster) (files : FileTree) (m : Manifest) :
    let result := l.collect cluster files m
    let specs := l.specs.source files
    (∀ key link, l.providers.get? key = some link → result.1.providers.get? key = some link) ∧
    (∀ key spec, l.specs.get? key = some spec → result.1.specs.get? key = some spec) ∧
    (∀ cause, result.2.2 = some cause ↔
      ∃ (p : m.Place) (preceding : List Declaration), p.FirstFault specs l.taken preceding cause) ∧
    ∀ (p : m.Place) (preceding : List Declaration) (cause : CompileError),
      p.FirstFault specs l.taken preceding cause →
        result.1.providers.entries =
          l.providers.entries ++ preceding.map (Declaration.entry cluster) ∧
        (∀ key, result.1.providers.get? key = (l.providers.get? key).or
          ((preceding.find? fun d => d.key = key).map (Declaration.link cluster))) ∧
        (∀ type name, cause = .duplicateProvider type name →
          (result.1.providers.get? (type, name)).isSome) ∧
        (∀ key spec, result.1.specs.get? key = some spec ↔ l.specs.get? key = some spec ∨
          key ∈ (p.jobsBefore ++ [p.job]).map Job.identity ∧ specs key.1 key.2 = .ok spec) ∧
        result.2.1 = p.halted cluster := by
  intro result specs
  obtain ⟨added, kept⟩ := collect_keeps l cluster files m
  refine ⟨?_, kept.kept, ?_, ?_⟩
  · intro key link present
    rw [kept.get?, present, Option.some_or]
  · intro cause
    constructor
    · intro stopped
      have halted : l.collect cluster files m = (result.1, result.2.1, some cause) := by
        rw [← stopped]
      exact firstFault_of_collect halted
    · intro fault
      obtain ⟨p, preceding, fault⟩ := fault
      obtain ⟨after, stopped, -, -⟩ := collect_of_firstFault cluster fault
      change (l.collect cluster files m).2.2 = some cause
      rw [stopped]
  · intro p preceding cause fault
    obtain ⟨after, stopped, grown, tries⟩ := collect_of_firstFault cluster fault
    have same : result = (after, p.halted cluster, some cause) := stopped
    rw [same]
    refine ⟨grown.providers, grown.get?, ?_, tries.get?, rfl⟩
    intro type name duplicate
    rw [duplicate] at fault
    have occupied := occupied_of_firstFault fault
    rw [← grown.taken] at occupied
    rw [← Option.ne_none_iff_isSome, ne_eq, Registry.get?_eq_none_iff, not_not]
    exact occupied

end Deployment

end Linking

namespace Interrupted

open Aliased (job cluster)

def manifest : Manifest where
  name := "shop"
  releases := []
  instanceGroups :=
    [⟨"data", 2, [], none, [job "pg" ∅, job "app" ∅]⟩,
      ⟨"spare", 1, [], none, [job "app" ∅, job "pg" ∅, job "cache" ∅]⟩]

def files : FileTree :=
  Aliased.files.write "jobs-src/r/cache/job.MF" "provides:\n- name: kv\n  type: kv\n".toUTF8

def before : Linking :=
  (Linking.empty.collect cluster files
    ⟨"base", [], [⟨"base", 1, [], none, [job "cache" ∅]⟩]⟩).1

def summary (result : Linking × Manifest × Option CompileError) :
    Option CompileError × Nat × List (List Nat) :=
  (result.2.2, result.1.providers.size,
    result.2.1.instanceGroups.map fun g => g.jobs.map (·.resolved.instances.length))

theorem stopped : before.providers.size = 1 ∧
    summary (before.collect cluster files manifest) =
      (some (.duplicateProvider "sql" "db"), 2, [[2, 2], [1, 0, 0]]) := by
  decide +kernel

end Interrupted

theorem collect_stops_interrupted :
    ∃ (p : Interrupted.manifest.Place) (preceding : List Declaration),
      p.FirstFault (Interrupted.before.specs.source Interrupted.files) Interrupted.before.taken
        preceding (.duplicateProvider "sql" "db") ∧
      (Interrupted.before.collect Aliased.cluster Interrupted.files
          Interrupted.manifest).1.providers.entries =
        Interrupted.before.providers.entries ++
          preceding.map (Declaration.entry Aliased.cluster) ∧
      Interrupted.before.providers.size = 1 ∧ preceding.length = 1 ∧
      (p.halted Aliased.cluster).instanceGroups.map
        (fun g => g.jobs.map (·.resolved.instances.length)) = [[2, 2], [1, 0, 0]] := by
  obtain ⟨-, -, stops, left⟩ := Linking.collect_stops Interrupted.before Aliased.cluster
    Interrupted.files Interrupted.manifest
  obtain ⟨old, ran⟩ := Interrupted.stopped
  simp only [Interrupted.summary, Prod.mk.injEq] at ran
  obtain ⟨fault, all, set⟩ := ran
  obtain ⟨p, preceding, first⟩ := (stops _).mp fault
  obtain ⟨entries, -, -, -, halted⟩ := left p preceding _ first
  have added : preceding.length = 1 := by
    rw [Registry.size, entries, List.length_append, List.length_map] at all
    rw [Registry.size] at old
    omega
  rw [halted] at set
  exact ⟨p, preceding, first, entries, old, added, set⟩

end JobContainers

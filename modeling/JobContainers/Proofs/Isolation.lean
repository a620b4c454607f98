import JobContainers.Proofs.CollectionOutcome
import JobContainers.Proofs.DerivedData

/-!
What the jobs of a group have to do with the rest of a deployment: nothing but the links that are
provided there. The order of groups, and that of jobs in other groups, does not matter.
-/

set_option autoImplicit false

namespace JobContainers

/-- The group with its jobs in another order, which is kept if the group has the given name. -/
structure InstanceGroup.Shuffles (group : String) (g other : InstanceGroup) : Prop where
  beside : other = { g with jobs := other.jobs }
  jobs : g.jobs.Perm other.jobs
  kept : g.name = group → other.jobs = g.jobs

namespace InstanceGroup

variable {group : String} {g other : InstanceGroup}

theorem Shuffles.name (shuffles : g.Shuffles group other) : other.name = g.name := by
  rw [shuffles.beside]

theorem Shuffles.eq_of_name (shuffles : g.Shuffles group other) (named : g.name = group) :
    other = g := by
  rw [shuffles.beside, shuffles.kept named]

end InstanceGroup

/-- The deployment with its groups in another order and the jobs of them, too, but for one group. -/
def Manifest.Reorders (m other : Manifest) (group : String) : Prop :=
  ∃ order, m.instanceGroups.Perm order ∧
    List.Forall₂ (InstanceGroup.Shuffles group) order other.instanceGroups

section Tables

variable {t twin : ProviderTable}

theorem linkFor_of_tables (tables : ∀ key, t.get? key = twin.get? key) (job : Job)
    (c : ConsumedLink) : job.linkFor t c = job.linkFor twin c := by
  simp only [Job.linkFor, tables]

theorem attach_of_tables (tables : ∀ key, t.get? key = twin.get? key) (job : Job) :
    Linking.attach job t = Linking.attach job twin := by
  funext links c
  rw [Linking.attach, Linking.attach, linkFor_of_tables tables]

end Tables

section Gathering

variable {m other : Manifest} {files : FileTree} {l twin : Linking}

theorem resolveJob_of_tables {job : Job}
    (tables : ∀ key, l.providers.get? key = twin.providers.get? key)
    (specs : l.specs.get? (job.release, job.name) = twin.specs.get? (job.release, job.name)) :
    l.resolveJob job = twin.resolveJob job := by
  rw [Linking.resolveJob, Linking.resolveJob, SpecCache.collected, SpecCache.collected, specs,
    attach_of_tables tables]

theorem render_of_specs {job : Job} {first second : SpecCache}
    (specs : first.get? (job.release, job.name) = second.get? (job.release, job.name))
    (files : FileTree) (deployment : String) :
    job.render first files deployment = job.render second files deployment := by
  rw [Job.render, Job.render, SpecCache.collected, SpecCache.collected, specs]

theorem gatherJob_of_tables {job : Job} (name : m.name = other.name)
    (releases : m.hasRelease job.release = other.hasRelease job.release)
    (tables : ∀ key, l.providers.get? key = twin.providers.get? key)
    (specs : l.specs.get? (job.release, job.name) = twin.specs.get? (job.release, job.name)) :
    m.gatherJob files l job = other.gatherJob files twin job := by
  have released : job.withRelease m = job.withRelease other := by
    rw [Job.withRelease, Job.withRelease, releases]
  have cached : l.specs.get? ((job.withRelease other).release, (job.withRelease other).name) =
      twin.specs.get? ((job.withRelease other).release, (job.withRelease other).name) := by
    rw [Job.withRelease_source, Job.withRelease_name, specs]
  rw [Manifest.gatherJob, Manifest.gatherJob, released, name, resolveJob_of_tables tables cached]
  rcases run : twin.resolveJob (job.withRelease other) with ⟨resolved, _ | cause⟩
  · obtain ⟨spec, links, -, -, rfl⟩ := Linking.resolveJob_ok run
    refine render_of_specs ?_ files other.name
    exact cached
  · rfl

theorem hasRelease_of_names
    (releases : ∀ release, release ∈ m.releases.map (·.name) ↔ release ∈ other.releases.map (·.name))
    (release : String) : m.hasRelease release = other.hasRelease release := by
  have declared (m : Manifest) : m.hasRelease release = true ↔ release ∈ m.releases.map (·.name) := by
    simp [Manifest.hasRelease]
  rw [Bool.eq_iff_iff, declared, declared]
  exact releases release

end Gathering

section Collected

variable {m other : Manifest} {cluster : Cluster} {files : FileTree} {l twin : Linking}
  {collected again : Manifest}

theorem specs_of_jobs (done : Linking.empty.collect cluster files m = (l, collected, none))
    (twice : Linking.empty.collect cluster files other = (twin, again, none)) {job : Job}
    (here : job ∈ m.jobs) (there : job ∈ other.jobs) :
    l.specs.get? job.identity = twin.specs.get? job.identity := by
  refine Option.ext fun spec => ?_
  rw [Linking.specs_of_collect done, Linking.specs_of_collect twice]
  have first : job.identity ∈ m.jobs.map Job.identity := List.mem_map_of_mem here
  have second : job.identity ∈ other.jobs.map Job.identity := List.mem_map_of_mem there
  simp only [first, second, true_and]

theorem gather_of_tables (name : m.name = other.name)
    (releases : ∀ release, m.hasRelease release = other.hasRelease release)
    (done : Linking.empty.collect cluster files m = (l, collected, none))
    (twice : Linking.empty.collect cluster files other = (twin, again, none))
    (tables : ∀ key, l.providers.get? key = twin.providers.get? key) {group : String}
    (groups : m.group? group = other.group? group) :
    m.gather cluster files group = other.gather cluster files group := by
  rw [Manifest.gather_of_collected done, Manifest.gather_of_collected twice, ← groups]
  cases found : m.group? group with
  | none => rfl
  | some g =>
      have here : g ∈ m.instanceGroups := List.mem_of_find?_eq_some found
      have there : g ∈ other.instanceGroups := by
        rw [groups] at found
        exact List.mem_of_find?_eq_some found
      apply Manifest.gatherJobs_congr
      rw [List.forall₂_same]
      intro job member
      obtain ⟨source, placed, rfl⟩ := List.mem_map.mp member
      have specs := specs_of_jobs done twice (List.mem_flatMap.mpr ⟨g, here, placed⟩)
        (List.mem_flatMap.mpr ⟨g, there, placed⟩)
      exact gatherJob_of_tables name (releases _) tables specs

end Collected

section Order

variable {group : String} (specs : SpecSource) (cluster : Cluster)

theorem entries_beside (g : InstanceGroup) (jobs : List Job) (job : Job) :
    (job.declarations specs { g with jobs := jobs }).map (Declaration.entry cluster) =
      (job.declarations specs g).map (Declaration.entry cluster) := by
  rw [Job.declarations, Job.declarations]
  cases specs job.release job.name with
  | error cause => rfl
  | ok spec =>
      rw [List.map_map, List.map_map]
      rfl

theorem entries_of_shuffles {g other : InstanceGroup} (shuffles : g.Shuffles group other) :
    ((g.declarations specs).map (Declaration.entry cluster)).Perm
      ((other.declarations specs).map (Declaration.entry cluster)) := by
  have beside : (other.declarations specs).map (Declaration.entry cluster) =
      other.jobs.flatMap fun job => (job.declarations specs g).map (Declaration.entry cluster) := by
    rw [InstanceGroup.declarations, List.map_flatMap, shuffles.beside]
    simp only [entries_beside]
  rw [beside, InstanceGroup.declarations, List.map_flatMap]
  exact shuffles.jobs.flatMap_right _

theorem flatMap_of_reorders {m other : Manifest} (reorders : m.Reorders other group) {α : Type}
    (f : InstanceGroup → List α)
    (each : ∀ g other : InstanceGroup, g.Shuffles group other → (f g).Perm (f other)) :
    (m.instanceGroups.flatMap f).Perm (other.instanceGroups.flatMap f) := by
  have inside {gs others : List InstanceGroup}
      (shuffled : List.Forall₂ (InstanceGroup.Shuffles group) gs others) :
      (gs.flatMap f).Perm (others.flatMap f) := by
    induction shuffled with
    | nil => exact .refl _
    | cons first _ ih =>
        rw [List.flatMap_cons, List.flatMap_cons]
        exact (each _ _ first).append ih
  obtain ⟨order, ordered, shuffled⟩ := reorders
  exact (ordered.flatMap_right f).trans (inside shuffled)

theorem find?_name_iff {gs : List InstanceGroup} (distinct : (gs.map (·.name)).Nodup)
    {g : InstanceGroup} : gs.find? (·.name = group) = some g ↔ g ∈ gs ∧ g.name = group := by
  constructor
  · intro found
    exact ⟨List.mem_of_find?_eq_some found, by simpa using List.find?_some found⟩
  · intro both
    obtain ⟨member, named⟩ := both
    have present : (gs.find? (·.name = group)).isSome := by
      rw [List.find?_isSome]
      exact ⟨g, member, decide_eq_true named⟩
    obtain ⟨first, found⟩ := Option.isSome_iff_exists.mp present
    have same : first.name = g.name := by
      rw [named]
      simpa using List.find?_some found
    rw [found, List.inj_on_of_nodup_map distinct (List.mem_of_find?_eq_some found) member same]

theorem find?_of_shuffles {gs others : List InstanceGroup}
    (shuffled : List.Forall₂ (InstanceGroup.Shuffles group) gs others) :
    gs.find? (·.name = group) = others.find? (·.name = group) := by
  induction shuffled with
  | nil => rfl
  | cons first _ ih =>
      rename_i g other gs others _
      rw [List.find?_cons, List.find?_cons, first.name, ih]
      by_cases named : g.name = group
      · rw [decide_eq_true named, first.eq_of_name named]
      · rw [decide_eq_false named]

variable {m other : Manifest} (reorders : m.Reorders other group)

include reorders

theorem entries_of_reorders : ((m.declarations specs).map (Declaration.entry cluster)).Perm
    ((other.declarations specs).map (Declaration.entry cluster)) := by
  rw [Manifest.declarations, Manifest.declarations, List.map_flatMap, List.map_flatMap]
  apply flatMap_of_reorders reorders
  intro g other shuffles
  exact entries_of_shuffles specs cluster shuffles

theorem jobs_of_reorders : m.jobs.Perm other.jobs := by
  apply flatMap_of_reorders reorders
  intro g other shuffles
  exact shuffles.jobs

theorem collectable_of_reorders : m.Collectable specs ↔ other.Collectable specs := by
  have jobs := jobs_of_reorders reorders
  have keys : ((m.declarations specs).map Declaration.key).Perm
      ((other.declarations specs).map Declaration.key) := by
    have entries := (entries_of_reorders specs ⟨"", ""⟩ reorders).map (·.1)
    rwa [List.map_map, List.map_map] at entries
  constructor
  · intro both
    refine ⟨?_, keys.nodup_iff.mp both.distinct⟩
    intro job member
    exact both.jobs job (jobs.mem_iff.mpr member)
  · intro both
    refine ⟨?_, keys.nodup_iff.mpr both.distinct⟩
    intro job member
    exact both.jobs job (jobs.mem_iff.mp member)

theorem group?_of_reorders (distinct : (m.instanceGroups.map (·.name)).Nodup) :
    m.group? group = other.group? group := by
  obtain ⟨order, ordered, shuffled⟩ := reorders
  have again : (order.map (·.name)).Nodup := (ordered.map (·.name)).nodup_iff.mp distinct
  rw [Manifest.group?, Manifest.group?, ← find?_of_shuffles shuffled]
  refine Option.ext fun g => ?_
  rw [find?_name_iff distinct, find?_name_iff again, ordered.mem_iff]

end Order

theorem collect_none_iff {m : Manifest} {cluster : Cluster} {files : FileTree} :
    (Linking.empty.collect cluster files m).2.2 = none ↔ m.Collectable files.specs := by
  constructor
  · intro passed
    rcases done : Linking.empty.collect cluster files m with ⟨l, collected, fault⟩
    rw [done] at passed
    obtain rfl : fault = none := passed
    exact Linking.collectable_of_collect done
  · intro collectable
    obtain ⟨l, collected, done⟩ : ∃ l collected,
        Linking.empty.collect cluster files m = (l, collected, none) :=
      Linking.collect_total collectable
    rw [done]

namespace Manifest

/-- With the same name and releases, two deployments that provide the same links give a group they
share the same jobs or the same fault. So neither the order of groups nor that of jobs in other
groups matters, neither to whether collecting fails nor to the result. -/
theorem gather_isolated {m other : Manifest} (cluster : Cluster) (files : FileTree)
    (group : String) (name : m.name = other.name)
    (releases : ∀ release,
      release ∈ m.releases.map (·.name) ↔ release ∈ other.releases.map (·.name)) :
    (∀ l twin collected again,
      Linking.empty.collect cluster files m = (l, collected, none) →
      Linking.empty.collect cluster files other = (twin, again, none) →
      (∀ key, l.providers.get? key = twin.providers.get? key) →
      m.group? group = other.group? group →
      m.gather cluster files group = other.gather cluster files group) ∧
    (m.Reorders other group → (m.instanceGroups.map (·.name)).Nodup →
      ((Linking.empty.collect cluster files m).2.2 = none ↔
        (Linking.empty.collect cluster files other).2.2 = none) ∧
      ((Linking.empty.collect cluster files m).2.2 = none →
        m.gather cluster files group = other.gather cluster files group)) := by
  have declared := hasRelease_of_names releases
  constructor
  · intro l twin collected again done twice tables groups
    exact gather_of_tables name declared done twice tables groups
  · intro reorders distinct
    have both : (Linking.empty.collect cluster files m).2.2 = none ↔
        (Linking.empty.collect cluster files other).2.2 = none := by
      rw [collect_none_iff, collect_none_iff]
      exact collectable_of_reorders files.specs reorders
    refine ⟨both, ?_⟩
    intro passed
    rcases done : Linking.empty.collect cluster files m with ⟨l, collected, fault⟩
    rcases twice : Linking.empty.collect cluster files other with ⟨twin, again, cause⟩
    have finished := both.mp passed
    rw [done] at passed
    rw [twice] at finished
    obtain rfl : fault = none := passed
    obtain rfl : cause = none := finished
    have tables : ∀ key, l.providers.get? key = twin.providers.get? key := by
      apply Registry.get?_of_perm
      obtain ⟨-, first, -, -⟩ := Linking.collect_empty done
      obtain ⟨-, second, -, -⟩ := Linking.collect_empty twice
      rw [first, second]
      exact entries_of_reorders files.specs cluster reorders
    exact gather_of_tables name declared done twice tables (group?_of_reorders reorders distinct)

end Manifest

namespace Reordered

open Renamed (cluster)

def app (store : Tree) : Job := ⟨"app", "r", .unset, ∅, .ofList [("store", store)], .unset⟩

def web : InstanceGroup := ⟨"web", 1, [], none, [app (.ofEntries [("from", .string "main")])]⟩

def pg : Job :=
  ⟨"pg", "r", .unset, .ofList [("db", .ofEntries [("as", .string "main")])], ∅, .unset⟩

def cache : Job := ⟨"cache", "r", .unset, ∅, ∅, .unset⟩

def data (lifecycle : Option String) (jobs : List Job) : InstanceGroup :=
  ⟨"data", 2, ["z1"], lifecycle, jobs⟩

def manifest : Manifest := ⟨"shop", [], [web, data none [pg, cache]]⟩

def shuffled : Manifest := ⟨"shop", [], [data none [cache, pg], web]⟩

/-- The same links are provided, by a group with another life and beside one without providers. -/
def extended : Manifest :=
  ⟨"shop", [], [data (some "errand") [pg, cache], ⟨"idle", 3, [], none, [app .null]⟩, web]⟩

def files : FileTree :=
  Renamed.files.write "jobs-src/r/cache/job.MF" "provides:\n- name: cache\n  type: kv\n".toUTF8

theorem reorders : manifest.Reorders shuffled "web" := by
  have kept : web.Shuffles "web" web := ⟨rfl, .refl _, fun _ => rfl⟩
  have swapped : (data none [pg, cache]).Shuffles "web" (data none [cache, pg]) :=
    ⟨rfl, .swap _ _ _, fun named => absurd named (by decide)⟩
  exact ⟨[data none [pg, cache], web], .swap _ _ _, .cons swapped (.cons kept .nil)⟩

theorem passed :
    (Linking.empty.collect cluster files manifest).2.2 = none ∧
      (Linking.empty.collect cluster files extended).2.2 = none ∧
      (Linking.empty.collect cluster files manifest).1.providers.entries =
        (Linking.empty.collect cluster files extended).1.providers.entries ∧
      ((manifest.gather cluster files "web").1.toOption.map fun jobs =>
        jobs.map (·.resolved.consumes.keys)) = some [["cache", "store"]] := by
  decide +kernel

end Reordered

theorem gather_isolated_reordered :
    ∃ jobs, (Reordered.manifest.gather Renamed.cluster Reordered.files "web").1 = .ok jobs ∧
      jobs.map (·.resolved.consumes.keys) = [["cache", "store"]] ∧
      (Reordered.shuffled.gather Renamed.cluster Reordered.files "web").1 = .ok jobs ∧
      (Reordered.extended.gather Renamed.cluster Reordered.files "web").1 = .ok jobs := by
  obtain ⟨passed, again, entries, ran⟩ := Reordered.passed
  obtain ⟨jobs, made, links⟩ := exists_ok ran
  obtain ⟨-, reordered⟩ := Manifest.gather_isolated Renamed.cluster Reordered.files "web"
    (show Reordered.manifest.name = Reordered.shuffled.name from rfl) fun _ => Iff.rfl
  obtain ⟨-, same⟩ := reordered Reordered.reorders (by decide)
  obtain ⟨tables, -⟩ := Manifest.gather_isolated Renamed.cluster Reordered.files "web"
    (show Reordered.manifest.name = Reordered.extended.name from rfl) fun _ => Iff.rfl
  rcases first : Linking.empty.collect Renamed.cluster Reordered.files Reordered.manifest with
    ⟨l, collected, fault⟩
  rcases second : Linking.empty.collect Renamed.cluster Reordered.files Reordered.extended with
    ⟨twin, others, cause⟩
  rw [first] at passed entries
  rw [second] at again entries
  obtain rfl : fault = none := passed
  obtain rfl : cause = none := again
  have alike : ∀ key, l.providers.get? key = twin.providers.get? key := by
    intro key
    rw [Registry.get?, Registry.get?, entries]
  have equal := tables l twin collected others first second alike rfl
  rw [first] at same
  exact ⟨jobs, made, links, by rw [← same rfl, made], by rw [← equal, made]⟩

end JobContainers

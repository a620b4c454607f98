import JobContainers.JobSpec
import JobContainers.Kube.Container
import JobContainers.Manifest
import JobContainers.Proofs.RecordLaws

set_option autoImplicit false

namespace JobContainers

open Fields

section Kube

theorem FieldSelector.faithful : FieldSelector.codec.Faithful :=
  .record (Lawful.required .string).map (by decide) (by simp +contextual)

theorem SecretKey.faithful : SecretKey.codec.Faithful :=
  .record ((Lawful.required .string).map.seq (.required .string)) (by decide) (by simp +contextual)

theorem EnvSource.faithful : EnvSource.codec.Faithful :=
  .record ((Lawful.optional FieldSelector.faithful).map.seq (.optional SecretKey.faithful))
    (by decide) (by simp +contextual)

theorem EnvVar.faithful : EnvVar.codec.Faithful :=
  .record ((Lawful.required .string).map.seq (.optional .string)
    |>.seq (.optional EnvSource.faithful)) (by decide) (by simp +contextual)

theorem Port.faithful : Port.codec.Faithful where
  reread := by
    rintro port ⟨t, read⟩
    simp only [Port.codec] at read
    split at read
    · rename_i n number
      obtain rfl := Except.ok.inj read
      have again : Codec.int32.read (.int n) = .ok n :=
        (Codec.Faithful.integer _ _).reread ⟨t, number⟩
      simp only [Port.codec, again]
    · obtain rfl := Except.ok.inj read
      rfl
    · cases read
  shown := by
    rintro t (n | s) - -
    · nofun
    · nofun

theorem ExecAction.faithful : ExecAction.codec.Faithful :=
  .record (Lawful.defaulted (.list .string) ⟨.list [], rfl⟩).map (by decide) (by simp +contextual)

theorem HttpGet.faithful : HttpGet.codec.Faithful :=
  .record ((Lawful.optional .string).map.seq (.required Port.faithful)
    |>.seq (.optional .string)
    |>.seq (.optional .string)) (by decide) (by simp +contextual)

theorem TcpSocket.faithful : TcpSocket.codec.Faithful :=
  .record ((Lawful.required Port.faithful).map.seq (.optional .string))
    (by decide) (by simp +contextual)

theorem Probe.faithful : Probe.codec.Faithful :=
  have int32 : Codec.int32.Faithful := .integer _ _
  .record ((Lawful.optional HttpGet.faithful).map.seq (.optional TcpSocket.faithful)
    |>.seq (.optional ExecAction.faithful)
    |>.seq (.optional int32)
    |>.seq (.optional int32)
    |>.seq (.optional int32)
    |>.seq (.optional int32)
    |>.seq (.optional int32)) (by decide) (by simp +contextual)

theorem Handler.faithful : Handler.codec.Faithful :=
  .record (Lawful.optional ExecAction.faithful).map (by decide) (by simp +contextual)

theorem Lifecycle.faithful : Lifecycle.codec.Faithful :=
  .record (Lawful.optional Handler.faithful).map (by decide) (by simp +contextual)

theorem Capabilities.faithful : Capabilities.codec.Faithful :=
  .record ((Lawful.items .string).map.seq (.items .string)) (by decide) (by simp +contextual)

theorem SecurityContext.faithful : SecurityContext.codec.Faithful :=
  have int64 : Codec.int64.Faithful := .integer _ _
  .record ((Lawful.optional Capabilities.faithful).map.seq (.optional .bool)
    |>.seq (.optional .bool)
    |>.seq (.optional .bool)
    |>.seq (.optional int64)
    |>.seq (.optional int64)
    |>.seq (.optional .bool)) (by decide) (by simp +contextual)

theorem VolumeMount.faithful : VolumeMount.codec.Faithful :=
  .record ((Lawful.required .string).map.seq (.required .string)
    |>.seq (.optional .string)
    |>.seq (.optional .bool)) (by decide) (by simp +contextual)

theorem Resources.faithful : Resources.codec.Faithful :=
  .record ((Lawful.table .string).map.seq (.table .quantity)) (by decide) (by simp +contextual)

theorem Container.faithful : Container.codec.Faithful :=
  .record ((Lawful.required .string).map.seq (.required .string)
    |>.seq (.optional .string)
    |>.seq (.items .string)
    |>.seq (.items .string)
    |>.seq (.optional .string)
    |>.seq (.items EnvVar.faithful)
    |>.seq (.defaulted Resources.faithful ⟨.map [], rfl⟩)
    |>.seq (.optional Probe.faithful)
    |>.seq (.optional Probe.faithful)
    |>.seq (.optional Lifecycle.faithful)
    |>.seq (.items VolumeMount.faithful)
    |>.seq (.optional SecurityContext.faithful)) (by decide) (by simp +contextual)

end Kube

section Runtime

theorem ProcessLimits.faithful : ProcessLimits.codec.Faithful :=
  .record ((Lawful.defaulted .scalar ⟨.null, rfl⟩).map.seq (.defaulted .scalar ⟨.null, rfl⟩))
    (by decide) (by simp +contextual)

theorem JobProcess.isolation_faithful : JobProcess.isolationCodec.Faithful :=
  .record (Lawful.defaulted .bool ⟨.bool false, rfl⟩) (by decide) (by simp +contextual)

theorem JobProcess.faithful : JobProcess.codec.Faithful :=
  .record ((Lawful.required .string).map.seq (.required .string)
    |>.seq (.defaulted (.list .string) ⟨.list [], rfl⟩)
    |>.seq (.defaulted .scalars ⟨.null, rfl⟩)
    |>.seq (.defaulted (.option .string) ⟨.null, rfl⟩)
    |>.seq (.defaulted ProcessLimits.faithful ⟨.map [], rfl⟩)
    |>.seq (.defaulted .scalars ⟨.null, rfl⟩)
    |>.seq (.defaulted (.list .string) ⟨.list [], rfl⟩)
    |>.seq (.defaulted JobProcess.isolation_faithful ⟨.map [], rfl⟩))
    (by decide) (by simp +contextual)

theorem HealthCheck.faithful : HealthCheck.codec.Faithful :=
  .record ((Lawful.aliased Probe.faithful).map.seq (.aliased Probe.faithful))
    (by decide) (by simp +contextual)

theorem PostStartCondition.faithful : PostStartCondition.codec.Faithful :=
  .record (Lawful.defaulted (.option ExecAction.faithful) ⟨.null, rfl⟩).map
    (by decide) (by simp +contextual)

theorem PostStart.faithful : PostStart.codec.Faithful :=
  .record (Lawful.defaulted (.option PostStartCondition.faithful) ⟨.null, rfl⟩).map
    (by decide) (by simp +contextual)

theorem RunSettings.faithful : RunSettings.codec.Faithful :=
  .record ((Lawful.defaulted (.dict HealthCheck.faithful) ⟨.map [], rfl⟩).map
    |>.seq (.defaulted (.option SecurityContext.faithful) ⟨.null, rfl⟩)
    |>.seq (.defaulted PostStart.faithful ⟨.map [], rfl⟩)) (by decide) (by simp +contextual)

theorem RuntimeConfig.faithful : RuntimeConfig.codec.Faithful :=
  .record ((Lawful.defaulted (.list JobProcess.faithful) ⟨.list [], rfl⟩).map
    |>.seq (.defaulted RunSettings.faithful ⟨.map [], rfl⟩)) (by decide) (by simp +contextual)

end Runtime

section Spec

theorem ProvidedLink.faithful : ProvidedLink.codec.Faithful :=
  .record ((Lawful.required .string).map.seq (.required .string)
    |>.seq (.defaulted (.list .string) ⟨.list [], rfl⟩)) (by decide) (by simp +contextual)

theorem ConsumedLink.faithful : ConsumedLink.codec.Faithful :=
  .record ((Lawful.required .string).map.seq (.required .string)
    |>.seq (.defaulted .bool ⟨.bool false, rfl⟩)) (by decide) (by simp +contextual)

theorem PropertyDefinition.faithful : PropertyDefinition.codec.Faithful :=
  .record ((Lawful.defaulted (.option .tree) ⟨.null, rfl⟩).map.seq (.optional .string))
    (by decide) (by simp +contextual)

theorem JobSpec.faithful : JobSpec.codec.Faithful :=
  .record ((Lawful.defaulted .string ⟨.string "", rfl⟩).map
    |>.seq (.defaulted (.list ProvidedLink.faithful) ⟨.list [], rfl⟩)
    |>.seq (.defaulted (.list ConsumedLink.faithful) ⟨.list [], rfl⟩)
    |>.seq (.defaulted (.dict PropertyDefinition.faithful) ⟨.map [], rfl⟩)
    |>.seq (.defaulted (.dict .string) ⟨.map [], rfl⟩)) (by decide) (by simp +contextual)

end Spec

section Deployment

theorem Release.faithful : Release.codec.Faithful :=
  .record ((Lawful.required .string).map.seq (.optional .string)) (by decide) (by simp +contextual)

theorem JobInstance.faithful : JobInstance.codec.Faithful :=
  .record ((Lawful.required .string).map.seq (.required .string)
    |>.seq (.required .string)
    |>.seq (.required (.natural 64))
    |>.seq (.required (.natural 64))
    |>.seq (.required .string)) (by decide) (by simp +contextual)

theorem JobLink.faithful : JobLink.codec.Faithful :=
  .record ((Lawful.required (.list JobInstance.faithful)).map.seq (.required (.dict .tree)))
    (by decide) (by simp +contextual)

theorem ResolvedJob.isEmpty_iff {r : ResolvedJob} : r.isEmpty = true ↔ r = .unset := by
  obtain ⟨release, instances, consumes, runtime⟩ := r
  simp [isEmpty, unset, Dict.isEmpty_iff, and_assoc]

theorem ResolvedJob.faithful : ResolvedJob.codec.Faithful :=
  .record ((Lawful.optional .string).map
    |>.seq (.defaulted (.list JobInstance.faithful) ⟨.list [], rfl⟩)
    |>.seq (.defaulted (.dict JobLink.faithful) ⟨.map [], rfl⟩)
    |>.seq (.optional RuntimeConfig.faithful)) (by decide) (by simp +contextual)

namespace JobProperties

theorem codec_ok {t : Tree} {p : JobProperties} :
    codec.read t = .ok p ↔ ∃ entries, t = .map entries ∧
      settingsCodec.option.read ((entries.lookup settingsKey).getD .null) = .ok p.envs ∧
      p.overrides = .ofList (entries.filter (·.1 != settingsKey)) := by
  constructor
  · intro read
    cases t with
    | map entries =>
        refine ⟨entries, rfl, ?_⟩
        simp only [codec] at read
        cases found : entries.lookup settingsKey with
        | none =>
            rw [found] at read
            obtain rfl := Except.ok.inj read
            exact ⟨rfl, rfl⟩
        | some t =>
            rw [found] at read
            obtain ⟨envs, settings, made⟩ := bind_ok.mp read
            obtain rfl := Except.ok.inj made
            exact ⟨settings, rfl⟩
    | _ => cases read
  · rintro ⟨entries, rfl, settings, overrides⟩
    obtain ⟨envs, _⟩ := p
    obtain rfl := overrides
    simp only [codec]
    cases found : entries.lookup settingsKey with
    | none =>
        rw [found] at settings
        obtain rfl := Except.ok.inj settings
        rfl
    | some t =>
        rw [found] at settings
        exact bind_ok.mpr ⟨envs, settings, rfl⟩

/-- In a document the settings stand among the overrides, but they are not read as one. -/
theorem settings_of_read {t : Tree} {p : JobProperties} (read : codec.read t = .ok p) :
    p.overrides.get? settingsKey = none := by
  obtain ⟨entries, -, -, overrides⟩ := codec_ok.mp read
  rw [overrides, Dict.get?_ofList, ← List.filter_reverse, Entries.lookup_filter, if_pos rfl]

theorem settings_faithful : settingsCodec.Faithful :=
  .record (Lawful.defaulted (.list EnvVar.faithful) ⟨.list [], rfl⟩)
    (by decide) (by simp +contextual)

theorem get?_written {p : JobProperties} (apart : p.overrides.get? settingsKey = none)
    (key : String) :
    (Dict.ofList ((p.envs.map fun e => (settingsKey, settingsCodec.write e)).toList
      ++ p.overrides.entries)).get? key =
      if key = settingsKey then p.envs.map settingsCodec.write else p.overrides.get? key := by
  cases p.envs with
  | none =>
      rw [Option.map_none, Option.toList_none, List.nil_append, Dict.ofList_entries,
        Option.map_none]
      by_cases same : key = settingsKey
      · rw [if_pos same, same, apart]
      · rw [if_neg same]
  | some e =>
      have other : settingsKey ∉ p.overrides.keys := by
        rw [Dict.mem_keys, apart]
        exact Bool.false_ne_true
      have once : (((settingsKey, settingsCodec.write e) :: p.overrides.entries).map (·.1)).Nodup :=
        List.nodup_cons.mpr ⟨other, p.overrides.nodup_keys⟩
      exact (Dict.get?_ofList_of_nodup once key).trans (Entries.lookup_head ..)

theorem faithful : codec.Faithful where
  reread := by
    rintro p ⟨t, read⟩
    obtain ⟨entries, -, settings, -⟩ := codec_ok.mp read
    have written := get?_written (settings_of_read read)
    refine codec_ok.mpr ⟨_, rfl, ?_, ?_⟩
    · rw [← Dict.get?, written, if_pos rfl]
      have again := settings_faithful.option.reread ⟨_, settings⟩
      cases envs : p.envs with
      | none => rfl
      | some e => rwa [envs] at again
    · refine Dict.ext_get? fun key => ?_
      rw [Dict.get?_ofList, ← List.filter_reverse, Entries.lookup_filter, ← Dict.get?_ofList,
        Dict.ofList_entries, written]
      by_cases same : key = settingsKey
      · rw [if_pos same, same, settings_of_read read]
      · rw [if_neg same, if_neg same]
  shown _ _ := nofun

end JobProperties

theorem Job.faithful : Job.codec.Faithful :=
  .record ((Lawful.required .string).map.seq (.required .string)
    |>.seq (.defaulted JobProperties.faithful ⟨.map [], rfl⟩)
    |>.seq (.defaulted (.dict .tree) ⟨.map [], rfl⟩)
    |>.seq (.defaulted (.dict .tree) ⟨.map [], rfl⟩)
    |>.seq (.field ResolvedJob.faithful (fun _ same => Option.some.inj same ▸ ⟨.map [], rfl⟩)
      fun _ nothing => congrArg some (ResolvedJob.isEmpty_iff.mp nothing).symm))
    (by decide) (by simp +contextual)

theorem InstanceGroup.faithful : InstanceGroup.codec.Faithful :=
  .record ((Lawful.required .string).map
    |>.seq (.defaulted (.natural 64) ⟨.nat 0, rfl⟩)
    |>.seq (.defaulted (.list .string) ⟨.list [], rfl⟩)
    |>.seq (.optional .string)
    |>.seq (.defaulted (.list Job.faithful) ⟨.list [], rfl⟩)) (by decide) (by simp +contextual)

theorem Manifest.faithful : Manifest.codec.Faithful :=
  .record ((Lawful.defaulted .string ⟨.string "", rfl⟩).map
    |>.seq (.defaulted (.list Release.faithful) ⟨.list [], rfl⟩)
    |>.seq (.defaulted (.list InstanceGroup.faithful) ⟨.list [], rfl⟩))
    (by decide) (by simp +contextual)

end Deployment

/-- Whatever reads as a document or as a container is written so that it reads as the same again. -/
theorem documents_reread (t : Tree) :
    (∀ m, Manifest.codec.read t = .ok m →
      Manifest.codec.read (Manifest.codec.write m) = .ok m) ∧
    (∀ spec, JobSpec.codec.read t = .ok spec →
      JobSpec.codec.read (JobSpec.codec.write spec) = .ok spec) ∧
    (∀ config, RuntimeConfig.codec.read t = .ok config →
      RuntimeConfig.codec.read (RuntimeConfig.codec.write config) = .ok config) ∧
    ∀ container, Container.codec.read t = .ok container →
      Container.codec.read (Container.codec.write container) = .ok container :=
  ⟨fun _ read => Manifest.faithful.reread ⟨t, read⟩,
    fun _ read => JobSpec.faithful.reread ⟨t, read⟩,
    fun _ read => RuntimeConfig.faithful.reread ⟨t, read⟩,
    fun _ read => Container.faithful.reread ⟨t, read⟩⟩

namespace Sample

def manifest : Tree :=
  .map [("instance_groups", .list [.map [("name", .string "web"), ("jobs", .list [.map [
    ("name", .string "api"), ("release", .string "r"), ("consumes", .map [("db", .null)]),
    ("properties", .map [("port", .nat 80),
      ("quarks", .map [("envs", .list [.map [("name", .string "ZONE")]])])])]])]])]

def writtenManifest : Tree :=
  .map [("instance_groups", .list [.map [("azs", .list []), ("instances", .nat 0),
      ("jobs", .list [.map [("consumes", .map [("db", .null)]), ("name", .string "api"),
        ("properties", .map [("port", .nat 80),
          ("quarks", .map [("envs", .list [.map [("name", .string "ZONE")]])])]),
        ("provides", .map []), ("release", .string "r")]]), ("name", .string "web")]]),
    ("name", .string ""), ("releases", .list [])]

def spec : Tree :=
  .map [("consumes", .list [.list [.string "db", .string "sql", .bool true]]),
    ("properties", .map [("port", .map [("default", .nat 80)])])]

def writtenSpec : Tree :=
  .map [("consumes", .list [.map [("name", .string "db"), ("optional", .bool true),
      ("type", .string "sql")]]), ("name", .string ""),
    ("properties", .map [("port", .map [("default", .nat 80)])]), ("provides", .list []),
    ("templates", .map [])]

def config : Tree :=
  .map [("processes", .list [.map [("name", .string "pg"), ("executable", .string "/bin/pg"),
      ("limits", .map [("cpu", .nat 2)]), ("env", .map [("FAST", .bool true), ("SLOW", .null)]),
      ("unsafe", .map [("privileged", .bool true)])]]),
    ("run", .map [("healthcheck", .map [("pg", .map [
      ("readiness", .map [("tcpSocket", .map [("port", .nat 80)])])])])])]

def writtenConfig : Tree :=
  .map [("processes", .list [.map [("args", .list []), ("capabilities", .list []),
      ("env", .map [("FAST", .string "true")]), ("executable", .string "/bin/pg"),
      ("limits", .map [("cpu", .string "2"), ("memory", .null)]), ("name", .string "pg"),
      ("requests", .map []), ("unsafe", .map [("privileged", .bool true)]), ("workdir", .null)]]),
    ("run", .map [("healthcheck", .map [("pg", .map [("livenessProbe", .null),
        ("readinessProbe", .map [("tcpSocket", .map [("port", .nat 80)])])])]),
      ("post_start", .map [("condition", .null)]), ("security_context", .null)])]

def container : Tree :=
  .map [("name", .string "pg"), ("image", .string "registry/pg"), ("args", .list []),
    ("resources", .map [("limits", .map [("memory", .string " 1Gi ")])])]

def writtenContainer : Tree :=
  .map [("image", .string "registry/pg"), ("name", .string "pg"),
    ("resources", .map [("limits", .map [("memory", .string "1Gi")])])]

end Sample

theorem documents_reread_samples :
    (∃ m, Manifest.codec.read Sample.manifest = .ok m ∧
      Manifest.codec.read Sample.writtenManifest = .ok m) ∧
    (∃ spec, JobSpec.codec.read Sample.spec = .ok spec ∧
      JobSpec.codec.read Sample.writtenSpec = .ok spec) ∧
    (∃ config, RuntimeConfig.codec.read Sample.config = .ok config ∧
      RuntimeConfig.codec.read Sample.writtenConfig = .ok config) ∧
    ∃ container, Container.codec.read Sample.container = .ok container ∧
      Container.codec.read Sample.writtenContainer = .ok container := by
  have manifests : (Manifest.codec.read Sample.manifest).toOption.map
      Manifest.codec.write = some Sample.writtenManifest := by decide
  have specs : (JobSpec.codec.read Sample.spec).toOption.map
      JobSpec.codec.write = some Sample.writtenSpec := by decide
  have configs : (RuntimeConfig.codec.read Sample.config).toOption.map
      RuntimeConfig.codec.write = some Sample.writtenConfig := by decide
  have containers : (Container.codec.read Sample.container).toOption.map
      Container.codec.write = some Sample.writtenContainer := by decide
  obtain ⟨m, readManifest, writtenManifest⟩ := exists_ok manifests
  obtain ⟨spec, readSpec, writtenSpec⟩ := exists_ok specs
  obtain ⟨config, readConfig, writtenConfig⟩ := exists_ok configs
  obtain ⟨container, readContainer, writtenContainer⟩ := exists_ok containers
  refine ⟨⟨m, readManifest, ?_⟩, ⟨spec, readSpec, ?_⟩, ⟨config, readConfig, ?_⟩,
    container, readContainer, ?_⟩
  · rw [← writtenManifest]
    exact (documents_reread Sample.manifest).1 m readManifest
  · rw [← writtenSpec]
    exact (documents_reread Sample.spec).2.1 spec readSpec
  · rw [← writtenConfig]
    exact (documents_reread Sample.config).2.2.1 config readConfig
  · rw [← writtenContainer]
    exact (documents_reread Sample.container).2.2.2 container readContainer

end JobContainers

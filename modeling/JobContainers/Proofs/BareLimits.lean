import JobContainers.Proofs.ConversionFaults
import JobContainers.Proofs.NumberText
import JobContainers.Proofs.RecordReading

set_option autoImplicit false

namespace JobContainers

def LimitKind.place : LimitKind → Nat
  | memory => 0
  | cpu => 1

/-- What a runtime configuration has for a limit of the process at an index. -/
def Tree.limit? (t : Tree) (index : Nat) (kind : LimitKind) : Option Tree := do
  let processes ← t.field? "processes" 0
  let process ← processes.item? index
  let limits ← process.field? "limits" 5
  limits.field? kind.key kind.place

theorem ProcessLimits.read_written {t limit : Tree} {kind : LimitKind} {limits : ProcessLimits}
    (read : codec.read t = .ok limits) (found : t.field? kind.key kind.place = some limit) :
    limits.written kind = Codec.scalarText? limit := by
  have each : ∀ kind limit, t.field? kind.key kind.place = some limit →
      Codec.scalar.read limit = .ok (limits.written kind) := by
    apply Codec.record_reads (Fields.Reads.defaulted.map.seq .defaulted) read
    intro memory readsMemory cpu readsCpu kind limit found
    cases kind with
    | memory => exact readsMemory limit found
    | cpu => exact readsCpu limit found
  exact (Except.ok.inj (each kind limit found)).symm

theorem JobProcess.read_limits {t limits : Tree} {p : JobProcess} (read : codec.read t = .ok p)
    (found : t.field? "limits" 5 = some limits) :
    ProcessLimits.codec.read limits = .ok p.limits := by
  revert limits
  apply Codec.record_reads (Fields.Reads.required.map.seq .required |>.seq .defaulted
    |>.seq .defaulted |>.seq .defaulted |>.seq .defaulted |>.seq .defaulted |>.seq .defaulted
    |>.seq .defaulted) read
  intro name _ executable _ args _ env _ workdir _ limits reads requests _ capabilities _
    privileged _ t found
  exact reads t found

theorem RuntimeConfig.read_processes {t processes : Tree} {config : RuntimeConfig}
    (read : codec.read t = .ok config) (found : t.field? "processes" 0 = some processes) :
    JobProcess.codec.list.read processes = .ok config.processes := by
  revert processes
  apply Codec.record_reads (Fields.Reads.defaulted.map.seq .defaulted) read
  intro processes reads run _ t found
  exact reads t found

theorem RuntimeConfig.read_limit {t limit : Tree} {index : Nat} {kind : LimitKind}
    {config : RuntimeConfig} (read : codec.read t = .ok config)
    (found : t.limit? index kind = some limit) :
    ∃ p, config.processes[index]? = some p ∧
      p.limits.written kind = Codec.scalarText? limit := by
  simp only [Tree.limit?, Option.bind_eq_bind, Option.bind_eq_some_iff] at found
  obtain ⟨processes, listed, process, placed, limits, limited, found⟩ := found
  obtain ⟨p, here, made⟩ := Codec.list_item (read_processes read listed) placed
  exact ⟨p, here, ProcessLimits.read_written (JobProcess.read_limits made limited) found⟩

section Container

variable {p : JobProcess} {s : ProcessSetting} {line : CommandLine} {mounts : List VolumeMount}
  {kind : LimitKind}

theorem JobProcess.limit?_written {job value : String} {q : Quantity}
    (written : p.limits.written kind = some value) (parsed : Quantity.parse value = .ok q) :
    p.limit? job kind = .ok (some q) := by
  have nonempty : value ≠ "" := by
    rintro rfl
    have empty : Quantity.parse "" = .error .empty := by decide
    rw [empty] at parsed
    cases parsed
  have found := ProcessLimits.get?_eq_some.mpr ⟨written, nonempty⟩
  simp only [limit?, found, parsed]

theorem JobProcess.quantities_get? {job : String} {limits : Dict Quantity}
    (made : p.quantities job = .ok limits) : p.limit? job kind = .ok (limits.get? kind.key) := by
  obtain ⟨memory, ofMemory, rest⟩ := bind_ok.mp made
  obtain ⟨cpu, ofCpu, joined⟩ := bind_ok.mp rest
  cases joined
  have once : (((memory.map fun q => (LimitKind.memory.key, q)).toList
      ++ (cpu.map fun q => (LimitKind.cpu.key, q)).toList).map (·.1)).Nodup := by
    cases memory <;> cases cpu <;> simp [LimitKind.key]
  rw [Dict.get?_ofList_of_nodup once]
  cases kind with
  | memory =>
      rw [ofMemory]
      cases memory <;> cases cpu <;> simp [LimitKind.key, Entries.lookup_head]
  | cpu =>
      rw [ofCpu]
      cases memory <;> cases cpu <;> simp [LimitKind.key, Entries.lookup_head]

theorem Container.ofProcess_error {cause : CompileError} :
    Container.ofProcess s p line mounts = .error cause ↔ p.Fails s.job cause := by
  rw [← JobProcess.quantities_error, Container.ofProcess, bind_error]
  constructor
  · intro fails
    rcases fails with limits | ⟨_, -, made⟩
    · exact limits
    · cases made
  · exact .inl

theorem Container.ofProcess_limit {x : Container}
    (built : Container.ofProcess s p line mounts = .ok x) :
    p.limit? s.job kind = .ok (x.resources.limits.get? kind.key) := by
  obtain ⟨limits, made, rest⟩ := bind_ok.mp built
  obtain rfl := Except.ok.inj rest
  exact JobProcess.quantities_get? made

end Container

/-- A number that stands for a limit in a runtime configuration, be it whole or a finite double, is
read as its text; the text is a quantity and is the limit of the container. The container fails
only for what another limit of the process says. -/
theorem RuntimeConfig.bareLimit_kept {t : Tree} {config : RuntimeConfig} {index : Nat}
    {kind : LimitKind} {n : Number} (read : RuntimeConfig.codec.read t = .ok config)
    (written : t.limit? index kind = some (.number n)) (finite : n.isFinite = true) :
    ∃ p q, config.processes[index]? = some p ∧
      p.limits.written kind = some (.ofList n.text) ∧
      Quantity.parse (.ofList n.text) = .ok q ∧ q.text = .ofList n.text ∧
      ∀ (s : ProcessSetting) (line : CommandLine) (mounts : List VolumeMount),
        ((∃ x, Container.ofProcess s p line mounts = .ok x) ↔
          ∀ other value fault, other ≠ kind → ¬p.Refused other value fault) ∧
        (∀ cause, Container.ofProcess s p line mounts = .error cause →
          ∃ other value fault, other ≠ kind ∧ p.Refused other value fault ∧
            cause = .quantityParse other value s.job p.name fault) ∧
        ∀ x, Container.ofProcess s p line mounts = .ok x →
          x.resources.limits.get? kind.key = some q := by
  obtain ⟨p, placed, text⟩ := read_limit read written
  obtain ⟨q, parsed, kept⟩ := (Number.written_text finite).parse
  refine ⟨p, q, placed, text, parsed, kept, ?_⟩
  intro s line mounts
  have limited : p.limit? s.job kind = .ok (some q) := JobProcess.limit?_written text parsed
  have sound : ∀ value fault, ¬p.Refused kind value fault :=
    JobProcess.limit?_ok.mp ⟨some q, limited⟩
  -- so whatever is refused is another limit
  have another : ∀ other value fault, p.Refused other value fault → other ≠ kind := by
    rintro other value fault refused rfl
    exact sound value fault refused
  refine ⟨?_, ?_, ?_⟩
  · rw [ok_iff_not_error]
    simp only [Container.ofProcess_error, JobProcess.exists_fails, not_exists]
    constructor
    · intro fine other value fault _
      exact fine other value fault
    · intro fine other value fault refused
      exact fine other value fault (another other value fault refused) refused
  · intro cause failed
    cases Container.ofProcess_error.mp failed with
    | memory refused => exact ⟨_, _, _, another _ _ _ refused, refused, rfl⟩
    | cpu _ refused => exact ⟨_, _, _, another _ _ _ refused, refused, rfl⟩
  · intro x built
    have found : p.limit? s.job kind = .ok (x.resources.limits.get? kind.key) :=
      Container.ofProcess_limit built
    rw [limited] at found
    exact (Except.ok.inj found).symm

namespace Bare

def large : Number := .float ⟨0x444B1AE4D6E2EF50⟩

def negativeZero : Number := .float ⟨0x8000000000000000⟩

def small : Number := .float ⟨0x3E7AD7F29ABCAF48⟩

theorem texts : String.ofList large.text = "1e+21" ∧ String.ofList negativeZero.text = "-0.0" ∧
    String.ofList small.text = "1e-7" := by
  decide

def tree : Tree :=
  .map [("processes", .list
    [.map [("executable", .string "/bin/api"), ("name", .string "api"),
        ("limits", .map [("cpu", .number negativeZero), ("memory", .number large)])],
      .list [.string "worker", .string "/bin/worker", .list [], .map [], .null,
        .list [.string "many", .number small]]])]

theorem read : ∃ config, RuntimeConfig.codec.read tree = .ok config := by
  have size : (RuntimeConfig.codec.read tree).toOption.map (·.processes.length) = some 2 := by
    decide
  obtain ⟨config, read, -⟩ := exists_ok size
  exact ⟨config, read⟩

end Bare

/-- Both limits of the first process are numbers, so it always has a container. The second process
can fail, but not for the limit that is a number. -/
theorem bareLimit_kept_spellings :
    ∃ config p q, RuntimeConfig.codec.read Bare.tree = .ok config ∧
      config.processes[0]? = some p ∧ config.processes[1]? = some q ∧
      q.limits.written .cpu = some "1e-7" ∧
      ∀ (s : ProcessSetting) (line : CommandLine) (mounts : List VolumeMount),
        (∃ x memory cpu, Container.ofProcess s p line mounts = .ok x ∧
          x.resources.limits.get? "memory" = some memory ∧ memory.text = "1e+21" ∧
          x.resources.limits.get? "cpu" = some cpu ∧ cpu.text = "-0.0") ∧
        ∀ cause, Container.ofProcess s q line mounts = .error cause →
          ∃ value fault, cause = .quantityParse .memory value s.job q.name fault := by
  obtain ⟨config, read⟩ := Bare.read
  obtain ⟨large, zero, small⟩ := Bare.texts
  have memoryPlaced : Bare.tree.limit? 0 .memory = some (.number Bare.large) := rfl
  have cpuPlaced : Bare.tree.limit? 0 .cpu = some (.number Bare.negativeZero) := rfl
  have smallPlaced : Bare.tree.limit? 1 .cpu = some (.number Bare.small) := rfl
  obtain ⟨p, memory, first, -, -, memoryText, ofMemory⟩ :=
    RuntimeConfig.bareLimit_kept read memoryPlaced (by decide)
  obtain ⟨p', cpu, again, cpuWritten, cpuParsed, cpuText, ofCpu⟩ :=
    RuntimeConfig.bareLimit_kept read cpuPlaced (by decide)
  obtain ⟨q, _, second, written, -, -, ofSmall⟩ :=
    RuntimeConfig.bareLimit_kept read smallPlaced (by decide)
  obtain rfl : p = p' := Option.some.inj (first.symm.trans again)
  rw [large] at memoryText
  rw [zero] at cpuText
  rw [small] at written
  refine ⟨config, p, q, read, first, second, written, ?_⟩
  intro s line mounts
  constructor
  · have built : ∃ x, Container.ofProcess s p line mounts = .ok x := by
      apply (ofMemory s line mounts).1.mpr
      intro other value fault different refused
      cases other with
      | memory => exact different rfl
      | cpu =>
          have same : _ = value := Option.some.inj (cpuWritten.symm.trans refused.1)
          have failed := refused.2.2
          rw [← same, cpuParsed] at failed
          cases failed
    obtain ⟨x, made⟩ := built
    exact ⟨x, memory, cpu, made, (ofMemory s line mounts).2.2 x made, memoryText,
      (ofCpu s line mounts).2.2 x made, cpuText⟩
  · intro cause failed
    obtain ⟨other, value, fault, different, -, same⟩ := (ofSmall s line mounts).2.1 cause failed
    cases other with
    | memory => exact ⟨value, fault, same⟩
    | cpu => exact absurd rfl different

end JobContainers

import JobContainers.Command
import Mathlib.Logic.Basic

/-!
Command lines under the supervisor can be read back. Flags and values come in pairs from a fixed
start, so a word in the place of a value is never taken for a flag, whatever it says.
-/

set_option autoImplicit false

namespace JobContainers

/-- What a supervisor is told to run. -/
structure Supervision where
  job : String
  process : String
  executable : String
  args : List String
  start : Option String
  condition : Option Invocation
  deriving DecidableEq

/-- A condition stands with a command only. -/
def StartHook.Grounded (h : StartHook) : Prop := h.command = .none → h.condition = .none

theorem StartHook.grounded_ofJob (job : String) (condition : Option (List String)) :
    (StartHook.ofJob job condition).Grounded := nofun

namespace Supervision

def ofHook (job : String) (p : JobProcess) (hook : StartHook) : Supervision :=
  ⟨job, p.name, p.executable, p.args, hook.command.map (·.name), hook.condition⟩

def flagged (flag value : String) : List String := [flag, value]

def optionWords (flag : String) (value : Option String) : List String :=
  (value.map (flagged flag)).getD []

def startWords (start : Option String) (condition : Option Invocation) : List String :=
  optionWords "--post-start-name" start ++ (condition.map StartHook.conditionArgs).getD []

def mainWords (job process executable : String) (args : List String) : List String :=
  "--job-name" :: job :: "--process-name" :: process :: "--" :: executable :: args

def words (d : Supervision) : List String :=
  CommandLine.supervisor ::
    (startWords d.start d.condition ++ mainWords d.job d.process d.executable d.args)

def readFlag (flag : String) : List String → Option String × List String
  | word :: value :: rest =>
    if word = flag then (some value, rest) else (none, word :: value :: rest)
  | words => (none, words)

def readFlags (flag : String) : List String → List String × List String
  | word :: value :: rest =>
    if word = flag then (value :: (readFlags flag rest).1, (readFlags flag rest).2)
    else ([], word :: value :: rest)
  | words => ([], words)

def readCondition (words : List String) : Option Invocation × List String :=
  match readFlag "--post-start-condition-name" words with
  | (none, rest) => (none, rest)
  | (some name, rest) =>
    let (args, rest) := readFlags "--post-start-condition-arg" rest
    (some ⟨name, args⟩, rest)

def readStart (words : List String) : Option String × Option Invocation × List String :=
  match readFlag "--post-start-name" words with
  | (none, rest) => (none, none, rest)
  | (some name, rest) => (some name, readCondition rest)

def readMain? : List String → Option (String × String × String × List String)
  | first :: job :: second :: process :: third :: executable :: args =>
    if first = "--job-name" ∧ second = "--process-name" ∧ third = "--" then
      some (job, process, executable, args)
    else none
  | _ => none

def read? : List String → Option Supervision
  | [] => none
  | word :: words =>
    let (start, condition, rest) := readStart words
    if word = CommandLine.supervisor then
      (readMain? rest).map fun (job, process, executable, args) =>
        ⟨job, process, executable, args, start, condition⟩
    else none

def jobProcess (d : Supervision) : JobProcess :=
  ⟨d.process, d.executable, d.args, ∅, none, .unset, ∅, [], false⟩

def hook (d : Supervision) : StartHook := ⟨d.start.map (⟨·, []⟩), d.condition⟩

theorem ofHook_self (d : Supervision) : ofHook d.job d.jobProcess d.hook = d := by
  simp [ofHook, hook, jobProcess, Function.comp_def]

variable {flag value : String} {ws rest : List String} {d : Supervision}

/-! What has been written is read -/

theorem readFlag_flagged : readFlag flag (flagged flag value ++ rest) = (some value, rest) :=
  if_pos rfl

theorem readFlag_other (other : rest.head? ≠ some flag) : readFlag flag rest = (none, rest) := by
  rcases rest with _ | ⟨word, _ | ⟨value, rest⟩⟩
  · rfl
  · rfl
  · refine if_neg ?_
    rintro rfl
    exact other rfl

/-- The values end where another word than the flag comes, and there only. -/
theorem readFlags_flagged {values : List String} (stops : rest.head? ≠ some flag) :
    readFlags flag (values.flatMap (flagged flag) ++ rest) = (values, rest) := by
  induction values with
  | nil =>
      rw [List.flatMap_nil, List.nil_append]
      rcases rest with _ | ⟨word, _ | ⟨value, rest⟩⟩
      · rfl
      · rfl
      · refine if_neg ?_
        rintro rfl
        exact stops rfl
  | cons value values ih =>
      have step : readFlags flag (flagged flag value ++ (values.flatMap (flagged flag) ++ rest)) =
          (value :: (readFlags flag (values.flatMap (flagged flag) ++ rest)).1,
            (readFlags flag (values.flatMap (flagged flag) ++ rest)).2) := if_pos rfl
      rw [List.flatMap_cons, List.append_assoc, step, ih]

theorem readCondition_written (c : Invocation)
    (stops : rest.head? ≠ some "--post-start-condition-arg") :
    readCondition (StartHook.conditionArgs c ++ rest) = (some c, rest) := by
  have parts : StartHook.conditionArgs c ++ rest = flagged "--post-start-condition-name" c.name ++
      (c.args.flatMap (flagged "--post-start-condition-arg") ++ rest) := rfl
  rw [parts, readCondition, readFlag_flagged]
  simp only [readFlags_flagged stops]

theorem readStart_written {start : Option String} {condition : Option Invocation}
    (grounded : start = none → condition = none) (job process executable : String)
    (args : List String) :
    readStart (startWords start condition ++ mainWords job process executable args) =
      (start, condition, mainWords job process executable args) := by
  have head : (mainWords job process executable args).head? = some "--job-name" := rfl
  have nameless : (mainWords job process executable args).head? ≠ some "--post-start-name" := by
    simp [head]
  have unconditional : (mainWords job process executable args).head? ≠
      some "--post-start-condition-name" := by simp [head]
  have stops : (mainWords job process executable args).head? ≠
      some "--post-start-condition-arg" := by simp [head]
  rw [startWords, readStart]
  cases start with
  | none =>
      rw [grounded rfl]
      simp only [optionWords, Option.map_none, Option.getD_none, List.nil_append,
        readFlag_other nameless]
  | some name =>
      rw [optionWords, Option.map_some, Option.getD_some, List.append_assoc, readFlag_flagged]
      cases condition with
      | none =>
          simp only [Option.map_none, Option.getD_none, List.nil_append, readCondition,
            readFlag_other unconditional]
      | some c => simp only [Option.map_some, Option.getD_some, readCondition_written c stops]

theorem read?_words (grounded : d.start = none → d.condition = none) :
    read? d.words = some d := by
  have main : readMain? (mainWords d.job d.process d.executable d.args) =
      some (d.job, d.process, d.executable, d.args) := by
    rw [mainWords, readMain?]
    exact if_pos ⟨rfl, rfl, rfl⟩
  rw [words, read?]
  simp only [readStart_written grounded, if_true, main, Option.map_some]

/-! What is read has been written -/

theorem words_readFlag (flag : String) (ws : List String) :
    optionWords flag (readFlag flag ws).1 ++ (readFlag flag ws).2 = ws := by
  rcases ws with _ | ⟨word, _ | ⟨value, rest⟩⟩
  · rfl
  · rfl
  · rw [readFlag]
    split
    next same =>
      subst same
      rfl
    next => rfl

theorem words_readFlags (flag : String) (ws : List String) :
    (readFlags flag ws).1.flatMap (flagged flag) ++ (readFlags flag ws).2 = ws := by
  induction ws using readFlags.induct flag with
  | case1 value rest ih =>
      have step : readFlags flag (flag :: value :: rest) =
          (value :: (readFlags flag rest).1, (readFlags flag rest).2) := if_pos rfl
      rw [step, List.flatMap_cons, List.append_assoc, ih]
      rfl
  | case2 word value rest other =>
      have step : readFlags flag (word :: value :: rest) = ([], word :: value :: rest) :=
        if_neg other
      rw [step]
      rfl
  | case3 ws short =>
      have step : readFlags flag ws = ([], ws) := by
        rw [readFlags]
        exact short
      rw [step]
      rfl

theorem words_readCondition (ws : List String) :
    ((readCondition ws).1.map StartHook.conditionArgs).getD [] ++ (readCondition ws).2 = ws := by
  have front := words_readFlag "--post-start-condition-name" ws
  rw [readCondition]
  generalize readFlag "--post-start-condition-name" ws = read at front ⊢
  obtain ⟨_ | name, rest⟩ := read
  · exact front
  · have behind := words_readFlags "--post-start-condition-arg" rest
    calc
      _ = flagged "--post-start-condition-name" name ++
          ((readFlags "--post-start-condition-arg" rest).1.flatMap
            (flagged "--post-start-condition-arg") ++
              (readFlags "--post-start-condition-arg" rest).2) := rfl
      _ = ws := by
        rw [behind]
        exact front

theorem words_readStart (ws : List String) :
    startWords (readStart ws).1 (readStart ws).2.1 ++ (readStart ws).2.2 = ws ∧
      ((readStart ws).1 = none → (readStart ws).2.1 = none) := by
  have front := words_readFlag "--post-start-name" ws
  rw [readStart]
  generalize readFlag "--post-start-name" ws = read at front ⊢
  obtain ⟨_ | name, rest⟩ := read
  · exact ⟨front, fun _ => rfl⟩
  · refine ⟨?_, nofun⟩
    rw [startWords, List.append_assoc, words_readCondition]
    exact front

theorem words_readMain? {job process executable : String} {args : List String}
    (done : readMain? ws = some (job, process, executable, args)) :
    mainWords job process executable args = ws := by
  rcases ws with _ | ⟨first, _ | ⟨job, _ | ⟨second, _ | ⟨process, _ | ⟨third, _ | ⟨executable, args⟩⟩⟩⟩⟩⟩
  case cons.cons.cons.cons.cons.cons =>
    rw [readMain?] at done
    split at done
    next flags =>
      obtain ⟨rfl, rfl, rfl⟩ := flags
      cases done
      rfl
    next => cases done
  all_goals cases done

theorem read?_iff : read? ws = some d ↔ ws = d.words ∧ (d.start = none → d.condition = none) := by
  constructor
  · intro done
    cases ws with
    | nil => cases done
    | cons word ws =>
        obtain ⟨written, grounded⟩ := words_readStart ws
        rw [read?] at done
        generalize readStart ws = read at written grounded done
        obtain ⟨start, condition, rest⟩ := read
        simp only [Option.ite_none_right_eq_some, Option.map_eq_some_iff] at done
        obtain ⟨rfl, ⟨job, process, executable, args⟩, main, rfl⟩ := done
        refine ⟨?_, grounded⟩
        rw [words, words_readMain? main, written]
  · rintro ⟨rfl, grounded⟩
    exact read?_words grounded

end Supervision

namespace CommandLine

variable {job other : String} {p q : JobProcess} {hook again : StartHook}

theorem supervised_words (grounded : hook.Grounded) :
    (supervised job p hook).args = (Supervision.ofHook job p hook).words := by
  have flags : hook.args = Supervision.startWords (hook.command.map (·.name)) hook.condition := by
    obtain ⟨command, condition⟩ := hook
    cases command with
    | none =>
        obtain rfl : condition = none := grounded rfl
        rfl
    | some c => rfl
  rw [supervised, flags, List.append_assoc]
  rfl

theorem supervised_read? (grounded : hook.Grounded) :
    Supervision.read? (supervised job p hook).args = some (Supervision.ofHook job p hook) := by
  rw [supervised_words grounded]
  apply Supervision.read?_words
  intro absent
  exact grounded (Option.map_eq_none_iff.mp absent)

/-- What the supervisor is told to run can be read off the words of its command line, and nothing
else can be; so two processes have the same words exactly if the same is to be run. -/
theorem supervised_readable (grounded : hook.Grounded) (groundedToo : again.Grounded) :
    Supervision.read? (supervised job p hook).args = some ⟨job, p.name, p.executable, p.args,
      hook.command.map (·.name), hook.condition⟩ ∧
    ((supervised job p hook).args = (supervised other q again).args ↔
      job = other ∧ p.name = q.name ∧ p.executable = q.executable ∧ p.args = q.args ∧
        hook.command.map (·.name) = again.command.map (·.name) ∧
        hook.condition = again.condition) ∧
    ∀ ws d, Supervision.read? ws = some d →
      ∃ r use, use.Grounded ∧ (supervised d.job r use).args = ws ∧
        Supervision.ofHook d.job r use = d := by
  refine ⟨supervised_read? grounded, ?_, ?_⟩
  · constructor
    · intro same
      have read : Supervision.read? (supervised job p hook).args =
          some (Supervision.ofHook job p hook) := supervised_read? grounded
      rw [same, supervised_read? groundedToo] at read
      exact Supervision.mk.inj (Option.some.inj read.symm)
    · rintro ⟨rfl, name, executable, args, start, condition⟩
      rw [supervised_words grounded, supervised_words groundedToo, Supervision.ofHook,
        Supervision.ofHook, name, executable, args, start, condition]
  · intro ws d done
    obtain ⟨rfl, grounded⟩ := Supervision.read?_iff.mp done
    have bound : d.hook.Grounded := by
      intro absent
      exact grounded (Option.map_eq_none_iff.mp absent)
    exact ⟨d.jobProcess, d.hook, bound, by rw [supervised_words bound, d.ofHook_self], d.ofHook_self⟩

end CommandLine

namespace Masked

def process : JobProcess :=
  ⟨"--", "--job-name", ["--post-start-condition-arg", ""], ∅, none, .unset, ∅, [], false⟩

def hook : StartHook :=
  .ofJob "--job-name" (some ["--job-name", "--process-name", "--", "--post-start-condition-arg"])

def other : StartHook := .ofJob "--job-name" (some ["--job-name", "--process-name", "--"])

end Masked

/-- Texts that look like flags are told from flags. -/
theorem supervised_readable_masked :
    Masked.hook.Grounded ∧ Masked.other.Grounded ∧
      Supervision.read? (CommandLine.supervised "--job-name" Masked.process Masked.hook).args =
        some ⟨"--job-name", "--", "--job-name", ["--post-start-condition-arg", ""],
          some "/var/vcap/jobs/--job-name/bin/post-start",
          some ⟨"--job-name", ["--process-name", "--", "--post-start-condition-arg"]⟩⟩ ∧
      (CommandLine.supervised "--job-name" Masked.process Masked.hook).args ≠
        (CommandLine.supervised "--job-name" Masked.process Masked.other).args := by
  have grounded : Masked.hook.Grounded := StartHook.grounded_ofJob _ _
  have groundedToo : Masked.other.Grounded := StartHook.grounded_ofJob _ _
  obtain ⟨read, same, -⟩ := @CommandLine.supervised_readable "--job-name" "--job-name"
    Masked.process Masked.process _ _ grounded groundedToo
  refine ⟨grounded, groundedToo, read, ?_⟩
  intro words
  have conditions := (same.mp words).2.2.2.2.2
  exact absurd conditions (by decide)

end JobContainers

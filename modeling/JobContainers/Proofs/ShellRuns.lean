import JobContainers.Decimal
import JobContainers.Proofs.ShellReading
import Mathlib.Data.Finset.Card
import Mathlib.Logic.Function.Basic
import Mathlib.Logic.Relation

/-!
How scripts run. A shell goes on silently until it needs the outside: a test of a file, a program
that it starts, a count of the entries of a directory, or a file that it leaves. Shells side by
side share the files and go on in any order.
-/

set_option autoImplicit false

namespace JobContainers.Shell

structure Frame where
  rest : Script
  args : List String

structure Session where
  vars : String → String
  functions : List (String × Script)
  /-- The exit code of a program, directly behind it. -/
  status : Option UInt8
  frames : List Frame

/-- What a shell does next, open in what it is told from outside. -/
inductive Move where
  | silent (next : Session)
  | check (file : String) (next : Bool → Session)
  | launch (program : String) (next : UInt8 → Int → Session)
  | count (directory : String) (next : Nat → Session)
  | touch (path : String) (next : Session)
  | exit (code : UInt8)

/-- Whether a value is a single word with no meaning to the shell, so that it needs no quotes. -/
def isSingle (s : String) : Bool := s ≠ "" && s.toList.all isInert

def Comparison.holds (m n : Int) : Comparison → Bool
  | differs => m ≠ n
  | less => m < n

namespace Session

def start (s : Script) : Session := ⟨fun _ => "", [], none, [⟨s, []⟩]⟩

def parameter? (sh : Session) (args : List String) (name : String) : Option String :=
  if name = "?" then sh.status.map fun code => .ofList (Decimal.digitText code.toNat)
  else if name = "1" then args.head?
  else if isName name.toList then some (sh.vars name)
  else none

/-- What a text stands for, where that is itself or one parameter. -/
def text? (sh : Session) (args : List String) : List Char → Option String
  | '$' :: name => sh.parameter? args (.ofList name)
  | cs => if '$' ∈ cs then none else some (.ofList cs)

def value? (sh : Session) (args : List String) (w : Word) : Option String :=
  if w.quoted then sh.text? args w.text.toList
  else (sh.text? args w.text.toList).filter isSingle

def number? (sh : Session) (args : List String) (w : Word) : Option Int :=
  (sh.value? args w).bind fun s => Decimal.integer? s.toList

def test? (sh : Session) (args : List String) (next : Bool → Session) : Test → Option Move
  | .always => some (.silent (next true))
  | .notExecutable file =>
    (sh.value? args file).map fun file => .check file fun executable => next (!executable)
  | .compares how left right => do
    let m ← sh.number? args left
    let n ← sh.number? args right
    return .silent (next (how.holds m n))
  | .fewerEntries directory bound => do
    let place ← sh.value? args directory
    let n ← sh.number? args bound
    return .count place fun entries => next ((entries : Int) < n)

/-- Commands that only write or wait. -/
def idle : List String := ["shopt", "echo", "sleep"]

def call? (sh : Session) (args : List String) (next : Session) (name : String)
    (words : List Word) : Option Move :=
  match sh.functions.lookup name with
  | some body => do
    let values ← words.mapM (sh.value? args)
    return .silent { next with frames := ⟨body, values⟩ :: next.frames }
  | none =>
    if name ∈ idle then some (.silent next)
    else match words with
      | [w] =>
        if name = "touch" then (sh.value? args w).map fun path => .touch path next
        else if name = "exit" then do
          let code ← sh.number? args w
          if 0 ≤ code ∧ code < 256 then some (.exit (.ofNat code.toNat)) else none
        else none
      | _ => none

def perform? (sh : Session) (args : List String) (next : Session) : Command → Option Move
  | .assign name w =>
    (sh.value? args w).map fun v => .silent { next with vars := Function.update next.vars name v }
  | .capture name w => (sh.value? args w).map fun program => .launch program fun code output =>
    { next with
      vars := Function.update next.vars name (.ofList (integerText output))
      status := some code }
  | .call name words => sh.call? args next name words

/-- The next move; `none` for what is not known of shells here. -/
def move? (sh : Session) : Option Move :=
  match sh.frames with
  | [] => none
  | ⟨script, args⟩ :: frames =>
    let go (scripts : List Script) : Session :=
      { sh with status := none, frames := scripts.map (⟨·, args⟩) ++ frames }
    match script with
    | .finish => some (.silent (go []))
    | .blank rest => some (.silent { sh with frames := ⟨rest, args⟩ :: frames })
    | .command c rest => sh.perform? args (go [rest]) c
    | .function name body rest =>
      some (.silent { go [rest] with functions := (name, body) :: sh.functions })
    | .choice test yes no rest => sh.test? args (fun holds => go [if holds then yes else no, rest]) test
    | .loop test body rest =>
      sh.test? args (fun holds => go (if holds then [body, .loop test body rest] else [rest])) test
    | .shortLoop test body rest =>
      sh.test? args (fun holds => go (if holds then
        [.command body .finish, .shortLoop test body rest] else [rest])) test

end Session

inductive Event where
  | checked (file : String) (executable : Bool)
  | ran (program : String) (code : UInt8) (output : Int)
  | touched (path : String)
  | exited (code : UInt8)
  deriving DecidableEq

inductive State where
  | running (sh : Session)
  | exited (code : UInt8)

/-- Whether a path is that of an entry of a directory, as it is listed; names that begin with a
point are hidden. -/
def isEntry (directory path : String) : Bool :=
  let front := (directory ++ "/").toList
  let name := path.toList.drop front.length
  front.isPrefixOf path.toList && name ≠ [] && name.head? ≠ some '.' && !name.contains '/'

def entries (directory : String) (files : Finset String) : Nat :=
  (files.filter fun path => isEntry directory path).card

/-- What comes of a move among files. A program may exit with any code and any output. -/
inductive Move.Result (files : Finset String) : Move → Option Event → Finset String → State → Prop
  | silent (next : Session) : Result files (.silent next) none files (.running next)
  | check (file : String) (next : Bool → Session) (executable : Bool) :
      Result files (.check file next) (some (.checked file executable)) files
        (.running (next executable))
  | launch (program : String) (next : UInt8 → Int → Session) (code : UInt8) (output : Int) :
      Result files (.launch program next) (some (.ran program code output)) files
        (.running (next code output))
  | count (directory : String) (next : Nat → Session) :
      Result files (.count directory next) none files (.running (next (entries directory files)))
  | touch (path : String) (next : Session) :
      Result files (.touch path next) (some (.touched path)) (insert path files) (.running next)
  | exit (code : UInt8) : Result files (.exit code) (some (.exited code)) files (.exited code)

structure Process where
  history : List Event
  state : State

structure Pod where
  files : Finset String
  processes : List Process

namespace Pod

def start (scripts : List Script) : Pod :=
  ⟨∅, scripts.map fun s => ⟨[], .running (.start s)⟩⟩

inductive Step : Pod → Pod → Prop
  | move {s : Pod} {i : Nat} {history : List Event} {sh : Session} {m : Move}
      {event : Option Event} {files : Finset String} {state : State}
      (placed : s.processes[i]? = some ⟨history, .running sh⟩) (move : sh.move? = some m)
      (result : m.Result s.files event files state) :
      Step s ⟨files, s.processes.set i ⟨history ++ event.toList, state⟩⟩

def Reachable (scripts : List Script) (s : Pod) : Prop :=
  Relation.ReflTransGen Step (start scripts) s

end Pod

end JobContainers.Shell

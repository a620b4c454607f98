import JobContainers.Shell

/-!
Scripts read from their text: characters become words and signs, words become lines, and lines
become blocks.
-/

set_option autoImplicit false

namespace JobContainers.Shell

/-! Characters and words -/

/-- Characters that mean nothing to a shell. -/
def isInert (c : Char) : Bool :=
  c.isAlphanum || 128 ≤ c.toNat || ['-', '_', '/', '.', ':'].contains c

def isWordChar (c : Char) : Bool :=
  isInert c || ['$', '?', '!', '[', ']', '\x7b', '\x7d'].contains c

def isQuotable (c : Char) : Bool := !(['"', '\\', '\x60', '\n'].contains c)

def isName (cs : List Char) : Bool := !cs.isEmpty && cs.all fun c => c.isAlphanum || c = '_'

inductive Key where
  | choice | yes | otherwise | endChoice
  | loop | body | endLoop
  | openFunction | endFunction
  | openTest | endTest | always | not | executable | differs | less
  deriving DecidableEq

namespace Key

def all : List Key :=
  [choice, yes, otherwise, endChoice, loop, body, endLoop, openFunction, endFunction, openTest,
    endTest, always, not, executable, differs, less]

def spelling : Key → String
  | choice => "if"
  | yes => "then"
  | otherwise => "else"
  | endChoice => "fi"
  | loop => "while"
  | body => "do"
  | endLoop => "done"
  | openFunction => "\x7b"
  | endFunction => "\x7d"
  | openTest => "["
  | endTest => "]"
  | always => "true"
  | not => "!"
  | executable => "-x"
  | differs => "-ne"
  | less => "-lt"

def ofSpelling? (s : String) : Option Key := all.find? (·.spelling = s)

end Key

inductive Token where
  | key (k : Key)
  | word (w : Word)
  | assign (name : String)
  | noArgs
  | semicolon
  | pipe
  | opening
  | closing
  deriving DecidableEq

def Token.ofBare (cs : List Char) : Token :=
  match Key.ofSpelling? (.ofList cs) with
  | some k => .key k
  | none => .word (.bare (.ofList cs))

/-- What a reader of characters is in the middle of. -/
inductive Mode where
  | between
  | value
  | bare (read : List Char)
  | args (read : List Char)
  | inQuotes (read : List Char)
  | closed
  deriving DecidableEq

def separator? : Char → Option (List Token × Mode)
  | ' ' => some ([], .between)
  | ';' => some ([.semicolon], .between)
  | '|' => some ([.pipe], .between)
  | ')' => some ([.closing], .closed)
  | _ => none

def begin? (c : Char) : Option Mode :=
  if c = '"' then some (.inQuotes []) else if isWordChar c then some (.bare [c]) else none

namespace Mode

def step? : Mode → Char → Option (List Token × Mode)
  | between, c => (separator? c).or ((begin? c).map fun m => ([], m))
  | value, c => (begin? c).map fun m => ([], m)
  | bare read, c =>
    if isWordChar c then some ([], bare (read ++ [c]))
    else if c = '=' ∧ isName read then some ([.assign (.ofList read)], value)
    else if c = '(' then
      if read = ['$'] then some ([.opening], between) else some ([], args read)
    else (separator? c).map fun (ts, m) => (.ofBare read :: ts, m)
  | args read, c => if c = ')' then some ([.ofBare read, .noArgs], closed) else none
  | inQuotes read, c =>
    if c = '"' then some ([.word (.inQuotes (.ofList read))], closed)
    else if isQuotable c then some ([], inQuotes (read ++ [c])) else none
  | closed, c => separator? c

def finish? : Mode → Option (List Token)
  | between | closed => some []
  | bare read => some [.ofBare read]
  | value | args _ | inQuotes _ => none

end Mode

def tokens? (m : Mode) : List Char → Option (List Token)
  | [] => m.finish?
  | c :: cs => do
    let (ts, next) ← m.step? c
    let more ← tokens? next cs
    return ts ++ more

/-! Lines -/

def Token.word? : Token → Option Word
  | word w => some w
  | _ => none

def readTest? : List Token → Option (Test × List Token)
  | .key .always :: rest => some (.always, rest)
  | .key .openTest :: .key .not :: .key .executable :: .word file :: .key .endTest :: rest =>
    some (.notExecutable file, rest)
  | .key .openTest :: .word left :: .key .differs :: .word right :: .key .endTest :: rest =>
    some (.compares .differs left right, rest)
  | .key .openTest :: .word left :: .key .less :: .word right :: .key .endTest :: rest =>
    some (.compares .less left right, rest)
  | .key .openTest :: .opening :: .word list :: .word single :: .word directory :: .pipe ::
      .word count :: .word lines :: .closing :: .key .less :: .word bound :: .key .endTest ::
      rest =>
    if [list, single, count, lines] = [.bare "ls", .bare "-1", .bare "wc", .bare "-l"] then
      some (.fewerEntries directory bound, rest)
    else none
  | _ => none

def readCommand? : List Token → Option Command
  | [.assign name, .word value] => some (.assign name value)
  | [.assign name, .opening, .word program, .closing] => some (.capture name program)
  | .word ⟨false, name⟩ :: args => (args.mapM Token.word?).map (.call name)
  | _ => none

def readShort? (ts : List Token) : Option Command :=
  match ts.reverse with
  | .key .endLoop :: .semicolon :: command => readCommand? command.reverse
  | _ => none

def readChoice? (ts : List Token) : Option Line :=
  match readTest? ts with
  | some (test, [.semicolon, .key .yes]) => some (.choice test)
  | _ => none

def readLoop? (ts : List Token) : Option Line :=
  match readTest? ts with
  | some (test, [.semicolon, .key .body]) => some (.loop test)
  | some (test, .semicolon :: .key .body :: short) => (readShort? short).map (.shortLoop test)
  | _ => none

def readLine? : List Token → Option Line
  | [] => some .blank
  | [.word ⟨false, name⟩, .noArgs, .key .openFunction] => some (.function name)
  | [.key .endFunction] => some .endFunction
  | [.key .otherwise] => some .otherwise
  | [.key .endChoice] => some .endChoice
  | [.key .endLoop] => some .endLoop
  | .key .choice :: ts => readChoice? ts
  | .key .loop :: ts => readLoop? ts
  | ts => (readCommand? ts).map .command

def line? (cs : List Char) : Option Line :=
  (tokens? .between (cs.dropWhile (· = '\t'))).bind readLine?

/-! Blocks -/

/-- The end of a block whose beginning has not been seen, when lines are read from the last one. -/
inductive Ending where
  | function
  | choice
  | otherwise (no : Script)
  | loop

/-- The script that the lines begin with, and the ends of blocks that are left open in front of it,
each with the script behind the block. -/
def readBlocks? : List Line → Option (Script × List (Ending × Script))
  | [] => some (.finish, [])
  | line :: lines => do
    let (script, open') ← readBlocks? lines
    match line, open' with
    | .blank, _ => some (.blank script, open')
    | .command c, _ => some (.command c script, open')
    | .shortLoop test body, _ => some (.shortLoop test body script, open')
    | .endFunction, _ => some (.finish, (.function, script) :: open')
    | .endChoice, _ => some (.finish, (.choice, script) :: open')
    | .endLoop, _ => some (.finish, (.loop, script) :: open')
    | .otherwise, (.choice, rest) :: open' => some (.finish, (.otherwise script, rest) :: open')
    | .function name, (.function, rest) :: open' => some (.function name script rest, open')
    | .choice test, (.choice, rest) :: open' => some (.choice test script .finish rest, open')
    | .choice test, (.otherwise no, rest) :: open' => some (.choice test script no rest, open')
    | .loop test, (.loop, rest) :: open' => some (.loop test script rest, open')
    | _, _ => none

def Script.read? (text : List Char) : Option Script := do
  let lines ← (text.splitOn '\n').mapM line?
  match readBlocks? lines with
  | some (script, []) => some script
  | _ => none

end JobContainers.Shell

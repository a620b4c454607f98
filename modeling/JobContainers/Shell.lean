set_option autoImplicit false

namespace JobContainers.Shell

def spaced (words : List String) : String := " ".intercalate words

structure Word where
  quoted : Bool
  text : String
  deriving DecidableEq

namespace Word

def bare (text : String) : Word := ⟨false, text⟩

def inQuotes (text : String) : Word := ⟨true, text⟩

def spelling (w : Word) : String := if w.quoted then "\"" ++ w.text ++ "\"" else w.text

end Word

inductive Comparison where
  | differs
  | less
  deriving DecidableEq

def Comparison.spelling : Comparison → String
  | differs => "-ne"
  | less => "-lt"

inductive Test where
  | always
  | notExecutable (file : Word)
  | compares (how : Comparison) (left right : Word)
  /-- Whether a directory has fewer entries than this. -/
  | fewerEntries (directory bound : Word)
  deriving DecidableEq

def Test.text : Test → String
  | always => "true"
  | notExecutable file => spaced ["[", "!", "-x", file.spelling, "]"]
  | compares how left right => spaced ["[", left.spelling, how.spelling, right.spelling, "]"]
  | fewerEntries directory bound =>
    spaced ["[", "$(ls", "-1", directory.spelling, "|", "wc", "-l)", "-lt", bound.spelling, "]"]

inductive Command where
  | assign (name : String) (value : Word)
  | capture (name : String) (program : Word)
  | call (name : String) (args : List Word)
  deriving DecidableEq

def Command.text : Command → String
  | assign name value => name ++ "=" ++ value.spelling
  | capture name program => spaced [name ++ "=$(", program.spelling, ")"]
  | call name args => spaced (name :: args.map Word.spelling)

inductive Line where
  | blank
  | command (c : Command)
  | function (name : String)
  | endFunction
  | choice (test : Test)
  | otherwise
  | endChoice
  | loop (test : Test)
  | endLoop
  | shortLoop (test : Test) (body : Command)
  deriving DecidableEq

def Line.text : Line → String
  | blank => ""
  | command c => c.text
  | function name => spaced [name ++ "()", "\x7b"]
  | endFunction => "\x7d"
  | choice test => spaced ["if", test.text ++ ";", "then"]
  | otherwise => "else"
  | endChoice => "fi"
  | loop test => spaced ["while", test.text ++ ";", "do"]
  | endLoop => "done"
  | shortLoop test body => spaced ["while", test.text ++ ";", "do", body.text ++ ";", "done"]

/-- A script from its first line on; `rest` is what comes behind a line or a block. -/
inductive Script where
  | finish
  | blank (rest : Script)
  | command (c : Command) (rest : Script)
  | function (name : String) (body rest : Script)
  | choice (test : Test) (yes no rest : Script)
  | loop (test : Test) (body rest : Script)
  | shortLoop (test : Test) (body : Command) (rest : Script)
  deriving DecidableEq

namespace Script

def lines (depth : Nat) : Script → List (Nat × Line)
  | finish => []
  | blank rest => (0, .blank) :: rest.lines depth
  | command c rest => (depth, .command c) :: rest.lines depth
  | function name body rest =>
    (depth, .function name) :: body.lines (depth + 1)
      ++ (depth, .endFunction) :: rest.lines depth
  | choice test yes no rest =>
    (depth, .choice test) :: yes.lines (depth + 1)
      ++ (if no = finish then [] else (depth, .otherwise) :: no.lines (depth + 1))
      ++ (depth, .endChoice) :: rest.lines depth
  | loop test body rest =>
    (depth, .loop test) :: body.lines (depth + 1) ++ (depth, .endLoop) :: rest.lines depth
  | shortLoop test body rest => (depth, .shortLoop test body) :: rest.lines depth

def indented : Nat × Line → String
  | (depth, line) => .ofList (List.replicate depth '\t') ++ line.text

def text (s : Script) : String := "\n".intercalate ((s.lines 0).map indented)

end Script

end JobContainers.Shell

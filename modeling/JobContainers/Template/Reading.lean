import JobContainers.Template.Ast
import JobContainers.Template.Token

set_option autoImplicit false

namespace JobContainers.Template

structure Progress where
  tokens : List Token
  depth : Nat
  inDefinition : Bool
  names : List String
  blocks : List (String × List Stmt)

abbrev Reading (α : Type) := StateT Progress (Except Error) α

namespace Reading

def peek : Reading (Option Token) := do
  match (← get).tokens with
  | [] => return none
  | .fault cause :: _ => throw cause
  | t :: _ => return some t

def drop : Reading Unit := modify fun s => { s with tokens := s.tokens.tail }

def next : Reading (Option Token) := do
  let t ← peek
  drop
  return t

def skip (t : Token) : Reading Bool := do
  if (← peek) = some t then
    drop
    return true
  else return false

def skipSymbol (text : String) : Reading Bool := skip (.symbol text)

def skipWord (id : String) : Reading Bool := skip (.name id)

def sees (t : Token) : Reading Bool := return (← peek) = some t

def seesSymbol (text : String) : Reading Bool := sees (.symbol text)

def expect (t : Token) : Reading Unit := do
  unless ← skip t do throw .badSyntax

def expectSymbol (text : String) : Reading Unit := expect (.symbol text)

def expectWord (id : String) : Reading Unit := expect (.name id)

def word : Reading String := do
  match ← next with
  | some (.name id) => return id
  | _ => throw .badSyntax

/-- How deep expressions and statements may be nested. -/
def maxDepth : Nat := 150

def nested {α : Type} (read : Reading α) : Reading α := do
  let depth := (← get).depth
  if maxDepth ≤ depth then throw .badSyntax
  modify fun s => { s with depth := depth + 1 }
  let x ← read
  modify fun s => { s with depth := depth }
  return x

def defined {α : Type} (read : Reading α) : Reading α := do
  let outside := (← get).inDefinition
  modify fun s => { s with inDefinition := true }
  let x ← read
  modify fun s => { s with inDefinition := outside }
  return x

end Reading

end JobContainers.Template

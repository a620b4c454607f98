import JobContainers.Template.Grammar.Expression

set_option autoImplicit false

namespace JobContainers.Template

namespace Grammar

open Reading

def reserved : List String := ["true", "True", "false", "False", "none", "None", "loop", "self"]

def newName : Reading String := do
  let id ← word
  if id ∈ reserved then throw .badSyntax else return id

def filters : Nat → Reading FilterChain
  | 0 => throw .badSyntax
  | n + 1 => do
    let id ← word
    let args ← if ← skipSymbol "(" then args n [] else pure []
    let rest ← if ← skipSymbol "|" then filters n else pure []
    return (id, args) :: rest

mutual

def target : Nat → Reading Target
  | 0 => throw .badSyntax
  | n + 1 => do
    match ← targets n [] with
    | ([t], false) => return t
    | (ts, _) => return .items ts

def targets : Nat → List Target → Reading (List Target × Bool)
  | 0, _ => throw .badSyntax
  | n + 1, taken => do
    let ended := match ← peek with
      | some (.symbol ")") | some .tagEnd | some (.name "in") => true
      | _ => false
    if ended then return (taken.reverse, !taken.isEmpty)
    let t ←
      if ← skipSymbol "(" then
        let t ← target n
        expectSymbol ")"
        pure t
      else Target.name <$> newName
    if ← skipSymbol "," then targets n (t :: taken)
    else return ((t :: taken).reverse, !taken.isEmpty)

end

def path : Nat → Reading (List String)
  | 0 => throw .badSyntax
  | n + 1 => do
    if ← skipSymbol "." then
      let key ← word
      return key :: (← path n)
    else return []

def memberTarget (n : Nat) : Reading Target := do
  if ← skipSymbol "(" then
    let t ← target n
    expectSymbol ")"
    return t
  let id ← newName
  let keys ← path n
  match keys.getLast? with
  | some key => return .member id keys.dropLast key
  | none => return .name id

def moreTargets : Nat → Reading (List Target)
  | 0 => throw .badSyntax
  | n + 1 => do
    if ← skipSymbol "," then
      if ← seesSymbol "=" then return []
      let t ← memberTarget n
      return t :: (← moreTargets n)
    else return []

def moreValues : Nat → Reading (List Expr)
  | 0 => throw .badSyntax
  | n + 1 => do
    if ← skipSymbol "," then
      if ← sees .tagEnd then return []
      let e ← expr n
      return e :: (← moreValues n)
    else return []

def params : Nat → List Param → Reading (List Param)
  | 0, _ => throw .badSyntax
  | n + 1, taken => do
    if ← skipSymbol ")" then return taken.reverse
    unless taken.isEmpty do expectSymbol ","
    if !taken.isEmpty && (← skipSymbol ")") then return taken.reverse
    let id ← newName
    if ← skipSymbol "=" then params n ((id, some (← expr n)) :: taken)
    else if taken.any (·.2.isSome) then throw .badSyntax
    else params n ((id, none) :: taken)

def bindings : Nat → List (Target × Expr) → Reading (List (Target × Expr))
  | 0, _ => throw .badSyntax
  | n + 1, taken => do
    if ← sees .tagEnd then return taken.reverse
    unless taken.isEmpty do expectSymbol ","
    let t ←
      if ← skipSymbol "(" then
        let t ← target n
        expectSymbol ")"
        pure t
      else Target.name <$> newName
    expectSymbol "="
    bindings n ((t, ← expr n) :: taken)

def visibility : Reading Unit := do
  if (← skipWord "with") || (← skipWord "without") then expectWord "context"

def imports : Nat → Bool → Reading Unit
  | 0, _ => throw .badSyntax
  | n + 1, isFirst => do
    match ← peek with
    | some .tagEnd | some (.name "with") | some (.name "without") => return
    | _ =>
      unless isFirst do expectSymbol ","
      if ← sees .tagEnd then return
      discard newName
      if ← skipWord "as" then discard newName
      imports n false

def reference (n : Nat) (id : String) : Reading Stmt := do
  let e ← expr n
  match id with
  | "extends" => return .template e .base
  | "include" =>
    visibility
    if ← skipWord "ignore" then
      expectWord "missing"
      visibility
      return .template e (.part true)
    return .template e (.part false)
  | "import" =>
    expectWord "as"
    discard <| expr n
    visibility
    return .template e (.part false)
  | _ =>
    expectWord "import"
    imports n true
    visibility
    return .template e (.part false)

mutual

/-- Statements up to a tag that begins with one of the words; that word is left. -/
def body : Nat → List String → Reading (List Stmt)
  | 0, _ => throw .badSyntax
  | n + 1, ends => do
    match ← next with
    | none => return []
    | some (.plain text) => return .plain text :: (← body n ends)
    | some (.tagStart .output) =>
      let e ← expr n
      expect .tagEnd
      return .output e :: (← body n ends)
    | some (.tagStart .statement) =>
      match ← peek with
      | some (.name id) =>
        if id ∈ ends then return []
        let s ← nested (statement n)
        expect .tagEnd
        return s :: (← body n ends)
      | _ => throw .badSyntax
    | some _ => throw .badSyntax

def bodyTo : Nat → String → Reading (List Stmt)
  | 0, _ => throw .badSyntax
  | n + 1, word => do
    expect .tagEnd
    let b ← body n [word]
    expectWord word
    return b

def statement : Nat → Reading Stmt
  | 0 => throw .badSyntax
  | n + 1 => do
    match ← word with
    | "if" => branch n
    | "for" => loop n
    | "set" => assignment n
    | "with" =>
      let bs ← bindings n []
      return .scope bs (← bodyTo n "endwith")
    | "filter" =>
      let fs ← filters n
      return .filtered fs (← bodyTo n "endfilter")
    | "autoescape" =>
      let mode ← expr n
      return .escaping mode (← bodyTo n "endautoescape")
    | "macro" =>
      let id ← word
      expectSymbol "("
      let ps ← params n []
      return .define id ps (← defined (bodyTo n "endmacro"))
    | "call" =>
      let ps ← if ← skipSymbol "(" then params n [] else pure []
      match ← expr n with
      | .call callee args => return .callWith callee args ps (← defined (bodyTo n "endcall"))
      | _ => throw .badSyntax
    | "do" =>
      match ← expr n with
      | .call callee args => return .evaluate (.call callee args)
      | _ => throw .badSyntax
    | "block" => block n
    | id =>
      if id ∈ ["extends", "include", "import", "from"] then reference n id else throw .badSyntax

def block : Nat → Reading Stmt
  | 0 => throw .badSyntax
  | n + 1 => do
    if (← get).inDefinition then throw .badSyntax
    let id ← word
    if id ∈ (← get).names then throw .badSyntax
    modify fun s => { s with names := id :: s.names }
    discard <| skipWord "scoped"
    let b ← bodyTo n "endblock"
    modify fun s => { s with blocks := (id, b) :: s.blocks }
    match ← peek with
    | some (.name _) => expectWord id
    | _ => pure ()
    return .block id b

def branch : Nat → Reading Stmt
  | 0 => throw .badSyntax
  | n + 1 => do
    let test ← disjunction n
    expect .tagEnd
    let yes ← body n ["elif", "else", "endif"]
    match ← word with
    | "elif" => return .branch test yes [← branch n]
    | "else" => return .branch test yes (← bodyTo n "endif")
    | _ => return .branch test yes []

def loop : Nat → Reading Stmt
  | 0 => throw .badSyntax
  | n + 1 => do
    let t ← target n
    expectWord "in"
    let values ← disjunction n
    let keep ← if ← skipWord "if" then some <$> expr n else pure none
    let recursive ← skipWord "recursive"
    expect .tagEnd
    let b ← body n ["else", "endfor"]
    match ← word with
    | "else" => return .loop t values keep recursive b (← bodyTo n "endfor")
    | _ => return .loop t values keep recursive b []

/-- An assignment, behind its first word; without an equals sign the text of a body is assigned.
With commas on one side that side is a list. -/
def assignment : Nat → Reading Stmt
  | 0 => throw .badSyntax
  | n + 1 => do
    let inBrackets ← seesSymbol "("
    let t ← memberTarget n
    if !inBrackets && ((← sees .tagEnd) || (← seesSymbol "|")) then
      let fs ← if ← skipSymbol "|" then filters n else pure []
      return .capture t fs (← bodyTo n "endset")
    let t ← if ← seesSymbol "," then (fun ts => .items (t :: ts)) <$> moreTargets n else pure t
    expectSymbol "="
    let e ← expr n
    let e ← if ← seesSymbol "," then (fun es => .list (e :: es)) <$> moreValues n else pure e
    return .assign t e

end

end Grammar

structure Page where
  body : List Stmt
  blocks : List (String × List Stmt)

def Page.ofTemplate (template : String) : Except Error Page := do
  let tokens := Token.ofTemplate template
  let (body, s) ← Grammar.body (32 * (tokens.length + 1)) [] ⟨tokens, 0, false, [], []⟩
  return ⟨body, s.blocks⟩

end JobContainers.Template

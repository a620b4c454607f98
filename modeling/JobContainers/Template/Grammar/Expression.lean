import JobContainers.Template.Reading

/-!
The grammar of expressions. Operators bind from loose to tight: conditional, or, and, not,
comparison, sum, concatenation, product, power; then filters and tests, look-ups and calls, and
tightest of all signs. All operators of a level group to the left, and comparisons form chains.

Reading goes from token to token with a budget for the depth of calls; the budget of a template
grows with its number of tokens and is never used up.
-/

set_option autoImplicit false

namespace JobContainers.Template.Grammar

open Reading

abbrev Level := List (String × BinaryOp)

def levels : List Level :=
  [[("+", .add), ("-", .sub)], [("~", .concat)],
    [("*", .mul), ("/", .div), ("//", .quotient), ("%", .remainder)], [("**", .power)]]

def operator? (level : Level) : Reading (Option BinaryOp) := do
  match ← peek with
  | some (.symbol text) =>
    match level.lookup text with
    | some op =>
      drop
      return some op
    | none => return none
  | _ => return none

def comparisons : List (String × Comparison) :=
  [("==", .eq), ("!=", .ne), ("<", .lt), ("<=", .le), (">", .gt), (">=", .ge)]

def comparison? : Reading (Option Comparison) := do
  if ← skipWord "in" then return some .isIn
  if ← skipWord "not" then
    expectWord "in"
    return some .notIn
  match ← peek with
  | some (.symbol text) =>
    match comparisons.lookup text with
    | some c =>
      drop
      return some c
    | none => return none
  | _ => return none

def bareArgument : Reading Bool := do
  match ← peek with
  | some (.name id) => return id ∉ ["and", "or", "else", "is"]
  | some (.string _) | some (.int _) | some (.float _) => return true
  | some (.symbol text) => return text ∈ ["[", "\x7b", "-", "+"]
  | _ => return false

def constant? : String → Option Literal
  | "true" | "True" => some (.bool true)
  | "false" | "False" => some (.bool false)
  | "none" | "None" => some .none
  | _ => none

def strings (s : String) : Nat → Reading String
  | 0 => throw .badSyntax
  | n + 1 => do
    match ← peek with
    | some (.string t) =>
      drop
      strings (s ++ t) n
    | _ => return s

mutual

def expr : Nat → Reading Expr
  | 0 => throw .badSyntax
  | n + 1 => nested (choice n)

def choice : Nat → Reading Expr
  | 0 => throw .badSyntax
  | n + 1 => do conditional n (← disjunction n)

def conditional : Nat → Expr → Reading Expr
  | 0, _ => throw .badSyntax
  | n + 1, value => do
    if ← skipWord "if" then
      let test ← disjunction n
      let otherwise ← if ← skipWord "else" then some <$> choice n else pure none
      conditional n (.conditional test value otherwise)
    else return value

def disjunction : Nat → Reading Expr
  | 0 => throw .badSyntax
  | n + 1 => do disjunctionRest n (← conjunction n)

def disjunctionRest : Nat → Expr → Reading Expr
  | 0, _ => throw .badSyntax
  | n + 1, left => do
    if ← skipWord "or" then disjunctionRest n (.or left (← conjunction n)) else return left

def conjunction : Nat → Reading Expr
  | 0 => throw .badSyntax
  | n + 1 => do conjunctionRest n (← negation n)

def conjunctionRest : Nat → Expr → Reading Expr
  | 0, _ => throw .badSyntax
  | n + 1, left => do
    if ← skipWord "and" then conjunctionRest n (.and left (← negation n)) else return left

def negation : Nat → Reading Expr
  | 0 => throw .badSyntax
  | n + 1 => do
    if ← skipWord "not" then return .not (← negation n)
    let first ← binary n levels
    match ← chain n [] with
    | [] => return first
    | rest => return .compare first rest

/-- What a value is compared with, `taken` being what comes before, last first. -/
def chain : Nat → List (Comparison × Expr) → Reading (List (Comparison × Expr))
  | 0, _ => throw .badSyntax
  | n + 1, taken => do
    match ← comparison? with
    | some c => chain n ((c, ← binary n levels) :: taken)
    | none => return taken.reverse

def binary : Nat → List Level → Reading Expr
  | 0, _ => throw .badSyntax
  | n + 1, [] => unary n
  | n + 1, level :: tighter => do binaryRest n level tighter (← binary n tighter)

def binaryRest : Nat → Level → List Level → Expr → Reading Expr
  | 0, _, _, _ => throw .badSyntax
  | n + 1, level, tighter, left => do
    match ← operator? level with
    | some op => binaryRest n level tighter (.binary op left (← binary n tighter))
    | none => return left

def unary : Nat → Reading Expr
  | 0 => throw .badSyntax
  | n + 1 => do refined n (← lookups n (← signed n))

def signed : Nat → Reading Expr
  | 0 => throw .badSyntax
  | n + 1 => do
    if ← skipSymbol "-" then return .negate (← signed n) else nested (primary n)

def lookups : Nat → Expr → Reading Expr
  | 0, _ => throw .badSyntax
  | n + 1, e => do
    if ← skipSymbol "." then
      match ← next with
      | some (.name key) => lookups n (.attribute e key)
      | some (.int i) => lookups n (.item e (.literal (.int i)))
      | _ => throw .badSyntax
    else if ← skipSymbol "[" then lookups n (← subscript n e)
    else if ← skipSymbol "(" then lookups n (e.calledWith (← args n []))
    else return e

def subscript : Nat → Expr → Reading Expr
  | 0, _ => throw .badSyntax
  | n + 1, e => do
    let start ← if ← seesSymbol ":" then pure none else some <$> expr n
    if ← skipSymbol ":" then
      let stop ←
        if (← seesSymbol ":") || (← seesSymbol "]") then pure none else some <$> expr n
      let step ←
        if ← skipSymbol ":" then
          if ← seesSymbol "]" then pure none else some <$> expr n
        else pure none
      expectSymbol "]"
      return .slice e start stop step
    expectSymbol "]"
    match start with
    | some key => return .item e key
    | none => throw .badSyntax

/-- The arguments of a call up to the closing bracket, `taken` being those before, last first.
Only spread arguments may stand behind named ones. -/
def args : Nat → Args → Reading Args
  | 0, _ => throw .badSyntax
  | n + 1, taken => do
    if ← skipSymbol ")" then return taken.reverse
    unless taken.isEmpty do expectSymbol ","
    if !taken.isEmpty && (← skipSymbol ")") then return taken.reverse
    if ← skipSymbol "**" then args n ((.names, ← expr n) :: taken)
    else if ← skipSymbol "*" then args n ((.places, ← expr n) :: taken)
    else
      let e ← expr n
      let id := match e with
        | .name id => some id
        | _ => none
      match id, ← seesSymbol "=" with
      | some id, true =>
        drop
        args n ((.named id, ← disjunction n) :: taken)
      | _, _ =>
        if taken.any (·.1.isNamed) then throw .badSyntax
        args n ((.place, e) :: taken)

def refined : Nat → Expr → Reading Expr
  | 0, _ => throw .badSyntax
  | n + 1, e => do
    if ← skipSymbol "|" then
      let id ← word
      let args ← if ← skipSymbol "(" then args n [] else pure []
      refined n (.filter e id args)
    else if ← skipWord "is" then
      let negated ← skipWord "not"
      let id ← word
      let args ←
        if ← skipSymbol "(" then args n []
        else if ← bareArgument then pure [(.place, ← lookups n (← signed n))]
        else pure []
      let test := Expr.test e id args
      refined n (if negated then .not test else test)
    else return e

def primary : Nat → Reading Expr
  | 0 => throw .badSyntax
  | n + 1 => do
    match ← next with
    | some (.name id) =>
      match constant? id with
      | some c => return .literal c
      | none => return .name id
    | some (.string s) => return .literal (.string (← strings s n))
    | some (.int i) => return .literal (.int i)
    | some (.float x) => return .literal (.float x)
    | some (.symbol "(") => group n
    | some (.symbol "[") => return .list (← items n "]" [])
    | some (.symbol "\x7b") => return .map (← entries n [])
    | _ => throw .badSyntax

def group : Nat → Reading Expr
  | 0 => throw .badSyntax
  | n + 1 => do
    if ← skipSymbol ")" then return .list []
    let e ← expr n
    if ← seesSymbol "," then return .list (← items n ")" [e])
    expectSymbol ")"
    return e

def items : Nat → String → List Expr → Reading (List Expr)
  | 0, _, _ => throw .badSyntax
  | n + 1, close, taken => do
    if ← skipSymbol close then return taken.reverse
    unless taken.isEmpty do expectSymbol ","
    if !taken.isEmpty && (← skipSymbol close) then return taken.reverse
    items n close ((← expr n) :: taken)

def entries : Nat → List (Expr × Expr) → Reading (List (Expr × Expr))
  | 0, _ => throw .badSyntax
  | n + 1, taken => do
    if ← skipSymbol "\x7d" then return taken.reverse
    unless taken.isEmpty do expectSymbol ","
    if !taken.isEmpty && (← skipSymbol "\x7d") then return taken.reverse
    let key ← expr n
    expectSymbol ":"
    entries n ((key, ← expr n) :: taken)

end

end JobContainers.Template.Grammar

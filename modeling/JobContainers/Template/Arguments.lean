import JobContainers.Template.Value.Access
import JobContainers.Template.Value.Text

set_option autoImplicit false

namespace JobContainers.Template

namespace Value

def asText (v : Value) : Except Error String := do
  match ← v.checked with
  | map .arguments _ => throw .invalidOperation
  | v => return v.text

def asString : Value → Except Error String
  | string s _ => .ok s
  | _ => .error .invalidOperation

def asWhole (least most : Int) (v : Value) : Except Error Int :=
  match v.whole? with
  | some n => if least ≤ n ∧ n ≤ most then .ok n else .error .invalidOperation
  | .none => .error .invalidOperation

def asNatural (v : Value) : Except Error Nat :=
  (v.asWhole 0 (Width.limit 64 - 1)).map Int.toNat

def asInteger (bits : Nat) : Value → Except Error Int :=
  asWhole (Width.least bits) (Width.most bits)

def asFlag : Value → Except Error Bool
  | bool b => .ok b
  | _ => .error .invalidOperation

def optional {α : Type} (read : Value → Except Error α) (v : Value) : Except Error (Option α) :=
  if v.isUndefined || v.isNone then .ok Option.none else (read v).map some

end Value

abbrev Taking (α : Type) := StateT (List Value) (Except Error) α

namespace Taking

def next? : Taking (Option Value) := modifyGet fun args => (args.head?, args.tail)

def any : Taking Value := do
  match ← next? with
  | some v => return v
  | none => throw .missingArgument

def rest : Taking (List Value) := modifyGet fun args => (args, [])

def one {α : Type} (read : Value → Except Error α) : Taking α := do
  read (← any)

def optional {α : Type} (read : Value → Except Error α) : Taking (Option α) := do
  match ← next? with
  | some v => v.optional read
  | none => return none

def text : Taking String := one Value.asText

def string : Taking String := one Value.asString

def markup : Taking (String × Bool) := one fun v =>
  match v with
  | .string s safe => .ok (s, safe)
  | v => v.asText.map (·, false)

/-- Runs on a list of arguments, all of which have to be taken, and gives what is made of them. -/
def run {α : Type} (take : Taking (Except Error α)) (args : List Value) : Except Error α := do
  match ← take args with
  | (result, []) => result
  | (_, _ :: _) => throw .tooManyArguments

end Taking

abbrev Named := List (Value × Value)

namespace Named

def get? (named : Named) (id : String) : Option Value := Value.atKey? named (Value.ofString id)

def optional {α : Type} (named : Named) (id : String) (read : Value → Except Error α) :
    Except Error (Option α) :=
  match named.get? id with
  | some v => v.optional read
  | none => .ok none

def flag (named : Named) (id : String) : Except Error Bool :=
  return (← named.optional id Value.asFlag).getD false

def only (named : Named) (ids : List String) : Except Error Unit :=
  if named.all fun e => ids.any fun id => e.1 == Value.ofString id then .ok ()
  else .error .tooManyArguments

end Named

/-- Takes the named arguments, which stand behind all others. -/
def Taking.named : Taking Named := do
  let args ← get
  match args.getLast? with
  | some (.map .arguments entries) =>
    set args.dropLast
    return entries
  | _ => return []

end JobContainers.Template

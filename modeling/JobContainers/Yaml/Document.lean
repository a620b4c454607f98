import JobContainers.Tree
import JobContainers.Yaml.Lexer
import JobContainers.Yaml.Node

set_option autoImplicit false

namespace JobContainers.Yaml

inductive Error where
  | malformed
  | aliasNode
  | badNode
  | keyNode
  | floatText
  | emptyFloat
  deriving DecidableEq, Repr

def Error.message : Error → String
  | malformed => "syntax"
  | aliasNode => "YAML aliases not supported"
  | badNode => "bad YAML value"
  | keyNode => "unsupported YAML key type"
  | floatText => "invalid float literal"
  | emptyFloat => "cannot parse float from empty string"

def Error.ofFloatText (text : String) : Error := if text.isEmpty then .emptyFloat else .floatText

namespace Node

def keyText : Node → Except Error String
  | .string s => .ok s
  | .int n => .ok (.ofList (integerText n))
  | .real text => .ok text
  | .bool b => .ok (.ofList (boolText b))
  | .null => .ok "null"
  | .sequence _ | .mapping _ | .alias _ | .bad => .error .keyNode

/-- A number beyond the finite ones is null. -/
def realTree (text : String) : Except Error Tree :=
  match Decimal.ofChars? text.toList with
  | some d =>
    let x := Binary64.ofDecimal d
    .ok (if x.isFinite then .number (.float x) else .null)
  | none => if isNonFinite text.toList then .ok .null else .error (.ofFloatText text)

mutual

def toTree : Node → Except Error Tree
  | .null => .ok .null
  | .bool b => .ok (.bool b)
  | .int n => .ok (.int n)
  | .real text => realTree text
  | .string s => .ok (.string s)
  | .sequence items => do return .list (← itemTrees items)
  | .mapping entries => do return .ofEntries (← entryTrees entries)
  | .alias _ => .error .aliasNode
  | .bad => .error .badNode

def itemTrees : List Node → Except Error (List Tree)
  | [] => .ok []
  | n :: rest => do
    let t ← toTree n
    return t :: (← itemTrees rest)

def entryTrees : List (Node × Node) → Except Error (List (String × Tree))
  | [] => .ok []
  | (k, n) :: rest => do
    let key ← keyText k
    let t ← toTree n
    return (key, t) :: (← entryTrees rest)

end

def ofText? (text : String) : Option (List Node) :=
  ((Token.ofText? text).bind Event.ofTokens?).bind Node.ofEvents?

end Node

def parse (text : String) : Except Error Tree :=
  match Node.ofText? text with
  | none => .error .malformed
  | some [] => .ok .null
  | some (n :: _) => n.toTree

end JobContainers.Yaml

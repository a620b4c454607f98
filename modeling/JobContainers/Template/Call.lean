import JobContainers.Template.Scope

set_option autoImplicit false

namespace JobContainers.Template

structure Calls where
  value : Scope → Value → List Value → Eval Value
  again : Scope → Target → List Stmt → Value → Eval Value
  block : Scope → List Stmt → Eval Value

inductive Called where
  | name (id : String)
  | member (owner : Value) (key : String)
  | block (id : String)
  | value (f : Value)

def Value.keywords (named : Named) : Value :=
  .map .arguments (named.foldl (fun es e => insertEntry e.1 e.2 es) [])

def gather (args : Args) (places : List Value) (named : Named) : List Value :=
  places ++ if args.any (·.1.isNamed) then [.keywords named] else []

def loopMethod (p : Position) (memory : Nat) (key : String) (args : List Value) : Eval Value := do
  match key with
  | "cycle" =>
    if args.isEmpty then throw .missingArgument
    return (args[p.index % args.length]?).getD (.undefined false)
  | "changed" =>
    let now := Value.ofList args
    if (((← getThe Heap).get memory).lookup key).any (· == now) then return .bool false
    Heap.store memory key now
    return .bool true
  | _ => throw .unknownMethod

def Called.apply (calls : Calls) (σ : Scope) (args : List Value) : Called → Eval Value
  | .value f => calls.value σ f args
  | .block id =>
    match σ.blocks.lookup id with
    | some body => calls.block σ body
    | none => throw .unknownBlock
  | .member (.loop p _ _ memory _) key => loopMethod p memory key args
  | .member owner key => do
    match (← getThe Heap).attribute? owner key with
    | some f => calls.value σ f args
    | none => throw .unknownMethod
  | .name "super" => throw .invalidOperation
  | .name id => do
    match id, σ.lookup? (← getThe Heap) id, args with
    | "loop", some (.loop _ _ _ _ (some (target, body))), [v] => calls.again σ target body v
    | "loop", some (.loop _ _ _ _ _), _ => throw .invalidOperation
    | _, some f, _ => calls.value σ f args
    | _, none, _ => throw .unknownFunction

def inPlaces : List Param → List Value → Except Error (List (Param × Option Value))
  | [], [] => .ok []
  | [], _ :: _ => .error .tooManyArguments
  | p :: ps, vs => do return (p, vs.head?) :: (← inPlaces ps vs.tail)

/-- Parameters with their arguments. A named argument has to be one of the parameters that are not
taken yet; only a definition that mentions it takes the body that a call hands over. -/
def bindArguments (params : List Param) (takesBody : Bool) (args : List Value) :
    Except Error (List (Param × Option Value) × Option Value) := do
  let (named, places) ← Taking.named args
  let bound ← inPlaces params places
  let bound ← bound.mapM fun (p, place) =>
    match place, named.get? p.1 with
    | some _, some _ => throw Error.tooManyArguments
    | some v, none => pure (p, some v)
    | none, v => pure (p, v)
  named.only (params.map (·.1) ++ if takesBody then ["caller"] else [])
  return (bound, named.get? "caller")

def callDepth : Nat := 6

def Scope.inDefinition (σ : Scope) (captured : Nat) (takesBody : Bool) (body : Option Value) :
    Eval Scope :=
  let names := if takesBody then [("caller", body.getD (.undefined false))] else []
  { σ with frames := [], blocks := [] }.enter callDepth ⟨names, none, some captured, none⟩

end JobContainers.Template

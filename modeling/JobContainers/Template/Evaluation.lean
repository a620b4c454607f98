import JobContainers.Template.Call
import JobContainers.Template.Filter

/-!
What expressions and statements do. An expression has a value in a scope; a statement changes the
scope and writes text. Calls may be nested up to a fixed depth, so everything ends.
-/

set_option autoImplicit false

namespace JobContainers.Template

def Expr.builds : Expr → Bool
  | .literal _ | .name _ | .attribute _ _ | .item _ _ | .and _ _ | .or _ _
  | .conditional _ _ _ => false
  | _ => true

def written (σ : Scope) (v : Value) : Eval String := do
  let v ← ((← getThe Heap).settled v).checked
  return if σ.escapes then v.markup else v.text

def ofWritten (σ : Scope) (text : String) : Value := .string text σ.escapes

def truthOf (v : Value) : Eval Bool := do ((← getThe Heap).shown v).checkedTruth

def itemsOf (v : Value) : Eval (List Value) := do
  ((← getThe Heap).shown v).checkedItems

def filtered (id : String) (v : Value) (args : List Value) : Eval Value := do
  let h ← getThe Heap
  Filter.apply id (h.settled v) (args.map h.settled)

/-- Carries out a step for every item, writing on: it gets the place of the item, the item before
it, the item itself and the one behind it. -/
def forEach (step : Nat → Value → Value → Value → String → Eval String) (i : Nat)
    (previous : Value) (out : String) : List Value → Eval String
  | [] => return out
  | v :: rest => do
    let out ← step i previous v (rest.head?.getD (.undefined false)) out
    forEach step (i + 1) v out rest

def iterate (body : Scope → String → Eval (Scope × String)) (σ : Scope) (out : String)
    (target : Target) (again : Option (Target × List Stmt)) (items : List Value) :
    Eval String := do
  let memory ← Heap.allocate []
  let size := items.length
  let depth := σ.loopDepth
  forEach (fun i previous v next out => do
    let loop := .loop ⟨i, size, depth⟩ previous next memory again
    let inside ← σ.enter 1 { Frame.empty with loop := some loop }
    return (← body (← inside.assign target v) out).2) 0 (.undefined false) out items

def escapesIn (mode : Value) : Except Error Bool :=
  match mode with
  | .string "html" _ => .ok true
  | .string "none" _ => .ok false
  | .string _ _ => .error .invalidOperation
  | v => .ok (v == .bool true)

/-- There are no other templates: what a template extends is missing, and so are its parts. -/
def refer (reference : Reference) (v : Value) : Except Error Unit :=
  let choices := if v.isObject then v.items?.getD [] else [v]
  if choices.any fun c => c.kind != .string then .error .invalidOperation
  else
    match reference with
    | .base => if v.isObject then .error .invalidOperation else .error .templateNotFound
    | .part optional =>
      if optional || choices.isEmpty then .ok () else .error .templateNotFound

section

/-! Expressions and statements, given what calls do. -/

variable (calls : Calls)

mutual

def evaluate (σ : Scope) : Expr → Eval Value
  | .literal c => return .ofLiteral c
  | .name id => return σ.get (← getThe Heap) id
  | .list items => return .ofList (← evaluateAll σ items)
  | .map entries => return .sorted (← evaluateEntries σ entries)
  | .negate e => do (← evaluate σ e).negate
  | .not e => do return .bool (!(← truthOf (← evaluate σ e)))
  | .and a b => do
    let v ← evaluate σ a
    if ← truthOf v then evaluate σ b else return v
  | .or a b => do
    let v ← evaluate σ a
    if ← truthOf v then return v else evaluate σ b
  | .binary op a b => do
    let v ← evaluate σ a
    let w ← evaluate σ b
    let h ← getThe Heap
    op.apply (h.settled v) (h.settled w)
  | .compare first rest => do
    let v ← evaluate σ first
    return .bool (← compareOn σ v rest)
  | .conditional test value otherwise => do
    if ← truthOf (← evaluate σ test) then evaluate σ value
    else evaluateOption σ (.undefined true) otherwise
  | .attribute e key => do
    let v ← evaluate σ e
    v.found ((← getThe Heap).attribute? v key)
  | .item e key => do
    let v ← evaluate σ e
    let k ← evaluate σ key
    v.found ((← getThe Heap).item? v k)
  | .slice e start stop step => do
    let v ← evaluate σ e
    let start ← evaluateOption σ .none start
    let stop ← evaluateOption σ .none stop
    v.slice start stop (← evaluateOption σ .none step)
  | .call callee args => do
    let f ← evaluateCallee σ callee
    let places ← evaluatePlaces σ args
    f.apply calls σ (gather args places (← evaluateNamed σ args))
  | .filter e id args => do
    let v ← evaluate σ e
    let places ← evaluatePlaces σ args
    filtered id v (gather args places (← evaluateNamed σ args))
  | .test e id args => do
    let v ← evaluate σ e
    let places ← evaluatePlaces σ args
    let vs := gather args places (← evaluateNamed σ args)
    let made := e.builds || args.any (·.2.builds)
    if id = "sameas" && made && v.isObject && vs.length = 1 then return .bool false
    let h ← getThe Heap
    return .bool (← Condition.apply id (h.settled v) (vs.map h.settled))

def evaluateCallee (σ : Scope) : Callee → Eval Called
  | .name id => return .name id
  | .member e key => return .member (← evaluate σ e) key
  | .block id => return .block id
  | .value e => return .value (← evaluate σ e)

def evaluateOption (σ : Scope) (absent : Value) : Option Expr → Eval Value
  | none => return absent
  | some e => evaluate σ e

def evaluateAll (σ : Scope) : List Expr → Eval (List Value)
  | [] => return []
  | e :: es => do
    let v ← evaluate σ e
    return v :: (← evaluateAll σ es)

def evaluateEntries (σ : Scope) : List (Expr × Expr) → Eval (List (Value × Value))
  | [] => return []
  | (key, e) :: es => do
    let k ← evaluate σ key
    let v ← evaluate σ e
    return (k, v) :: (← evaluateEntries σ es)

def compareOn (σ : Scope) (v : Value) : List (Comparison × Expr) → Eval Bool
  | [] => return true
  | (c, e) :: rest => do
    let w ← evaluate σ e
    let h ← getThe Heap
    if ← c.apply (h.settled v) (h.settled w) then compareOn σ w rest else return false

def evaluatePlaces (σ : Scope) : List (Role × Expr) → Eval (List Value)
  | [] => return []
  | (role, e) :: rest => do
    if role.isNamed then evaluatePlaces σ rest
    else
      let v ← evaluate σ e
      let vs ← if role = .places then itemsOf v else pure [v]
      return vs ++ (← evaluatePlaces σ rest)

def evaluateNamed (σ : Scope) : List (Role × Expr) → Eval Named
  | [] => return []
  | (role, e) :: rest => do
    match role with
    | .named id =>
      let v ← evaluate σ e
      return (.ofString id, v) :: (← evaluateNamed σ rest)
    | .names =>
      let v ← (← evaluate σ e).checked
      let entries ← Function.entriesOf ((← getThe Heap).shown v)
      return entries ++ (← evaluateNamed σ rest)
    | _ => evaluateNamed σ rest

end

/-- Gives parameters their arguments, or their defaults where those are undefined, the last
parameter first. -/
def bindParams (σ : Scope) : List (Param × Option Value) → Eval Scope
  | [] => return σ
  | ((id, default), given) :: rest => do
    let σ ← bindParams σ rest
    let v := given.getD (.undefined false)
    σ.set id (← if v.isUndefined then evaluateOption calls σ v default else pure v)

def applyChain (σ : Scope) (v : Value) : FilterChain → Eval Value
  | [] => return v
  | (id, args) :: rest => do
    let places ← evaluatePlaces calls σ args
    applyChain σ (← filtered id v (gather args places (← evaluateNamed calls σ args))) rest

def bindScope (σ : Scope) : List (Target × Expr) → Eval Scope
  | [] => return σ
  | (target, e) :: rest => do
    bindScope (← σ.assign target (← evaluate calls σ e)) rest

def keepItems (σ : Scope) (target : Target) (keep : Expr) (items : List Value) :
    Eval (List Value) := do
  let inside ← σ.enter 1 .empty
  items.filterM fun v => do
    truthOf (← evaluate calls (← inside.assign target v) keep)

def define (σ : Scope) (id : String) (params : List Param) (body : List Stmt) :
    Eval (Scope × Value) := do
  let free := freeInDefinition params body
  let (σ, record) ← σ.capture (free.filter (· != "caller"))
  return (σ, .definition id params body (free.contains "caller") record)

mutual

def run (σ : Scope) (out : String) : List Stmt → Eval (Scope × String)
  | [] => return (σ, out)
  | s :: ss => do
    let (σ, out) ← execute σ out s
    run σ out ss

def execute (σ : Scope) (out : String) : Stmt → Eval (Scope × String)
  | .plain text => return (σ, out ++ .ofList text)
  | .output e => do return (σ, out ++ (← written σ (← evaluate calls σ e)))
  | .evaluate e => do
    discard <| evaluate calls σ e
    return (σ, out)
  | .branch test body otherwise => do
    if ← truthOf (← evaluate calls σ test) then run σ out body else run σ out otherwise
  | .loop target values keep recursive body otherwise => do
    let items ← itemsOf (← evaluate calls σ values)
    let items ← match keep with
      | some e => keepItems calls σ target e items
      | none => pure items
    if items.isEmpty then
      discard <| σ.enter 1 .empty
      run σ out otherwise
    else
      let again := if recursive then some (target, body) else none
      return (σ, ← iterate (fun σ out => run σ out body) σ out target again items)
  | .assign target e => do return (← σ.assign target (← evaluate calls σ e), out)
  | .capture target filters body => do
    let (σ, text) ← run σ "" body
    return (← σ.assign target (← applyChain calls σ (ofWritten σ text) filters), out)
  | .filtered filters body => do
    let (σ, text) ← run σ "" body
    return (σ, out ++ (← written σ (← applyChain calls σ (ofWritten σ text) filters)))
  | .scope bindings body => do
    let inside ← σ.enter 1 .empty
    return (σ, (← run (← bindScope calls inside bindings) out body).2)
  | .define id params body => do
    let (σ, f) ← define σ id params body
    return (← σ.set id f, out)
  | .callWith callee args params body => do
    let f ← evaluateCallee calls σ callee
    let places ← evaluatePlaces calls σ args
    let named ← evaluateNamed calls σ args
    let (σ, handed) ← define σ "caller" params body
    let named := named ++ [(.ofString "caller", handed)]
    let v ← f.apply calls σ (places ++ [.keywords named])
    return (σ, out ++ (← written σ v))
  | .block _ body => do
    return (σ, (← run (← σ.enter 1 .empty) out body).2)
  | .escaping mode body => do
    let escapes ← escapesIn (← evaluate calls σ mode)
    let (inside, out) ← run { σ with escapes := escapes } out body
    return ({ inside with escapes := σ.escapes }, out)
  | .template e reference => do
    refer reference (← evaluate calls σ e)
    return (σ, out)

end

def callValue (σ : Scope) (f : Value) (args : List Value) : Eval Value := do
  match f with
  | .function id => Function.call id (σ.lookup? (← getThe Heap) "properties") args
  | .definition _ params body takesBody captured =>
    let (bound, handed) ← bindArguments params takesBody args
    let inside ← σ.inDefinition captured takesBody handed
    let (_, text) ← run calls (← bindParams calls inside bound) "" body
    return ofWritten σ text
  | .loop _ _ _ _ _ => throw .unknownFunction
  | _ => throw .invalidOperation

end

/-- What calls do, with so many calls nested in them at most. -/
def callsTo : Nat → Calls
  | 0 => ⟨fun _ _ _ => throw .invalidOperation, fun _ _ _ _ => throw .invalidOperation,
      fun _ _ => throw .invalidOperation⟩
  | depth + 1 =>
    { value := callValue (callsTo depth)
      again := fun σ target body v => do
        discard <| σ.enter 1 .empty
        let items ← itemsOf v
        return ofWritten σ (← iterate (run (callsTo depth) · · body) σ "" target
          (some (target, body)) items)
      block := fun σ body => do
        return ofWritten σ (← run (callsTo depth) (← σ.enter 1 .empty) "" body).2 }

end JobContainers.Template

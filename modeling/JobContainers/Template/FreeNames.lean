import JobContainers.Template.Ast

set_option autoImplicit false

namespace JobContainers.Template

mutual

def Expr.names : Expr → List String
  | .literal _ => []
  | .name id => [id]
  | .list items => listNames items
  | .map entries => entryNames entries
  | .negate e | .not e | .attribute e _ => e.names
  | .and a b | .or a b | .binary _ a b | .item a b => a.names ++ b.names
  | .compare first rest => first.names ++ comparedNames rest
  | .conditional test value otherwise => test.names ++ value.names ++ optionNames otherwise
  | .slice e start stop step =>
    e.names ++ optionNames start ++ optionNames stop ++ optionNames step
  | .call callee args => callee.names ++ argNames args
  | .filter e _ args | .test e _ args => e.names ++ argNames args

def Callee.names : Callee → List String
  | .name id => [id]
  | .member e _ | .value e => e.names
  | .block _ => []

def optionNames : Option Expr → List String
  | none => []
  | some e => e.names

def listNames : List Expr → List String
  | [] => []
  | e :: es => e.names ++ listNames es

def entryNames : List (Expr × Expr) → List String
  | [] => []
  | (k, v) :: es => k.names ++ v.names ++ entryNames es

def comparedNames : List (Comparison × Expr) → List String
  | [] => []
  | (_, e) :: es => e.names ++ comparedNames es

def argNames : List (Role × Expr) → List String
  | [] => []
  | (_, e) :: es => e.names ++ argNames es

end

def chainNames (filters : FilterChain) : List String := filters.flatMap fun f => argNames f.2

def paramNames (params : List Param) : List String := params.flatMap fun p => optionNames p.2

mutual

def Target.bound : Target → List String
  | .name id => [id]
  | .member _ _ _ => []
  | .items targets => targetsBound targets

def targetsBound : List Target → List String
  | [] => []
  | t :: ts => t.bound ++ targetsBound ts

end

def unbound (bound ids : List String) : List String := ids.filter (· ∉ bound)

/-- The free names of bindings, each of which is seen by those behind it, and what is bound in
the end. -/
def freeInBindings (bound : List String) : List (Target × Expr) → List String × List String
  | [] => ([], bound)
  | (target, e) :: rest =>
    let (free, bound') := freeInBindings (target.bound ++ bound) rest
    (unbound bound e.names ++ free, bound')

mutual

/-- The names that a statement takes from around it, and the names that are bound behind it. -/
def Stmt.free (bound : List String) : Stmt → List String × List String
  | .plain _ => ([], bound)
  | .output e | .evaluate e | .template e _ => (unbound bound e.names, bound)
  | .branch test body otherwise =>
    (unbound bound test.names ++ freeInBody bound body ++ freeInBody bound otherwise, bound)
  | .loop target values keep _ body otherwise =>
    let inside := "loop" :: target.bound ++ bound
    (unbound bound values.names ++ unbound inside (optionNames keep) ++ freeInBody inside body
      ++ freeInBody bound otherwise, bound)
  | .assign target e => (unbound bound e.names, target.bound ++ bound)
  | .capture target filters body =>
    (freeInBody bound body ++ unbound bound (chainNames filters), target.bound ++ bound)
  | .filtered filters body => (freeInBody bound body ++ unbound bound (chainNames filters), bound)
  | .scope bindings body =>
    let (free, inside) := freeInBindings bound bindings
    (free ++ freeInBody inside body, bound)
  | .define id params body =>
    let inside := "caller" :: params.map (·.1) ++ id :: bound
    (unbound inside (paramNames params) ++ freeInBody inside body, id :: bound)
  | .callWith callee args params body =>
    let inside := "caller" :: params.map (·.1) ++ bound
    (unbound bound (callee.names ++ argNames args) ++ unbound inside (paramNames params)
      ++ freeInBody inside body, bound)
  | .block _ body => (freeInBody ("super" :: bound) body, bound)
  | .escaping mode body => (unbound bound mode.names ++ freeInBody bound body, bound)

def freeInBody (bound : List String) : List Stmt → List String
  | [] => []
  | s :: ss =>
    let (free, bound) := s.free bound
    free ++ freeInBody bound ss

end

def freeInDefinition (params : List Param) (body : List Stmt) : List String :=
  let bound := params.map (·.1)
  unbound bound (paramNames params) ++ freeInBody bound body

end JobContainers.Template

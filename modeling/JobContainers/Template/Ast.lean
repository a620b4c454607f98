import JobContainers.Binary64

set_option autoImplicit false

namespace JobContainers.Template

inductive Literal where
  | none
  | bool (value : Bool)
  | int (value : Int)
  | float (value : Binary64)
  | string (value : String)

inductive BinaryOp where
  | add
  | sub
  | mul
  | div
  | quotient
  | remainder
  | power
  | concat
  deriving DecidableEq

inductive Comparison where
  | eq
  | ne
  | lt
  | le
  | gt
  | ge
  | isIn
  | notIn
  deriving DecidableEq

/-- How an argument is handed over: in its place, by name, or as a value that holds several
arguments of the one or the other kind. -/
inductive Role where
  | place
  | named (id : String)
  | places
  | names
  deriving DecidableEq

def Role.isNamed : Role → Bool
  | .named _ | .names => true
  | .place | .places => false

mutual

inductive Expr where
  | literal (value : Literal)
  | name (id : String)
  | list (items : List Expr)
  | map (entries : List (Expr × Expr))
  | negate (e : Expr)
  | not (e : Expr)
  | and (left right : Expr)
  | or (left right : Expr)
  | binary (op : BinaryOp) (left right : Expr)
  | compare (first : Expr) (rest : List (Comparison × Expr))
  | conditional (test value : Expr) (otherwise : Option Expr)
  | attribute (e : Expr) (key : String)
  | item (e key : Expr)
  | slice (e : Expr) (start stop step : Option Expr)
  | call (callee : Callee) (args : List (Role × Expr))
  | filter (e : Expr) (id : String) (args : List (Role × Expr))
  | test (e : Expr) (id : String) (args : List (Role × Expr))

/-- What is called: what a name stands for, a member of a value, a block of the template, or any
other value. -/
inductive Callee where
  | name (id : String)
  | member (e : Expr) (key : String)
  | block (id : String)
  | value (e : Expr)

end

def Callee.ofExpr : Expr → Callee
  | .name id => .name id
  | .attribute (.name "self") id => .block id
  | .attribute e key => .member e key
  | e => .value e

instance : Inhabited Expr := ⟨.literal .none⟩

abbrev Args := List (Role × Expr)

def Expr.calledWith (e : Expr) (args : Args) : Expr :=
  match Callee.ofExpr e with
  | .block id => .call (.block id) []
  | callee => .call callee args

inductive Target where
  | name (id : String)
  | member (id : String) (path : List String) (key : String)
  | items (targets : List Target)

instance : Inhabited Target := ⟨.items []⟩

abbrev Param := String × Option Expr

abbrev FilterChain := List (String × Args)

inductive Reference where
  | base
  | part (optional : Bool)
  deriving DecidableEq

inductive Stmt where
  | plain (text : List Char)
  | output (e : Expr)
  | evaluate (e : Expr)
  | branch (test : Expr) (body otherwise : List Stmt)
  | loop (target : Target) (values : Expr) (keep : Option Expr) (recursive : Bool)
      (body otherwise : List Stmt)
  | assign (target : Target) (e : Expr)
  | capture (target : Target) (filters : FilterChain) (body : List Stmt)
  | scope (bindings : List (Target × Expr)) (body : List Stmt)
  | filtered (filters : FilterChain) (body : List Stmt)
  | define (id : String) (params : List Param) (body : List Stmt)
  | callWith (callee : Callee) (args : Args) (params : List Param) (body : List Stmt)
  | block (id : String) (body : List Stmt)
  | escaping (mode : Expr) (body : List Stmt)
  | template (e : Expr) (reference : Reference)

instance : Inhabited Stmt := ⟨.plain []⟩

end JobContainers.Template

import JobContainers.Template.Value.Access
import JobContainers.Template.Value.Text

/-!
Operators on values. Whole numbers stay whole where they can and have 127 bits; a float on one side
makes the result a float. Texts and lists can be added and repeated.
-/

set_option autoImplicit false

namespace JobContainers.Template

namespace Value

inductive Operands where
  | ints (a b : Int)
  | floats (x y : Binary64)

def float? : Value → Option Binary64
  | float x => some x
  | v => (int? v).map Binary64.ofInt

/-- Whole numbers as operands. Two numbers beyond 64 bits are taken in 128 bits with a sign; a
number beyond those goes with no other. -/
def wholeOperands? (a b : Int) : Option Operands :=
  let signed := fun (n : Int) => if Width.holds 128 n then n else n - Width.limit 128
  if Width.holds 128 a && Width.holds 128 b then some (.ints a b)
  else if Width.limit 64 ≤ a ∧ Width.limit 64 ≤ b then some (.ints (signed a) (signed b))
  else .none

def operands? : Value → Value → Option Operands
  | float x, w => (float? w).map (.floats x)
  | v, float y => (float? v).map (.floats · y)
  | v, w => do wholeOperands? (← int? v) (← int? w)

def bounded (n : Int) : Except Error Value :=
  if Width.holds 128 n then .ok (int n) else .error .invalidOperation

def arithmetic (whole : Int → Int → Except Error Value)
    (floating : Binary64 → Binary64 → Binary64) (v w : Value) : Except Error Value :=
  match operands? v w with
  | some (.ints a b) => whole a b
  | some (.floats x y) => .ok (float (floating x y))
  | .none => .error .invalidOperation

def add (v w : Value) : Except Error Value :=
  match v, w with
  | list _ a, list _ b => .ok (series (a ++ b))
  | string s _, string t _ => .ok (ofString (s ++ t))
  | v, w => arithmetic (fun a b => bounded (a + b)) Binary64.add v w

def sub : Value → Value → Except Error Value :=
  arithmetic (fun a b => bounded (a - b)) Binary64.sub

def count (v : Value) : Except Error Nat :=
  match whole? v with
  | some n => if 0 ≤ n ∧ n < Width.limit 64 then .ok n.toNat else .error .invalidOperation
  | .none => .error .invalidOperation

def repeatText (s : String) (n : Nat) : Value := ofChars (List.replicate n s.toList).flatten

def repeatItems (items : List Value) (n : Nat) : Value := series (List.replicate n items).flatten

def mul (v w : Value) : Except Error Value :=
  match v, w with
  | string s _, n | n, string s _ => (count n).map (repeatText s)
  | list _ items, n | n, list _ items => (count n).map (repeatItems items)
  | v, w => arithmetic (fun a b => bounded (a * b)) Binary64.mul v w

def div (v w : Value) : Except Error Value :=
  match float? v, float? w with
  | some x, some y => .ok (float (x.div y))
  | _, _ => .error .invalidOperation

def quotient : Value → Value → Except Error Value :=
  arithmetic (fun a b => if b = 0 then .error .invalidOperation else bounded (a / b))
    Binary64.quotient

def remainder : Value → Value → Except Error Value :=
  arithmetic (fun a b =>
      if b = 0 then .error .invalidOperation else do
        let _ ← bounded (a / b)
        bounded (a % b))
    Binary64.remainder

/-- A power with a whole exponent of 32 bits. Only zero and the units have large powers in range,
and theirs depend on whether the exponent is even. -/
def wholePower (a b : Int) : Except Error Value :=
  if b < 0 ∨ Width.limit 32 ≤ b then .error .invalidOperation
  else if b < 128 then bounded (Int.pow a b.toNat)
  else if a.natAbs ≤ 1 then bounded (Int.pow a (2 + b.toNat % 2))
  else .error .invalidOperation

def floatPower (x y : Binary64) : Binary64 :=
  ⟨(Float.pow (Float.ofBits x.bits) (Float.ofBits y.bits)).toBits⟩

def power : Value → Value → Except Error Value := arithmetic wholePower floatPower

def concat (v w : Value) : Except Error Value := do
  return ofString ((← v.checked).text ++ (← w.checked).text)

def negate : Value → Except Error Value
  | int n => bounded (-n)
  | float x => .ok (float x.negate)
  | _ => .error .invalidOperation

def occursIn (part : List Char) : List Char → Bool
  | [] => part.isEmpty
  | c :: cs => part.isPrefixOf (c :: cs) || occursIn part cs

def isIn (v container : Value) : Except Error Bool :=
  match container with
  | undefined _ => .ok false
  | string s _ => .ok (occursIn v.text.toList s.toList)
  | list _ items => .ok (items.any (· == v))
  | map _ entries => .ok (atKey? entries v).isSome
  | loop _ _ _ _ _ | definition _ _ _ _ _ =>
    match v with
    | string key _ => .ok (container.attribute? key).isSome
    | _ => .ok false
  | function _ => .ok false
  | _ => .error .invalidOperation

end Value

def BinaryOp.apply (op : BinaryOp) (v w : Value) : Except Error Value :=
  match op with
  | add => v.add w
  | sub => v.sub w
  | mul => v.mul w
  | div => v.div w
  | quotient => v.quotient w
  | remainder => v.remainder w
  | power => v.power w
  | concat => v.concat w

namespace Comparison

def holds (c : Comparison) (v w : Value) : Except Error Bool :=
  match c with
  | eq => .ok (v == w)
  | ne => .ok (!(v == w))
  | lt => .ok (v.compare w = .lt)
  | le => .ok (v.compare w != .gt)
  | gt => .ok (v.compare w = .gt)
  | ge => .ok (v.compare w != .lt)
  | isIn => v.isIn w
  | notIn => do return !(← v.isIn w)

/-- A comparison of what is defined; what is looked for in a container may be undefined. -/
def apply (c : Comparison) (v w : Value) : Except Error Bool := do
  match c with
  | isIn | notIn => pure ()
  | _ => discard v.checked
  discard w.checked
  c.holds v w

end Comparison

namespace Value

def bound? : Value → Except Error (Option Int)
  | none => .ok .none
  | v =>
    match whole? v with
    | some n => if Width.holds 64 n then .ok (some n) else .error .invalidOperation
    | .none => .error .invalidOperation

def place (size : Nat) (n : Int) : Nat := (if n < 0 then n + size else n).toNat

def forwards (size : Nat) (start stop : Option Int) (step : Nat) : List Nat :=
  let start := (start.map (place size)).getD 0
  let stop := min size ((stop.map (place size)).getD size)
  (List.range ((stop - start + step - 1) / step)).map fun i => start + i * step

/-- The places from a start down to but without a stop. A stop at the first item is as good as
none: that item is still among them. -/
def backwards (size : Nat) (start stop : Option Int) (step : Nat) : List Nat :=
  let start := min (size - 1) ((start.map (place size)).getD size)
  let stop := (stop.map (place size)).getD 0
  let count := if stop = 0 then start / step + 1 else (start - stop + step - 1) / step
  (List.range count).map fun i => start - i * step

def sliceItems {α : Type} (items : Array α) (start stop : Option Int) (step : Int) : List α :=
  let places := if 0 < step then forwards else backwards
  (places items.size start stop step.natAbs).filterMap fun i => items[i]?

def slice (v start stop step : Value) : Except Error Value := do
  if v.isUndefined then throw .undefinedValue
  let start ← bound? start
  let stop ← bound? stop
  let step := (← bound? step).getD 1
  if step = 0 then throw .invalidOperation
  match v with
  | string s _ => return ofChars (sliceItems s.toList.toArray start stop step)
  | none => return ofList []
  | list _ items => return series (sliceItems items.toArray start stop step)
  | _ => throw .invalidOperation

end Value

end JobContainers.Template

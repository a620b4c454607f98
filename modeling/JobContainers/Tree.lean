import JobContainers.Binary64
import JobContainers.Dict

set_option autoImplicit false

namespace JobContainers

/-- Whole numbers and double-precision numbers are kept apart: `1` and `1.0` differ. -/
inductive Number where
  | int (value : Int)
  | float (value : Binary64)
  deriving DecidableEq

inductive Tree where
  | null
  | bool (value : Bool)
  | number (value : Number)
  | string (value : String)
  | list (items : List Tree)
  | map (entries : List (String × Tree))

namespace Tree

instance : Inhabited Tree := ⟨null⟩

mutual

def decEq : (a b : Tree) → Decidable (a = b)
  | .null, .null => isTrue rfl
  | .bool a, .bool b => decidable_of_iff (a = b) (by simp)
  | .number a, .number b => decidable_of_iff (a = b) (by simp)
  | .string a, .string b => decidable_of_iff (a = b) (by simp)
  | .list a, .list b => @decidable_of_iff _ (a = b) (by simp) (decEqItems a b)
  | .map a, .map b => @decidable_of_iff _ (a = b) (by simp) (decEqEntries a b)
  | .null, .bool _ | .null, .number _ | .null, .string _ | .null, .list _ | .null, .map _
  | .bool _, .null | .bool _, .number _ | .bool _, .string _ | .bool _, .list _ | .bool _, .map _
  | .number _, .null | .number _, .bool _ | .number _, .string _ | .number _, .list _
  | .number _, .map _
  | .string _, .null | .string _, .bool _ | .string _, .number _ | .string _, .list _
  | .string _, .map _
  | .list _, .null | .list _, .bool _ | .list _, .number _ | .list _, .string _ | .list _, .map _
  | .map _, .null | .map _, .bool _ | .map _, .number _ | .map _, .string _ | .map _, .list _ =>
    isFalse (by simp)

def decEqItems : (a b : List Tree) → Decidable (a = b)
  | [], [] => isTrue rfl
  | [], _ :: _ | _ :: _, [] => isFalse (by simp)
  | a :: as, b :: bs =>
    match decEq a b, decEqItems as bs with
    | isTrue h, isTrue h' => isTrue (by simp [h, h'])
    | isFalse h, _ => isFalse (by simp [h])
    | _, isFalse h => isFalse (by simp [h])

def decEqEntries : (a b : List (String × Tree)) → Decidable (a = b)
  | [], [] => isTrue rfl
  | [], _ :: _ | _ :: _, [] => isFalse (by simp)
  | (k, a) :: as, (l, b) :: bs =>
    match decEq a b, decEqEntries as bs with
    | isTrue h, isTrue h' => decidable_of_iff (k = l) (by simp [h, h'])
    | isFalse h, _ => isFalse (by simp [h])
    | _, isFalse h => isFalse (by simp [h])

end

instance : DecidableEq Tree := decEq

def ofDict (d : Dict Tree) : Tree := .map d.entries

def ofEntries (entries : List (String × Tree)) : Tree := ofDict (.ofList entries)

def int (n : Int) : Tree := .number (.int n)

def nat (n : Nat) : Tree := int n

def ofStrings (ss : List String) : Tree := .list (ss.map .string)

def isMap : Tree → Bool
  | .map _ => true
  | _ => false

def entries : Tree → List (String × Tree)
  | .map entries => entries
  | _ => []

end Tree

/-- Positional from `1e-5` up to below `1e16`; a positive power of ten has its sign. -/
def Number.spelling : NumberText := ⟨fun m => -5 ≤ m && m ≤ 15, true⟩

def Number.text : Number → List Char
  | .int n => integerText n
  | .float x => if x.isFinite then x.shortest.toChars spelling else "null".toList

def escapedChar (c : Char) : List Char :=
  match c with
  | '"' => ['\\', '"']
  | '\\' => ['\\', '\\']
  | '\x08' => ['\\', 'b']
  | '\x0c' => ['\\', 'f']
  | '\n' => ['\\', 'n']
  | '\r' => ['\\', 'r']
  | '\t' => ['\\', 't']
  | c =>
    if c.toNat < 32 then
      ['\\', 'u', '0', '0', Nat.digitChar (c.toNat / 16), Nat.digitChar (c.toNat % 16)]
    else [c]

def boolText (b : Bool) : List Char := if b then "true".toList else "false".toList

def quotedText (s : String) : List Char :=
  '"' :: s.toList.flatMap escapedChar ++ ['"']

namespace Tree

mutual

def chars : Tree → List Char
  | .null => "null".toList
  | .bool b => boolText b
  | .number n => n.text
  | .string s => quotedText s
  | .list items => '[' :: itemChars items ++ [']']
  | .map entries => '{' :: entryChars entries ++ ['}']

def itemChars : List Tree → List Char
  | [] => []
  | [t] => chars t
  | t :: rest => chars t ++ ',' :: itemChars rest

def entryChars : List (String × Tree) → List Char
  | [] => []
  | [(k, t)] => quotedText k ++ ':' :: chars t
  | (k, t) :: rest => quotedText k ++ ':' :: chars t ++ ',' :: entryChars rest

end

def text (t : Tree) : String := .ofList t.chars

end Tree

end JobContainers

import JobContainers.Template.Value
import JobContainers.Text.Shapeless

set_option autoImplicit false

namespace JobContainers.Template.Value

def positional : NumberText := ⟨fun _ => true, false⟩

/-- Positional from `1e-4` up to below `1e16`. -/
def compact : NumberText := ⟨fun m => -4 ≤ m && m ≤ 15, false⟩

def floatText (style : NumberText) (x : Binary64) : List Char :=
  match x.magnitude with
  | .nan => "NaN".toList
  | .infinite => if x.negative then "-inf".toList else "inf".toList
  | .finite _ _ => x.shortest.toChars style

def quotedChar (c : Char) : List Char :=
  match c with
  | '"' => ['\\', '"']
  | '\\' => ['\\', '\\']
  | '\n' => ['\\', 'n']
  | '\r' => ['\\', 'r']
  | '\t' => ['\\', 't']
  | '\x00' => ['\\', '0']
  | c =>
    if isShapeless c then ['\\', 'u', '\x7b'] ++ Nat.toDigits 16 c.toNat ++ ['\x7d'] else [c]

def quoted (s : String) : List Char := '"' :: s.toList.flatMap quotedChar ++ ['"']

def angled (cs : List Char) : List Char := '<' :: cs ++ ['>']

def atom : Value → List Char
  | undefined _ => "undefined".toList
  | none => "None".toList
  | bool b => if b then "True".toList else "False".toList
  | int n => integerText n
  | float x => floatText compact x
  | string s _ => quoted s
  | list _ _ => []
  | map _ _ => []
  | loop p _ _ _ _ =>
    angled ("loop ".toList ++ Decimal.digitText p.index ++ '/' :: Decimal.digitText p.size)
  | function id => angled ("function ".toList ++ id.toList)
  | definition id _ _ _ _ => angled ("macro ".toList ++ id.toList)

def separated (texts : List (List Char)) : List Char := [',', ' '].intercalate texts

mutual

def inner : Value → List Char
  | list _ items => '[' :: separated (innerItems items) ++ [']']
  | map _ entries => '\x7b' :: separated (innerEntries entries) ++ ['\x7d']
  | v => v.atom

def innerItems : List Value → List (List Char)
  | [] => []
  | v :: vs => inner v :: innerItems vs

def innerEntries : List (Value × Value) → List (List Char)
  | [] => []
  | (k, v) :: rest => (inner k ++ ':' :: ' ' :: inner v) :: innerEntries rest

end

def stacked (opening closing : Char) (parts : List (List Char)) : List Char :=
  if parts.isEmpty then [opening, closing]
  else
    let body := parts.flatMap fun part => part ++ [',', '\n']
    let indented := body.flatMap fun c => if c = '\n' then '\n' :: "    ".toList else [c]
    opening :: '\n' :: "    ".toList ++ indented.take (indented.length - 4) ++ [closing]

mutual

def spread : Value → List Char
  | list _ items => stacked '[' ']' (spreadItems items)
  | map _ entries => stacked '\x7b' '\x7d' (spreadEntries entries)
  | v => v.atom

def spreadItems : List Value → List (List Char)
  | [] => []
  | v :: vs => spread v :: spreadItems vs

def spreadEntries : List (Value × Value) → List (List Char)
  | [] => []
  | (k, v) :: rest => (spread k ++ ':' :: ' ' :: spread v) :: spreadEntries rest

end

/-- The text of a value in the output: strings stand for themselves and floats are positional. -/
def text : Value → String
  | undefined _ => ""
  | string s _ => s
  | float x => .ofList (floatText positional x)
  | v => .ofList v.inner

def markupChar (c : Char) : List Char :=
  match c with
  | '<' => "&lt;".toList
  | '>' => "&gt;".toList
  | '&' => "&amp;".toList
  | '"' => "&quot;".toList
  | '\'' => "&#x27;".toList
  | '/' => "&#x2f;".toList
  | c => [c]

def markup (v : Value) : String :=
  match v with
  | string s true => s
  | undefined _ | none | bool _ | int _ | float _ => v.text
  | v => .ofList (v.text.toList.flatMap markupChar)

end JobContainers.Template.Value

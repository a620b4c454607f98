import JobContainers.Yaml.Input

set_option autoImplicit false

namespace JobContainers.Yaml.Quoted

def simpleEscapes : List (Char × Char) :=
  [('0', '\x00'), ('a', '\x07'), ('b', '\x08'), ('t', '\t'), ('\t', '\t'), ('n', '\n'),
    ('v', '\x0b'), ('f', '\x0c'), ('r', '\x0d'), ('e', '\x1b'), (' ', ' '), ('"', '"'),
    ('/', '/'), ('\\', '\\'), ('N', '\u0085'), ('_', '\u00a0'), ('L', '\u2028'),
    ('P', '\u2029')]

def codeEscapes : List (Char × Nat) := [('x', 2), ('u', 4), ('U', 8)]

def codePoint? (digits : List Char) : Option Char :=
  let n := digits.foldl (fun n c => n * 16 + hexValue c) 0
  if n.isValidChar then some (.ofNat n) else none

def escape? (cs : List Located) : Option (Char × List Located) :=
  match simpleEscapes.lookup (peek cs) with
  | some c => some (c, cs.drop 1)
  | none => (codeEscapes.lookup (peek cs)).bind fun length =>
    let digits := ((cs.drop 1).take length).map (·.char)
    if digits.length = length && digits.all isHexDigit then
      (codePoint? digits).map fun c => (c, cs.drop (1 + length))
    else none

structure Run where
  text : List Char
  rest : List Located
  escapedBreak : Bool

def Run.cons (c : Char) (r : Run) : Run := { r with text := c :: r.text }

def run (single : Bool) : Nat → List Located → Option Run
  | 0, _ => none
  | _, [] => some ⟨[], [], false⟩
  | fuel + 1, l :: cs =>
    let c := l.char
    let quote := if single then '\'' else '"'
    if isBoundary c then some ⟨[], l :: cs, false⟩
    else if c = quote then
      if single && peek cs = quote then (run single fuel (cs.drop 1)).map (·.cons quote)
      else some ⟨[], l :: cs, false⟩
    else if !single && c = '\\' then
      if isBreak (peek cs) then some ⟨[], cs.drop 1, true⟩
      else (escape? cs).bind fun (e, rest) => (run single fuel rest).map (·.cons e)
    else (run single fuel cs).map (·.cons c)

structure Fold where
  pads : List Char
  folded : Bool
  firstBreak : Bool
  breaks : Nat

def Fold.text (f : Fold) : List Char :=
  if !f.folded then f.pads
  else if f.firstBreak && f.breaks = 0 then [' ']
  else List.replicate f.breaks '\n'

def skipFold (indent : Int) : Fold → List Located → Option (Fold × List Located)
  | f, [] => some (f, [])
  | f, l :: cs =>
    if isPad l.char then
      if !f.folded then skipFold indent { f with pads := f.pads ++ [l.char] } cs
      else if l.char = '\t' && (l.column : Int) < indent then none
      else skipFold indent f cs
    else if isBreak l.char then
      if f.folded then skipFold indent { f with breaks := f.breaks + 1 } cs
      else skipFold indent { f with pads := [], folded := true, firstBreak := true } cs
    else some (f, l :: cs)

def body (single : Bool) (indent : Int) : Nat → List Char → List Located →
    Option (List Char × List Located)
  | 0, _, _ => none
  | fuel + 1, text, cs =>
    if columnOf cs = 0 && bordersDocument cs then none
    else if isEnd (peek cs) || (columnOf cs : Int) < indent then none
    else match run single (cs.length + 1) cs with
      | none => none
      | some r =>
        if peek r.rest = (if single then '\'' else '"') then some (text ++ r.text, r.rest.drop 1)
        else match skipFold indent ⟨[], r.escapedBreak, false, 0⟩ r.rest with
          | none => none
          | some (f, rest) => body single indent fuel (text ++ r.text ++ f.text) rest

/-- What may follow the closing quote on its line: nothing, a colon, or in flow context the end of
an entry. Outside flow context a key stands on one line. -/
def admitsAfter (inFlow : Bool) (startLine : Nat) (cs : List Located) : Bool :=
  let c := peek cs
  isLineEnd c || (inFlow && (c = ',' || c = '}' || c = ']')) ||
    (c = ':' && (inFlow || startLine = lineOf cs))

def scan (single : Bool) (indent : Int) (inFlow : Bool) (cs : List Located) :
    Option (String × List Located) :=
  match body single indent (cs.length + 1) [] (cs.drop 1) with
  | none => none
  | some (text, rest) =>
    match skipBlanks rest with
    | none => none
    | some rest =>
      if admitsAfter inFlow (lineOf cs) rest then some (.ofList text, rest) else none

end JobContainers.Yaml.Quoted

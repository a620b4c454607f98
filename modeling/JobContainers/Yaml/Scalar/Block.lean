import JobContainers.Yaml.Input

set_option autoImplicit false

namespace JobContainers.Yaml.Block

inductive Chomping where
  | strip
  | clip
  | keep
  deriving DecidableEq

structure Header where
  chomping : Chomping
  increment : Nat

def chomping? (c : Char) : Option Chomping :=
  if c = '+' then some .keep else if c = '-' then some .strip else none

def header (cs : List Located) : Option (Header × List Located) :=
  match chomping? (peek cs) with
  | some chomping =>
    let digit := charAt cs 1
    if digit = '0' then none
    else if digit.isDigit then some (⟨chomping, hexValue digit⟩, cs.drop 2)
    else some (⟨chomping, 0⟩, cs.drop 1)
  | none =>
    let digit := peek cs
    if digit = '0' then none
    else if digit.isDigit then
      match chomping? (charAt cs 1) with
      | some chomping => some (⟨chomping, hexValue digit⟩, cs.drop 2)
      | none => some (⟨.clip, hexValue digit⟩, cs.drop 1)
    else some (⟨.clip, 0⟩, cs)

def firstIndent (deepest breaks : Nat) : List Located → Nat × Nat × List Located
  | [] => (deepest, breaks, [])
  | l :: cs =>
    if l.char = ' ' then firstIndent deepest breaks cs
    else
      let deepest := max deepest l.column
      if isBreak l.char then firstIndent deepest (breaks + 1) cs
      else (deepest, breaks, l :: cs)

def skipIndent (indent breaks : Nat) : List Located → Nat × List Located
  | [] => (breaks, [])
  | l :: cs =>
    if l.char = ' ' && l.column < indent then skipIndent indent breaks cs
    else if isBreak l.char then skipIndent indent (breaks + 1) cs
    else (breaks, l :: cs)

def newlines (n : Nat) : List Char := List.replicate n '\n'

structure Body where
  text : List Char
  pending : Bool
  breaks : Nat
  blankBefore : Bool

def Body.joint (b : Body) (literal blankNow : Bool) : List Char :=
  if !literal && b.pending && !b.blankBefore && !blankNow then
    if b.breaks = 0 then [' '] else newlines b.breaks
  else newlines ((if b.pending then 1 else 0) + b.breaks)

def lines (literal : Bool) (indent : Nat) : Nat → Body → List Located → Body × List Located
  | 0, b, cs => (b, cs)
  | fuel + 1, b, cs =>
    if columnOf cs ≠ indent || isEnd (peek cs) || (indent = 0 && endsDocument cs) then (b, cs)
    else
      let blank := isPad (peek cs)
      let (line, rest) := spanChars (!isLineEnd ·) cs
      let text := b.text ++ b.joint literal blank ++ line
      if isEnd (peek rest) then (⟨text, false, 0, blank⟩, rest)
      else
        let (breaks, rest) := skipIndent indent 0 (rest.drop 1)
        lines literal indent fuel ⟨text, true, breaks, blank⟩ rest

/-- The breaks at the end that chomping leaves; text that ends with the document gets a break if
its last line reaches the indentation. -/
def ending (chomping : Chomping) (indent : Nat) (b : Body) (cs : List Located) : List Char :=
  let last := (if b.pending then 1 else 0) +
    (if isEnd (peek cs) && max indent 1 ≤ columnOf cs then 1 else 0)
  match chomping with
  | .strip => []
  | .clip => newlines last
  | .keep => newlines (last + b.breaks)

def emptyText (chomping : Chomping) (headerBreak : Bool) (breaks : Nat) : List Char :=
  let first := if headerBreak then 1 else 0
  match chomping with
  | .strip => []
  | .clip => newlines first
  | .keep => newlines (if breaks = 0 then first else breaks)

def scan (literal : Bool) (parent : Int) (cs : List Located) :
    Option (String × List Located) := do
  let (header, cs) ← header cs
  let cs ← skipBlanks cs
  guard (isLineEnd (peek cs))
  let headerBreak := isBreak (peek cs)
  let cs := if headerBreak then cs.drop 1 else cs
  guard (peek cs != '\t')
  let (indent, breaks, cs) :=
    if header.increment = 0 then
      let (deepest, breaks, rest) := firstIndent 0 0 cs
      let indent := max deepest (parent + 1).toNat
      (if 0 < parent then max indent 1 else indent, breaks, rest)
    else
      let indent := if 0 ≤ parent then parent.toNat + header.increment else header.increment
      let (breaks, rest) := skipIndent indent 0 cs
      (indent, breaks, rest)
  if isEnd (peek cs) then some (.ofList (emptyText header.chomping headerBreak breaks), cs)
  else if columnOf cs < indent && parent < columnOf cs then none
  else
    let (b, rest) := lines literal indent (cs.length + 1) ⟨[], false, breaks, false⟩ cs
    some (.ofList (b.text ++ ending header.chomping indent b rest), rest)

end JobContainers.Yaml.Block

import JobContainers.Yaml.Scalar.Block
import JobContainers.Yaml.Scalar.Plain
import JobContainers.Yaml.Scalar.Quoted
import JobContainers.Yaml.Tag

/-!
From text to tokens. Indentation opens and closes block collections; a node that turns out to be a
key, because a colon follows, gets its key token in front of it afterwards.
-/

set_option autoImplicit false

namespace JobContainers.Yaml

structure Indent where
  previous : Int
  block : Bool

/-- A token that is a key if a colon follows in time. -/
structure Candidate where
  position : Nat
  line : Nat
  column : Nat
  index : Nat
  required : Bool

structure Lexer where
  input : List Located
  tokens : List Token
  count : Nat
  marginProperty : Bool
  candidate : Option Candidate
  outerCandidates : List (Option Candidate)
  keyAllowed : Bool
  indent : Int
  indents : List Indent
  adjacentAt : Nat
  mappingStarted : Bool
  /-- The last colon has begun a pair without braces, which the next comma or closing bracket
  ends. -/
  pairOpen : Bool

namespace Lexer

def start (text : String) : Lexer where
  input := locate text
  tokens := []
  count := 0
  marginProperty := false
  candidate := none
  outerCandidates := []
  keyAllowed := true
  indent := -1
  indents := []
  adjacentAt := 0
  mappingStarted := false
  pairOpen := false

def inFlow (s : Lexer) : Bool := !s.outerCandidates.isEmpty

def column (s : Lexer) : Nat := columnOf s.input

def push (s : Lexer) (t : Token) : Lexer :=
  { s with tokens := t :: s.tokens, count := s.count + 1, marginProperty := false }

def insertAt (s : Lexer) (position : Nat) (t : Token) : Lexer :=
  let later := s.tokens.take (s.count - position)
  let earlier := s.tokens.drop (s.count - position)
  { s with tokens := later ++ t :: earlier, count := s.count + 1 }

def advance (s : Lexer) (n : Nat) : Lexer := { s with input := s.input.drop n }

def allowKey (s : Lexer) : Lexer := { s with keyAllowed := true }
def disallowKey (s : Lexer) : Lexer := { s with keyAllowed := false }

def allowKeyInBlock (s : Lexer) : Lexer := { s with keyAllowed := !s.inFlow }

def topIsBlock (s : Lexer) : Bool := (s.indents.head?.map (·.block)).getD false

def unrollTo (column : Int) : List Indent → Int → Int × List Indent × Nat
  | [], indent => (indent, [], 0)
  | i :: is, indent =>
    if column < indent then
      let (indent, rest, ends) := unrollTo column is i.previous
      (indent, rest, if i.block then ends + 1 else ends)
    else (indent, i :: is, 0)

def unroll (s : Lexer) (column : Int) : Lexer :=
  if s.inFlow then s
  else
    let (indent, indents, ends) := unrollTo column s.indents s.indent
    let s := { s with indent := indent, indents := indents }
    (List.replicate ends Token.blockEnd).foldl push s

def unrollUnusedFrom : List Indent → Int → Int × List Indent
  | [], indent => (indent, [])
  | i :: is, indent => if i.block then (indent, i :: is) else unrollUnusedFrom is i.previous

def unrollUnused (s : Lexer) : Lexer :=
  let (indent, indents) := unrollUnusedFrom s.indents s.indent
  { s with indent := indent, indents := indents }

def roll (s : Lexer) (column : Nat) (position : Option Nat) (t : Token) : Lexer :=
  if s.inFlow then s
  else
    let s := match s.indents with
      | i :: is =>
        if s.indent ≤ (column : Int) && !i.block then
          { s with indent := i.previous, indents := is }
        else s
      | [] => s
    if s.indent < (column : Int) then
      let s := { s with indents := ⟨s.indent, true⟩ :: s.indents, indent := (column : Int) }
      match position with
      | some n => s.insertAt n t
      | none => s.push t
    else s

def rollOne (s : Lexer) : Lexer :=
  if !s.inFlow && s.topIsBlock then
    { s with indents := ⟨s.indent, false⟩ :: s.indents, indent := s.indent + 1 }
  else s

def candidateHere (s : Lexer) : Candidate where
  position := s.count
  line := lineOf s.input
  column := s.column
  index := indexOf s.input
  required := !s.inFlow && s.indent = s.column && s.topIsBlock

def saveCandidate (s : Lexer) : Lexer :=
  if s.keyAllowed then { s with candidate := some s.candidateHere } else s

def dropCandidate (s : Lexer) : Option Lexer :=
  match s.candidate with
  | some c => if c.required then none else some { s with candidate := none }
  | none => some s

/-- A key in block context stands on one line and is not longer than 1024 characters. -/
def dropStale (s : Lexer) : Option Lexer :=
  match s.candidate with
  | some c =>
    if !s.inFlow && (c.line < lineOf s.input || c.index + 1024 < indexOf s.input) then
      s.dropCandidate
    else some s
  | none => some s

def skipBlanks (s : Lexer) : Option Lexer :=
  (Yaml.skipBlanks s.input).map fun rest => { s with input := rest }

/-- Passes blanks, comments and line breaks; tells whether a line break was passed. Tabs may not
stand for the indentation of a block. -/
def skipToToken (inBlock : Bool) (indent : Int) :
    LineMode → Bool → List Located → Option (List Located × Bool)
  | _, broken, [] => some ([], broken)
  | mode, broken, l :: cs =>
    if isBreak l.char then skipToToken inBlock indent .text true cs
    else if isEnd l.char then some (l :: cs, broken)
    else match mode with
      | .comment => skipToToken inBlock indent .comment broken cs
      | .tabbed =>
        if isPad l.char then skipToToken inBlock indent .tabbed broken cs
        else if l.char = '#' then skipToToken inBlock indent .comment broken cs
        else none
      | .text =>
        if l.char = '\t' && inBlock && l.leading && (l.column : Int) < indent then
          skipToToken inBlock indent .tabbed broken cs
        else if isPad l.char then skipToToken inBlock indent .text broken cs
        else if l.char = '#' then skipToToken inBlock indent .comment broken cs
        else some (l :: cs, broken)

def toToken (s : Lexer) : Option Lexer :=
  (skipToToken (!s.indents.isEmpty) s.indent .text false s.input).map fun (rest, broken) =>
    { s with input := rest, keyAllowed := s.keyAllowed || (broken && !s.inFlow) }

def endPair (s : Lexer) : Lexer :=
  if s.pairOpen then { s.push .flowMappingEnd with mappingStarted := false, pairOpen := false }
  else s

def maxFlowDepth : Nat := 255

def flowStart (s : Lexer) (t : Token) : Option Lexer := do
  let s := s.saveCandidate.rollOne
  guard (s.outerCandidates.length < maxFlowDepth)
  let s := { s with outerCandidates := s.candidate :: s.outerCandidates, candidate := none }
  let s := s.allowKey.advance 1
  let s := if t = .flowMappingStart then { s with mappingStarted := true } else s
  return (← s.skipBlanks).push t

def flowEnd (s : Lexer) (t : Token) : Option Lexer := do
  let s ← s.dropCandidate
  let s := match s.outerCandidates with
    | outer :: rest => { s with candidate := outer, outerCandidates := rest }
    | [] => s
  let s ← (s.disallowKey.endPair.advance 1).skipBlanks
  let s := if s.inFlow then { s with adjacentAt := indexOf s.input } else s
  return s.push t

def flowEntry (s : Lexer) : Option Lexer := do
  let s := (← s.dropCandidate).allowKey.endPair
  return (← (s.advance 1).skipBlanks).push .flowEntry

def blockEntry (s : Lexer) : Option Lexer := do
  guard (!s.inFlow && s.keyAllowed)
  guard (!(s.marginProperty && s.column = 0 && -1 < s.indent))
  let column := s.column
  let s := (s.advance 1).roll column none .blockSequenceStart
  let gap ← skipGap false false s.input
  guard (!(gap.tab && peek gap.rest = '-' && isBoundary (charAt gap.rest 1)))
  let s := { s with input := gap.rest }
  let s := if isBreak (peek s.input) || isFlow (peek s.input) then s.rollOne else s
  return (← s.dropCandidate).allowKey.push .blockEntry

def skipSpaces : LineMode → Bool → Bool → List Located → Option (List Located × Bool)
  | _, broken, any, [] => if any then some ([], broken) else none
  | mode, broken, any, l :: cs =>
    if isBreak l.char then skipSpaces .text true true cs
    else if mode = .comment && !isEnd l.char then skipSpaces .comment broken any cs
    else if l.char = ' ' then skipSpaces .text broken true cs
    else if l.char = '#' then skipSpaces .comment broken any cs
    else if any then some (l :: cs, broken) else none

def explicitKey (s : Lexer) : Option Lexer := do
  guard (s.inFlow || s.keyAllowed)
  let s := if s.inFlow then { s with mappingStarted := true }
    else s.roll s.column none .blockMappingStart
  let s := ((← s.dropCandidate).allowKeyInBlock).advance 1
  let (rest, broken) ← skipSpaces .text false false s.input
  guard (peek rest != '\t')
  let s := { s with input := rest, keyAllowed := s.keyAllowed || (broken && !s.inFlow) }
  return s.push .key

/-- A tab behind a colon is no separation if a word or a hyphen follows it directly. -/
def tabsAfterColon (s : Lexer) : Option Lexer :=
  if peek s.input = '\t' then do
    let gap ← skipGap false false s.input
    guard (gap.space || !(peek gap.rest = '-' || isWordChar (peek gap.rest)))
    return { s with input := gap.rest }
  else some s

/-- The colon behind a candidate makes it a key. -/
def valueOfCandidate (s : Lexer) (c : Candidate) (bare : Bool) (line : Nat) : Option Lexer := do
  let s := s.insertAt c.position .key
  guard (!(bare && c.line < line))
  let s := if bare then s.insertAt c.position .flowMappingStart else s
  let s := (s.roll c.column (some c.position) .blockMappingStart).rollOne
  return { s with candidate := none, keyAllowed := false }

def valueOfNothing (s : Lexer) (bare : Bool) (column : Nat) : Option Lexer := do
  let s := if bare then s.push .flowMappingStart else s
  guard (s.inFlow || s.keyAllowed)
  return ((s.roll column none .blockMappingStart).rollOne).allowKeyInBlock

def value (s : Lexer) : Option Lexer := do
  let line := lineOf s.input
  let column := s.column
  let bare := s.inFlow && !s.mappingStarted
  let s ← ({ s with pairOpen := bare }.advance 1).tabsAfterColon
  let s ← match s.candidate with
    | some c => s.valueOfCandidate c bare line
    | none => s.valueOfNothing bare column
  return s.push .value

def property (s : Lexer) (scan : List Located → Option (Token × List Located)) :
    Option Lexer := do
  let margin := s.column = 0
  let s := s.saveCandidate.disallowKey
  let (t, rest) ← scan s.input
  return { s.push t with input := rest, marginProperty := margin }

def aliased (s : Lexer) : Option Lexer := do
  let s := s.saveCandidate.disallowKey
  let (name, rest) ← scanAnchorName s.input
  return { s.push (.alias name) with input := rest }

def blockScalar (s : Lexer) (literal : Bool) : Option Lexer := do
  let s := s.saveCandidate.allowKey.unrollUnused
  let (text, rest) ← Block.scan literal s.indent (s.input.drop 1)
  return { s.push (.scalar false text) with input := rest }

def quotedScalar (s : Lexer) (single : Bool) : Option Lexer := do
  let s := s.saveCandidate.disallowKey
  let (text, rest) ← Quoted.scan single s.indent s.inFlow s.input
  let s ← { s with input := rest }.toToken
  return { s.push (.scalar false text) with adjacentAt := indexOf s.input }

def plainScalar (s : Lexer) : Option Lexer := do
  let s := s.saveCandidate.disallowKey.unrollUnused
  let indent := s.indent + 1
  guard (!(s.inFlow && (s.column : Int) < indent))
  let (text, rest) ← Plain.scan indent s.inFlow s.input
  let s := { s with input := rest, keyAllowed := s.keyAllowed || leadingAt rest }
  return s.push (.scalar true text)

def toMargin (s : Lexer) : Option Lexer := do
  return (← (s.unroll (-1)).dropCandidate).disallowKey

def directive (s : Lexer) : Option Lexer := do
  let s ← s.toMargin
  let (t, rest) ← scanDirective s.input
  return { s.push t with input := rest }

def documentStart (s : Lexer) : Option Lexer := do
  return ((← s.toMargin).advance 3).push .documentStart

def documentEnd (s : Lexer) : Option Lexer := do
  let s ← (((← s.toMargin).advance 3).push .documentEnd).skipBlanks
  guard (isLineEnd (peek s.input))
  return s

def atValue (s : Lexer) : Bool :=
  let next := charAt s.input 1
  isBoundary next || (s.inFlow && (isFlow next || indexOf s.input = s.adjacentAt))

def next (s : Lexer) : Option Lexer :=
  let c := peek s.input
  let spaced := isBoundary (charAt s.input 1)
  if s.column = 0 && c = '%' then s.directive
  else if s.column = 0 && startsDocument s.input then s.documentStart
  else if s.column = 0 && endsDocument s.input then s.documentEnd
  else if (s.column : Int) < s.indent then none
  else match c with
    | '[' => s.flowStart .flowSequenceStart
    | '{' => s.flowStart .flowMappingStart
    | ']' => s.flowEnd .flowSequenceEnd
    | '}' => s.flowEnd .flowMappingEnd
    | ',' => s.flowEntry
    | '*' => s.aliased
    | '&' => s.property fun cs => (scanAnchorName cs).map fun (name, rest) => (.anchor name, rest)
    | '!' => s.property (scanTag s.inFlow)
    | '\'' => s.quotedScalar true
    | '"' => s.quotedScalar false
    | '%' | '@' | '\x60' => none
    | c =>
      if c = '-' && spaced then s.blockEntry
      else if c = '?' && spaced then s.explicitKey
      else if c = ':' && s.atValue then s.value
      else if c = '|' && !s.inFlow then s.blockScalar true
      else if c = '>' && !s.inFlow then s.blockScalar false
      else s.plainScalar

def finish (s : Lexer) : Option (List Token) := do
  guard (!s.outerCandidates.any fun c => c.any (·.required))
  let s ← (← s.dropCandidate).toMargin
  return (s.push .streamEnd).tokens.reverse

def run : Nat → Lexer → Option (List Token)
  | 0, _ => none
  | fuel + 1, s => do
    let s ← (← s.toToken).dropStale
    let s := s.unroll s.column
    if isEnd (peek s.input) then s.finish
    else run fuel (← s.next)

end Lexer

/-- The tokens of a text. Every token but the last takes at least one character. -/
def Token.ofText? (text : String) : Option (List Token) :=
  let s := Lexer.start text
  s.run (s.input.length + 1)

end JobContainers.Yaml

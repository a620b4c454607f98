import JobContainers.Yaml.Token

set_option autoImplicit false

namespace JobContainers.Yaml

structure Tag where
  handle : String
  suffix : String
  deriving DecidableEq, Repr

inductive Event where
  | documentStart
  | documentEnd
  | alias (anchor : Nat)
  | scalar (plain : Bool) (text : String) (anchor : Option Nat) (tag : Option Tag)
  | sequenceStart (anchor : Option Nat)
  | sequenceEnd
  | mappingStart (anchor : Option Nat)
  | mappingEnd
  deriving DecidableEq, Repr

def Event.absent : Event := .scalar true "~" none none

def coreHandle : String := "tag:yaml.org,2002:"

inductive Expecting where
  | implicitDocument
  | document
  | documentContent
  | documentEnd
  | node
  | blockSequenceFirst
  | blockSequenceEntry
  | indentlessEntry
  | blockMappingFirst
  | blockMappingKey
  | blockMappingValue
  | flowSequenceFirst
  | flowSequenceEntry
  | pairKey
  | pairValue
  | pairEnd
  | flowMappingFirst
  | flowMappingKey
  | flowMappingValue
  | flowMappingNoValue
  | nothing
  deriving DecidableEq, Repr

structure Parser where
  tokens : List Token
  expecting : Expecting
  later : List Expecting
  handles : List (String × String)
  anchors : List (String × Nat)
  nextAnchor : Nat

namespace Parser

def start (tokens : List Token) : Parser where
  tokens := tokens
  expecting := .implicitDocument
  later := []
  handles := []
  anchors := []
  nextAnchor := 1

def peek? (p : Parser) : Option Token := p.tokens.head?

def skip (p : Parser) : Parser := { p with tokens := p.tokens.drop 1 }

def expect (p : Parser) (e : Expecting) : Parser := { p with expecting := e }

def expectLater (p : Parser) (e : Expecting) : Parser := { p with later := e :: p.later }

def complete (p : Parser) : Option Parser :=
  match p.later with
  | e :: rest => some { p with expecting := e, later := rest }
  | [] => none

/-- Declared handles stand for their prefixes; an undeclared one must not be of the form that needs
a declaration. -/
def resolveTag (p : Parser) (handle suffix : String) : Option Tag :=
  match p.handles.lookup handle with
  | some expansion => some ⟨expansion, suffix⟩
  | none =>
    if handle = "!!" then some ⟨coreHandle, suffix⟩
    else if 2 ≤ handle.length && handle.startsWith "!" && handle.endsWith "!" then none
    else some ⟨handle, suffix⟩

def register (p : Parser) (name : String) : Parser :=
  { p with anchors := (name, p.nextAnchor) :: p.anchors, nextAnchor := p.nextAnchor + 1 }

structure Properties where
  anchor : Option Nat
  tag : Option Tag
  parser : Parser

def properties (p : Parser) : Option Properties :=
  match p.tokens with
  | .anchor name :: rest =>
    let q := { p.register name with tokens := rest }
    match rest with
    | .tag handle suffix :: rest =>
      (q.resolveTag handle suffix).map fun tag =>
        ⟨some p.nextAnchor, some tag, { q with tokens := rest }⟩
    | _ => some ⟨some p.nextAnchor, none, q⟩
  | .tag handle suffix :: rest =>
    (p.resolveTag handle suffix).map fun tag =>
      match rest with
      | .anchor name :: rest =>
        ⟨some p.nextAnchor, some tag, { p.register name with tokens := rest }⟩
      | _ => ⟨none, some tag, { p with tokens := rest }⟩
  | _ => some ⟨none, none, p⟩

/-- A node. Block collections may only begin where `block` says so, a sequence without indentation
only as the value of a mapping. Properties alone stand for an empty scalar. -/
def node (p : Parser) (block indentless : Bool) : Option (Event × Parser) :=
  match p.tokens with
  | .alias name :: _ => do
    let q ← p.complete
    return (.alias (← p.anchors.lookup name), q.skip)
  | _ => do
    let ⟨anchor, tag, p⟩ ← p.properties
    match p.tokens with
    | .blockEntry :: _ =>
      if indentless then return (.sequenceStart anchor, p.expect .indentlessEntry)
      else empty p anchor tag
    | .scalar plain text :: _ => return (.scalar plain text anchor tag, (← p.complete).skip)
    | .flowSequenceStart :: _ => return (.sequenceStart anchor, p.expect .flowSequenceFirst)
    | .flowMappingStart :: _ => return (.mappingStart anchor, p.expect .flowMappingFirst)
    | .blockSequenceStart :: _ =>
      if block then return (.sequenceStart anchor, p.expect .blockSequenceFirst)
      else empty p anchor tag
    | .blockMappingStart :: _ =>
      if block then return (.mappingStart anchor, p.expect .blockMappingFirst)
      else empty p anchor tag
    | _ => empty p anchor tag
where
  empty (p : Parser) (anchor : Option Nat) (tag : Option Tag) : Option (Event × Parser) :=
    if anchor.isSome || tag.isSome then do
      return (.scalar true "" anchor tag, ← p.complete)
    else none

def directives (versionSeen : Bool) (handles : List (String × String)) :
    List Token → Option (List (String × String) × List Token)
  | .versionDirective :: rest => if versionSeen then none else directives true [] rest
  | .tagDirective handle expansion :: rest => directives versionSeen [(handle, expansion)] rest
  | tokens => some (handles, tokens)

def explicitDocument (p : Parser) : Option (Event × Parser) := do
  let (handles, tokens) ← directives false p.handles p.tokens
  match tokens with
  | .documentStart :: rest =>
    let q := { p with handles := handles, tokens := rest, anchors := [] }
    return (.documentStart, (q.expectLater .documentEnd).expect .documentContent)
  | _ => none

def isDirective : Option Token → Bool
  | some .versionDirective | some (.tagDirective _ _) => true
  | _ => false

def document (p : Parser) (implicit : Bool) : Option (Option Event × Parser) :=
  let p := { p with tokens := p.tokens.dropWhile (· = Token.documentEnd) }
  match p.peek? with
  | some .streamEnd => some (none, p.expect .nothing)
  | t =>
    if !implicit || isDirective t || t = some Token.documentStart then
      p.explicitDocument.map fun (e, p) => (some e, p)
    else
      some (some .documentStart, ({ p with anchors := [] }.expectLater .documentEnd).expect .node)

def documentContent (p : Parser) : Option (Event × Parser) :=
  match p.peek? with
  | some .versionDirective | some (.tagDirective _ _) | some .documentStart | some .documentEnd
  | some .streamEnd => p.complete.map fun p => (.absent, p)
  | _ => p.node true false

def documentEnd (p : Parser) : Option (Event × Parser) :=
  let q := { p with handles := [] }
  if p.peek? = some .documentEnd then some (.documentEnd, q.skip.expect .implicitDocument)
  else if isDirective p.peek? then none
  else some (.documentEnd, q.expect .document)

def blockMappingKey (p : Parser) : Option (Event × Parser) :=
  match p.tokens with
  | .key :: next :: _ =>
    if next = .key || next = .value || next = .blockEnd then
      some (.absent, p.skip.expect .blockMappingValue)
    else (p.skip.expectLater .blockMappingValue).node true true
  | .value :: _ => some (.absent, p.expect .blockMappingValue)
  | .blockEnd :: _ => p.complete.map fun p => (.mappingEnd, p.skip)
  | _ => none

def blockMappingValue (p : Parser) : Option (Event × Parser) :=
  match p.tokens with
  | .value :: next :: _ =>
    if next = .key || next = .value || next = .blockEnd then
      some (.absent, p.skip.expect .blockMappingKey)
    else (p.skip.expectLater .blockMappingKey).node true true
  | _ => some (.absent, p.expect .blockMappingKey)

def blockSequenceEntry (p : Parser) : Option (Event × Parser) :=
  match p.tokens with
  | .blockEnd :: _ => p.complete.map fun p => (.sequenceEnd, p.skip)
  | .blockEntry :: next :: _ =>
    if next = .blockEntry || next = .blockEnd then
      some (.absent, p.skip.expect .blockSequenceEntry)
    else (p.skip.expectLater .blockSequenceEntry).node true false
  | _ => none

def indentlessEntry (p : Parser) : Option (Event × Parser) :=
  match p.tokens with
  | .blockEntry :: next :: _ =>
    if next = .blockEntry || next = .key || next = .value || next = .blockEnd then
      some (.absent, p.skip.expect .indentlessEntry)
    else (p.skip.expectLater .indentlessEntry).node true false
  | _ => p.complete.map fun p => (.sequenceEnd, p)

def flowMappingEntry (p : Parser) : Option (Event × Parser) :=
  match p.tokens with
  | .key :: next :: _ =>
    if next = .value || next = .flowEntry || next = .flowMappingEnd then
      some (.absent, p.skip.expect .flowMappingValue)
    else (p.skip.expectLater .flowMappingValue).node false false
  | .value :: _ => some (.absent, p.expect .flowMappingValue)
  | .flowMappingEnd :: _ => p.complete.map fun p => (.mappingEnd, p.skip)
  | _ => (p.expectLater .flowMappingNoValue).node false false

def flowMappingKey (p : Parser) : Option (Event × Parser) :=
  match p.peek? with
  | some .flowMappingEnd => p.complete.map fun p => (.mappingEnd, p.skip)
  | some .flowEntry => p.skip.flowMappingEntry
  | _ => none

def flowMappingValue (p : Parser) : Option (Event × Parser) :=
  match p.tokens with
  | .value :: next :: _ =>
    if next = .flowEntry || next = .flowMappingEnd then
      some (.absent, p.skip.expect .flowMappingKey)
    else (p.skip.expectLater .flowMappingKey).node false false
  | _ => some (.absent, p.expect .flowMappingKey)

def flowSequenceItem (p : Parser) : Option (Event × Parser) :=
  match p.peek? with
  | some .flowSequenceEnd => p.complete.map fun p => (.sequenceEnd, p.skip)
  | some .key => some (.mappingStart none, p.skip.expect .pairKey)
  | _ => (p.expectLater .flowSequenceEntry).node false false

def flowSequenceEntry (p : Parser) : Option (Event × Parser) :=
  match p.peek? with
  | some .flowSequenceEnd => p.complete.map fun p => (.sequenceEnd, p.skip)
  | some .flowEntry => p.skip.flowSequenceItem
  | _ => none

def pairKey (p : Parser) : Option (Event × Parser) :=
  match p.peek? with
  | some .value | some .flowEntry | some .flowSequenceEnd =>
    some (.absent, p.skip.expect .pairValue)
  | _ => (p.expectLater .pairValue).node false false

def pairValue (p : Parser) : Option (Event × Parser) :=
  match p.tokens with
  | .value :: next :: _ =>
    if next = .flowEntry || next = .flowSequenceEnd then some (.absent, p.skip.expect .pairEnd)
    else (p.skip.expectLater .pairEnd).node false false
  | _ => some (.absent, p.expect .pairEnd)

def step (p : Parser) : Option (Option Event × Parser) :=
  let event := fun (r : Option (Event × Parser)) => r.map fun (e, p) => (some e, p)
  match p.expecting with
  | .implicitDocument => p.document true
  | .document => p.document false
  | .documentContent => event p.documentContent
  | .documentEnd => event p.documentEnd
  | .node => event (p.node true false)
  | .blockSequenceFirst => event p.skip.blockSequenceEntry
  | .blockSequenceEntry => event p.blockSequenceEntry
  | .indentlessEntry => event p.indentlessEntry
  | .blockMappingFirst => event p.skip.blockMappingKey
  | .blockMappingKey => event p.blockMappingKey
  | .blockMappingValue => event p.blockMappingValue
  | .flowSequenceFirst => event p.skip.flowSequenceItem
  | .flowSequenceEntry => event p.flowSequenceEntry
  | .pairKey => event p.pairKey
  | .pairValue => event p.pairValue
  | .pairEnd => some (some .mappingEnd, p.expect .flowSequenceEntry)
  | .flowMappingFirst => event p.skip.flowMappingEntry
  | .flowMappingKey => event p.flowMappingKey
  | .flowMappingValue => event p.flowMappingValue
  | .flowMappingNoValue => some (some .absent, p.expect .flowMappingKey)
  | .nothing => some (none, p)

def run : Nat → Parser → Option (List Event)
  | 0, _ => none
  | fuel + 1, p =>
    match p.step with
    | none => none
    | some (none, _) => some []
    | some (some e, p) => (run fuel p).map (e :: ·)

end Parser

/-- The events of all documents of a text. No token takes part in more than a few events. -/
def Event.ofTokens? (tokens : List Token) : Option (List Event) :=
  (Parser.start tokens).run (8 * tokens.length + 8)

end JobContainers.Yaml

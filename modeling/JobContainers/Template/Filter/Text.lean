import JobContainers.Template.Arguments
import JobContainers.Text.Base64
import JobContainers.Text.Blank
import JobContainers.Text.LetterCase

set_option autoImplicit false

namespace JobContainers.Template

abbrev Filter := Taking (Except Error Value)

namespace Filter

def onMarkup (change : String → String) : Filter := do
  let (s, safe) ← Taking.markup
  return .ok (.string (change s) safe)

def upper : Filter := onMarkup LetterCase.upper

def lower : Filter := onMarkup LetterCase.lower

def capitalized (s : String) : String :=
  match s.toList with
  | [] => ""
  | c :: cs => .ofList (LetterCase.upperChars c ++ LetterCase.lowerFrom [] cs)

def punctuation : List Char := "!\"#$%&'()*+,-./:;<=>?@[\\]^_\x60\x7b|\x7d~".toList

/-- Characters with the first letter of every word in upper case; `starts` says whether a word may
begin. Anything but a letter or digit ends a word. -/
def titledChars (starts : Bool) : List Char → List Char
  | [] => []
  | c :: cs =>
    if isBlank c || punctuation.contains c then c :: titledChars true cs
    else (if starts then LetterCase.upperChars c else LetterCase.lowerChars c) ++
      titledChars false cs

def titled (s : String) : String := .ofList (titledChars true s.toList)

def trim : Filter := do
  let (s, safe) ← Taking.markup
  let cls := match ← Taking.optional Value.asText with
    | some s => fun c => s.toList.contains c
    | none => isBlank
  return .ok (.string (.ofList (trimBoth cls s.toList)) safe)

/-- Replaces every occurrence of a part, from left to right; `skip` characters belong to the last
one that was replaced. -/
def replaceChars (old new : List Char) (skip : Nat) : List Char → List Char
  | [] => []
  | c :: cs =>
    match skip with
    | skip + 1 => replaceChars old new skip cs
    | 0 =>
      if old.isPrefixOf (c :: cs) then new ++ replaceChars old new (old.length - 1) cs
      else c :: replaceChars old new 0 cs

/-- An empty part occurs around every character. -/
def replaceText (old new s : String) : String :=
  let (old, new) := (old.toList, new.toList)
  .ofList (if old.isEmpty then new ++ s.toList.flatMap fun c => c :: new
    else replaceChars old new 0 s.toList)

def replace : Filter := do
  let s ← Taking.text
  let old ← Taking.text
  let new ← Taking.text
  return .ok (.ofString (replaceText old new s))

def splitChars (separator : List Char) (skip : Nat) : List Char → List Char × List (List Char)
  | [] => ([], [])
  | c :: cs =>
    match skip with
    | skip + 1 => splitChars separator skip cs
    | 0 =>
      if separator.isPrefixOf (c :: cs) then
        let (first, rest) := splitChars separator (separator.length - 1) cs
        ([], first :: rest)
      else
        let (first, rest) := splitChars separator 0 cs
        (c :: first, rest)

def splitAt (separator cs : List Char) : List (List Char) :=
  if separator.isEmpty then [] :: cs.map (fun c => [c]) ++ [[]]
  else
    let (first, rest) := splitChars separator 0 cs
    first :: rest

def splitUpTo (count : Nat) (separator cs : List Char) : List (List Char) :=
  let parts := splitAt separator cs
  if parts.length ≤ count then parts
  else parts.take (count - 1) ++ [separator.intercalate (parts.drop (count - 1))]

def words (cs : List Char) : List (List Char) :=
  (cs.foldr (fun c (ws : List (List Char)) =>
    if isBlank c then [] :: ws
    else match ws with
      | w :: ws => (c :: w) :: ws
      | [] => [[c]]) [[]]).filter (!·.isEmpty)

def wordsUpTo : Nat → List Char → List (List Char)
  | 0, _ => []
  | count + 1, cs =>
    match cs.dropWhile isBlank with
    | [] => if cs.isEmpty then [] else [cs]
    | body =>
      let rest := body.dropWhile fun c => !isBlank c
      if count = 0 then [body]
      else if rest.isEmpty then [body]
      else body.takeWhile (fun c => !isBlank c) :: wordsUpTo count rest

def split : Filter := do
  let s ← Taking.string
  let separator ← Taking.optional Value.asString
  let most ← Taking.optional (Value.asInteger 64)
  let count := (most.filter (0 ≤ ·)).map fun n => n.toNat + 1
  let cs := s.toList
  let parts := match separator.map String.toList, count with
    | some separator, some count => splitUpTo count separator cs
    | some separator, none => splitAt separator cs
    | none, some count => wordsUpTo count cs
    | none, none => words cs
  return .ok (.ofStrings (parts.map String.ofList))

def linesOf (cs : List Char) : List (List Char) :=
  let ls := splitAt ['\n'] cs
  let ls := if ls.getLast? = some [] then ls.dropLast else ls
  ls.map fun l => if l.getLast? = some '\r' then l.dropLast else l

def lines : Filter := do
  let s ← Taking.string
  return .ok (.ofStrings ((linesOf s.toList).map String.ofList))

def dropLineEnd (cs : List Char) : List Char :=
  let cs := if cs.getLast? = some '\n' then cs.dropLast else cs
  if cs.getLast? = some '\r' then cs.dropLast else cs

def indentLines (width : Nat) (first blank : Bool) (cs : List Char) : List Char :=
  let margin := List.replicate width ' '
  let shift := fun (l : List Char) => if l.isEmpty && !blank then l else margin ++ l
  let ls := splitAt ['\n'] (dropLineEnd cs)
  let shifted := if first then ls.map shift else ls.take 1 ++ (ls.drop 1).map shift
  dropLineEnd (['\n'].intercalate shifted ++ ['\n'])

def indent : Filter := do
  let named ← Taking.named
  let (s, safe) ← Taking.markup
  let width ← Taking.optional Value.asNatural
  let first ← Taking.optional Value.asFlag
  let blank ← Taking.optional Value.asFlag
  return do
    let width := width.getD ((← named.optional "width" Value.asNatural).getD 4)
    let first := first.getD (← named.flag "first")
    let blank := blank.getD (← named.flag "blank")
    named.only ["width", "first", "blank"]
    return .string (.ofList (indentLines width first blank s.toList)) safe

def join : Filter := do
  let v ← Taking.any
  let separator := (← Taking.optional Value.asText).getD ""
  return match v.items? with
    | some items => .ok (.ofString (separator.intercalate (items.map Value.text)))
    | none => .error .invalidOperation

def safe : Filter := do
  let s ← Taking.text
  return .ok (.string s true)

def escape : Filter := do
  let v ← Taking.any
  return .ok (.string v.markup true)

def string : Filter := do
  match ← Taking.any with
  | .string s safe => return .ok (.string s safe)
  | v => return .ok (.ofString v.text)

def pretty : Filter := do
  let v ← Taking.any
  return .ok (.ofChars v.spread)

def encoded : Filter := do
  let s ← Taking.string
  return .ok (.ofString (Base64.encodeText s))

def textFilters : List (String × Filter) :=
  [("upper", upper), ("lower", lower), ("title", onMarkup titled),
    ("capitalize", onMarkup capitalized), ("trim", trim), ("replace", replace), ("split", split),
    ("lines", lines), ("indent", indent), ("join", join), ("safe", safe), ("escape", escape),
    ("e", escape), ("string", string), ("pprint", pretty), ("base64_encode", encoded)]

end Filter

end JobContainers.Template

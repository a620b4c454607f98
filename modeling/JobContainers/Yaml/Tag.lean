import JobContainers.Yaml.Input
import JobContainers.Yaml.Token

set_option autoImplicit false

namespace JobContainers.Yaml

def percentByte? (cs : List Located) : Option (Nat × List Located) :=
  let high := charAt cs 1
  let low := charAt cs 2
  if peek cs = '%' && isHexDigit high && isHexDigit low then
    some (hexValue high * 16 + hexValue low, cs.drop 3)
  else none

def trailingBytes? (byte : Nat) : Option Nat :=
  if byte < 0x80 then some 0
  else if 0xc0 ≤ byte ∧ byte < 0xe0 then some 1
  else if 0xe0 ≤ byte ∧ byte < 0xf0 then some 2
  else if 0xf0 ≤ byte ∧ byte < 0xf8 then some 3
  else none

def percentTail : Nat → Nat → List Located → Option (Nat × List Located)
  | 0, code, cs => some (code, cs)
  | n + 1, code, cs => do
    let (byte, cs) ← percentByte? cs
    guard (0x80 ≤ byte && byte < 0xc0)
    percentTail n (code * 256 + byte) cs

def percentChar? (cs : List Located) : Option (Char × List Located) := do
  let (byte, cs) ← percentByte? cs
  let (code, cs) ← percentTail (← trailingBytes? byte) byte cs
  guard code.isValidChar
  some (.ofNat code, cs)

def uriText (cls : Char → Bool) : Nat → List Located → Option (List Char × List Located)
  | 0, _ => none
  | fuel + 1, cs =>
    if !cls (peek cs) then some ([], cs)
    else do
      let (c, cs) ← if peek cs = '%' then percentChar? cs else some (peek cs, cs.drop 1)
      let (text, rest) ← uriText cls fuel cs
      some (c :: text, rest)

/-- An exclamation mark, word characters and perhaps a second mark. In a directive the second mark
is needed unless the handle is the mark alone. -/
def tagHandle? (directive : Bool) (cs : List Located) : Option (List Char × List Located) :=
  if peek cs != '!' then none
  else
    let (word, rest) := spanChars isWordChar (cs.drop 1)
    if peek rest = '!' then some ('!' :: word ++ ['!'], rest.drop 1)
    else if directive && !word.isEmpty then none
    else some ('!' :: word, rest)

def verbatimTag? (cs : List Located) : Option (Token × List Located) := do
  let (suffix, rest) ← uriText isUriChar (cs.length + 1) (cs.drop 2)
  guard (peek rest = '>')
  some (.tag "" (.ofList suffix), rest.drop 1)

def shorthandTag? (cs : List Located) : Option (Token × List Located) := do
  let (handle, rest) ← tagHandle? false cs
  let (suffix, rest) ← uriText isTagChar (cs.length + 1) rest
  if 2 ≤ handle.length ∧ handle.getLast? = some '!' then
    guard (!suffix.isEmpty)
    some (.tag (.ofList handle) (.ofList suffix), rest)
  else
    let suffix := handle.drop 1 ++ suffix
    if suffix.isEmpty then some (.tag "" "!", rest)
    else some (.tag "!" (.ofList suffix), rest)

def scanTag (inFlow : Bool) (cs : List Located) : Option (Token × List Located) := do
  let (tag, rest) ← if charAt cs 1 = '<' then verbatimTag? cs else shorthandTag? cs
  guard (isBoundary (peek rest) || (inFlow && isFlow (peek rest)))
  some (tag, rest)

def scanAnchorName (cs : List Located) : Option (String × List Located) :=
  let (name, rest) := spanChars isAnchorChar (cs.drop 1)
  if name.isEmpty then none else some (.ofList name, rest)

def versionNumber? (cs : List Located) : Option (List Located) :=
  let (digits, rest) := spanChars Char.isDigit cs
  if digits.isEmpty || 9 < digits.length then none else some rest

def scanVersion (cs : List Located) : Option (Token × List Located) := do
  let rest ← versionNumber? (cs.dropWhile (isPad ·.char))
  guard (peek rest = '.')
  some (.versionDirective, ← versionNumber? (rest.drop 1))

def tagExpansion? (cs : List Located) : Option (List Char × List Located) :=
  if peek cs = '!' || isTagChar (peek cs) then uriText isUriChar (cs.length + 1) cs else none

def scanTagDirective (cs : List Located) : Option (Token × List Located) := do
  let (handle, rest) ← tagHandle? true (cs.dropWhile (isPad ·.char))
  let (expansion, rest) ← tagExpansion? (rest.dropWhile (isPad ·.char))
  guard (isBoundary (peek rest))
  some (.tagDirective (.ofList handle) (.ofList expansion), rest)

/-- A directive of an unknown name takes its whole line and declares the empty handle. -/
def scanDirective (cs : List Located) : Option (Token × List Located) := do
  let (name, rest) := spanChars isWordChar (cs.drop 1)
  guard (!name.isEmpty && isBoundary (peek rest))
  let (token, rest) ←
    if name = "YAML".toList then scanVersion rest
    else if name = "TAG".toList then scanTagDirective rest
    else some (.tagDirective "" "", rest.dropWhile (!isLineEnd ·.char))
  let rest ← skipBlanks rest
  guard (isLineEnd (peek rest))
  some (token, if isBreak (peek rest) then rest.drop 1 else rest)

end JobContainers.Yaml

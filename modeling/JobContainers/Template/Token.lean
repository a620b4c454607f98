import JobContainers.Binary64
import JobContainers.Template.Error
import JobContainers.Text.Blank

/-!
Tokens of templates. A template is text with tags in double braces for output, in braces with
percent signs for statements and in braces with number signs for comments. A hyphen inside the
marker of a tag removes the blanks on its outer side; a plus sign keeps them. The text of a raw
statement has no tags.

Where a template cannot be read any further the last of its tokens says why, so that a fault counts
only for those who read that far.
-/

set_option autoImplicit false

namespace JobContainers.Template

inductive TagKind where
  | output
  | statement
  deriving DecidableEq, Repr

inductive Token where
  | plain (value : List Char)
  | tagStart (kind : TagKind)
  | tagEnd
  | name (id : String)
  | string (value : String)
  | int (value : Nat)
  | float (value : Binary64)
  | symbol (text : String)
  | fault (cause : Error)
  deriving DecidableEq

namespace Token

/-! Numbers -/

inductive NumberPart where
  | whole
  | fraction
  | exponent
  | signedExponent

/-- The part of a number that a further character belongs to, given what comes behind that. A point
belongs to a number only in front of a digit. -/
def NumberPart.next? (part : NumberPart) (c : Char) (behind : List Char) : Option NumberPart :=
  match part, c with
  | part, '_' => some part
  | whole, '.' => if behind.head?.any Char.isDigit then some fraction else none
  | whole, 'e' | whole, 'E' | fraction, 'e' | fraction, 'E' => some exponent
  | exponent, '+' | exponent, '-' => some signedExponent
  | exponent, c => if c.isDigit then some signedExponent else none
  | part, c => if c.isDigit then some part else none

def scanNumber (part : NumberPart) : List Char → List Char × Bool × List Char
  | [] => ([], part matches .whole, [])
  | c :: cs =>
    match part.next? c cs with
    | some part =>
      let (text, whole, rest) := scanNumber part cs
      (c :: text, whole, rest)
    | none => ([], part matches .whole, c :: cs)

def withoutUnderscores (text : List Char) : Except Error (List Char) :=
  if text.getLast? = some '_' then .error .badSyntax else .ok (text.filter (· != '_'))

def wholeNumber (n : Nat) : Except Error Token :=
  if n < Width.limit 128 then .ok (.int n) else .error .badSyntax

def digitOf (radix : Nat) (c : Char) : Option Nat :=
  let n :=
    if c.isDigit then c.toNat - '0'.toNat
    else if 'a' ≤ c ∧ c ≤ 'f' then c.toNat - 'a'.toNat + 10
    else if 'A' ≤ c ∧ c ≤ 'F' then c.toNat - 'A'.toNat + 10
    else radix
  if n < radix then some n else none

def radix? (c : Char) : Option Nat :=
  match c.toLower with
  | 'b' => some 2
  | 'o' => some 8
  | 'x' => some 16
  | _ => none

def radixNumber (radix : Nat) (cs : List Char) : Except Error (Token × List Char) := do
  let inside := fun (c : Char) => c = '_' || c.isDigit || (digitOf radix c).isSome
  match (← withoutUnderscores (cs.takeWhile inside)).mapM (digitOf radix) with
  | none | some [] => throw .badSyntax
  | some digits =>
    let token ← wholeNumber (digits.foldl (fun n d => n * radix + d) 0)
    return (token, cs.dropWhile inside)

def decimalNumber (cs : List Char) : Except Error (Token × List Char) := do
  let (text, whole, rest) := scanNumber .whole cs
  let text ← withoutUnderscores text
  if whole then return (← wholeNumber (Decimal.ofDigits text), rest)
  match Decimal.ofChars? text with
  | some d => return (.float (.ofDecimal d), rest)
  | none => throw .badSyntax

def number (cs : List Char) : Except Error (Token × List Char) :=
  match cs with
  | '0' :: c :: rest =>
    match radix? c with
    | some radix => radixNumber radix rest
    | none => decimalNumber cs
  | _ => decimalNumber cs

/-! Strings -/

def scanString (quote : Char) : List Char → Option (List Char × List Char)
  | [] => none
  | '\\' :: c :: cs => (scanString quote cs).map fun (text, rest) => ('\\' :: c :: text, rest)
  | c :: cs =>
    if c = quote then some ([], cs)
    else (scanString quote cs).map fun (text, rest) => (c :: text, rest)

def escape? : Char → Option Char
  | 'n' => some '\n'
  | 'r' => some '\r'
  | 't' => some '\t'
  | 'b' => some '\x08'
  | 'f' => some '\x0c'
  | '"' => some '"'
  | '\'' => some '\''
  | '\\' => some '\\'
  | '/' => some '/'
  | _ => none

def digitsValue? (radix : Nat) (cs : List Char) : Option Nat :=
  let digits := match cs with
    | '+' :: c :: rest => c :: rest
    | cs => cs
  (digits.mapM (digitOf radix)).map (·.foldl (fun n d => n * radix + d) 0)

/-- The character that a code unit completes, or the high half of a pair that waits for the low
half. -/
def addUnit (high : Option Nat) (unit : Nat) : Except Error (Option Char × Option Nat) :=
  let isHigh := 0xd800 ≤ unit && unit < 0xdc00
  let isLow := 0xdc00 ≤ unit && unit < 0xe000
  match high with
  | some high =>
    if isLow then .ok (some (.ofNat (0x10000 + (high - 0xd800) * 0x400 + (unit - 0xdc00))), none)
    else .error .badEscape
  | none =>
    if isHigh then .ok (none, some unit)
    else if isLow then .error .badEscape
    else .ok (some (.ofNat unit), none)

def isOctal (c : Char) : Bool := '0' ≤ c && c ≤ '7'

/-- Replaces escapes; `high` is the half of a pair that waits for the other one, and `skip`
characters belong to the last escape. An escape by number has four hexadecimal digits behind a `u`,
two behind an `x`, or up to three octal ones. A backslash in front of anything else stands for
itself. -/
def unescape (high : Option Nat) (skip : Nat) : List Char → Except Error (List Char)
  | [] => if high.isSome then .error .badEscape else .ok []
  | c :: cs =>
    match skip with
    | skip + 1 => unescape high skip cs
    | 0 => do
      let numbered := fun (radix size : Nat) (digits : List Char) =>
        if digits.length = size then
          match digitsValue? radix digits with
          | some unit => .ok unit
          | none => throw Error.badEscape
        else throw .badEscape
      match c, cs with
      | '\\', 'u' :: cs' =>
        let (char, high) ← addUnit high (← numbered 16 4 (cs'.take 4))
        return char.toList ++ (← unescape high 5 cs)
      | _, _ =>
        if high.isSome then throw .badEscape
        match c, cs with
        | '\\', 'x' :: cs' =>
          return .ofNat (← numbered 16 2 (cs'.take 2)) :: (← unescape none 3 cs)
        | '\\', d :: _ =>
          if isOctal d then
            let digits := (cs.take 3).takeWhile isOctal
            let code ← numbered 8 digits.length digits
            if 256 ≤ code then throw .badEscape
            return .ofNat code :: (← unescape none digits.length cs)
          match escape? d with
          | some e => return e :: (← unescape none 1 cs)
          | none => return c :: d :: (← unescape none 1 cs)
        | _, _ => return c :: (← unescape none 0 cs)

def quoted (quote : Char) (cs : List Char) : Except Error (Token × List Char) :=
  match scanString quote cs with
  | none => .error .badSyntax
  | some (text, rest) => do return (.string (.ofList (← unescape none 0 text)), rest)

/-! Tags -/

def isGap (c : Char) : Bool := c = ' ' || c = '\t' || c = '\n' || c = '\x0c' || c = '\r'

def isNameStart (c : Char) : Bool := c.isAlpha || c = '_'
def isNameRest (c : Char) : Bool := c.isAlphanum || c = '_'

def pairs : List String := ["//", "**", "==", "!=", ">=", "<="]

def singles : List Char := "+-*/%~.,:=|()[]\x7b\x7d><".toList

def symbol? : List Char → Option (String × List Char)
  | [] => none
  | c :: cs =>
    match cs with
    | d :: rest =>
      if String.ofList [c, d] ∈ pairs then some (.ofList [c, d], rest)
      else if c ∈ singles then some (.ofList [c], cs)
      else none
    | [] => if c ∈ singles then some (.ofList [c], []) else none

def first (cs : List Char) : Except Error (Token × List Char) :=
  match symbol? cs with
  | some (text, rest) => .ok (.symbol text, rest)
  | none =>
    match cs with
    | [] => .error .badSyntax
    | c :: rest =>
      if c = '\'' || c = '"' then quoted c rest
      else if c.isDigit then number cs
      else if isNameStart c then
        .ok (.name (.ofList (cs.takeWhile isNameRest)), cs.dropWhile isNameRest)
      else .error .badSyntax

def end? (kind : TagKind) (cs : List Char) : Option (Bool × List Char) :=
  let last := match kind with
    | .output => '}'
    | .statement => '%'
  match cs with
  | '-' :: c :: '}' :: rest => if c = last then some (true, rest) else none
  | '+' :: c :: '}' :: rest => if c = last then some (false, rest) else none
  | c :: '}' :: rest => if c = last then some (false, rest) else none
  | _ => none

def nesting : Token → Int
  | .symbol "(" | .symbol "[" | .symbol "\x7b" => 1
  | .symbol ")" | .symbol "]" | .symbol "\x7d" => -1
  | _ => 0

/-- The tokens of a tag and what stands behind it, with the mark that removes blanks there; a tag
ends only outside of brackets. Behind a tag without an end there is nothing. -/
def inTag (kind : TagKind) (fuel : Nat) (depth : Int) (cs : List Char) :
    List Token × Bool × List Char :=
  match fuel with
  | 0 => ([], false, [])
  | fuel + 1 =>
    let cs := cs.dropWhile isGap
    if cs.isEmpty then ([], false, [])
    else
      match if depth = 0 then end? kind cs else none with
      | some (trim, rest) => ([.tagEnd], trim, rest)
      | none =>
        match first cs with
        | .error cause => ([.fault cause], false, [])
        | .ok (token, rest) =>
          let (tokens, trim, rest) := inTag kind fuel (depth + token.nesting) rest
          (token :: tokens, trim, rest)

/-! Templates -/

inductive Marker where
  | tag (kind : TagKind)
  | comment

def marker? : Char → Option Marker
  | '{' => some (.tag .output)
  | '%' => some (.tag .statement)
  | '#' => some .comment
  | _ => none

def splitText : List Char → List Char × Option (Marker × List Char)
  | [] => ([], none)
  | [c] => ([c], none)
  | c :: d :: cs =>
    match if c = '{' then marker? d else none with
    | some m => ([], some (m, cs))
    | none =>
      let (text, next) := splitText (d :: cs)
      (c :: text, next)

def splitMark : List Char → Bool × List Char
  | '-' :: cs => (true, cs)
  | '+' :: cs => (false, cs)
  | cs => (false, cs)

def splitComment : List Char → Option (List Char × List Char)
  | '#' :: '}' :: cs => some ([], cs)
  | c :: cs => (splitComment cs).map fun (text, rest) => (c :: text, rest)
  | [] => none

def wordTag? (word : String) (cs : List Char) : Option (Bool × List Char) := do
  let rest ← word.toList.isPrefixOf? (cs.dropWhile isGap)
  let (trim, rest) := splitMark (rest.dropWhile isGap)
  match rest with
  | '%' :: '}' :: rest => some (trim, rest)
  | _ => none

def splitRaw : List Char → Option (List Char × Bool × Bool × List Char)
  | [] => none
  | c :: cs =>
    let (before, inner) := splitMark cs.tail
    match if c = '{' ∧ cs.head? = some '%' then wordTag? "endraw" inner else none with
    | some (behind, rest) => some ([], before, behind, rest)
    | none => (splitRaw cs).map fun (text, rest) => (c :: text, rest)

def trimEnd (cs : List Char) : List Char := (cs.reverse.dropWhile isBlank).reverse

def ofTextChars (cs : List Char) : List Token := if cs.isEmpty then [] else [.plain cs]

def ofChars (fuel : Nat) (trim : Bool) (cs : List Char) : List Token :=
  match fuel with
  | 0 => []
  | fuel + 1 =>
    let (text, next) := splitText (if trim then cs.dropWhile isBlank else cs)
    match next with
    | none => ofTextChars text
    | some (marker, cs) =>
      let (mark, cs) := splitMark cs
      let text := ofTextChars (if mark then trimEnd text else text)
      match marker with
      | .comment =>
        match splitComment cs with
        | none => text ++ [.fault .badSyntax]
        | some (comment, rest) =>
          text ++ ofChars fuel ((comment.getLast?.map (· == '-')).getD mark) rest
      | .tag kind =>
        match if kind = .statement then wordTag? "raw" cs else none with
        | some (inside, cs) =>
          match splitRaw cs with
          | none => text ++ [.fault .badSyntax]
          | some (raw, before, behind, rest) =>
            let raw := if inside then raw.dropWhile isBlank else raw
            let raw := if before then trimEnd raw else raw
            text ++ ofTextChars raw ++ ofChars fuel behind rest
        | none =>
          let (tokens, trim, rest) := inTag kind (cs.length + 1) 0 cs
          text ++ .tagStart kind :: tokens ++ ofChars fuel trim rest

def ofTemplate (template : String) : List Token :=
  let cs := template.toList
  ofChars (cs.length + 1) false cs

end Token

end JobContainers.Template

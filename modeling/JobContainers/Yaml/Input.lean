/-!
Document text with the place of every character. Line breaks of any kind read as a newline; a NUL
character, written or implied, ends the text.
-/

set_option autoImplicit false

namespace JobContainers.Yaml

structure Located where
  char : Char
  index : Nat
  line : Nat
  column : Nat
  leading : Bool

def isPad (c : Char) : Bool := c = ' ' || c = '\t'
def isBreak (c : Char) : Bool := c = '\n'
def isEnd (c : Char) : Bool := c = '\x00'
def isLineEnd (c : Char) : Bool := isBreak c || isEnd c
def isBoundary (c : Char) : Bool := isPad c || isLineEnd c

def isFlow (c : Char) : Bool := c = ',' || c = '[' || c = ']' || c = '{' || c = '}'

def isWordChar (c : Char) : Bool := c.isAlphanum || c = '_' || c = '-'

def isHexDigit (c : Char) : Bool :=
  c.isDigit || ('a' ≤ c && c ≤ 'f') || ('A' ≤ c && c ≤ 'F')

def hexValue (c : Char) : Nat :=
  if c.isDigit then c.toNat - '0'.toNat
  else if 'a' ≤ c then c.toNat - 'a'.toNat + 10
  else c.toNat - 'A'.toNat + 10

def isAnchorChar (c : Char) : Bool := !isBoundary c && !isFlow c && c != '\ufeff'

def uriMarks : List Char := "#;/?:@&=+$,_.!~*'()[]%".toList

def isUriChar (c : Char) : Bool := c.isAlphanum || c = '-' || uriMarks.contains c

def isTagChar (c : Char) : Bool := isUriChar c && !isFlow c && c != '!'

def locateFrom (index line column : Nat) (leading : Bool) : List Char → List Located
  | [] => [⟨'\x00', index, line, column, leading⟩]
  | '\r' :: '\n' :: cs =>
    ⟨'\n', index, line, column, leading⟩ :: locateFrom (index + 2) (line + 1) 0 true cs
  | c :: cs =>
    if isEnd c then [⟨'\x00', index, line, column, leading⟩]
    else if c = '\n' ∨ c = '\r' then
      ⟨'\n', index, line, column, leading⟩ :: locateFrom (index + 1) (line + 1) 0 true cs
    else ⟨c, index, line, column, leading⟩ ::
      locateFrom (index + 1) line (column + 1) (leading && isPad c) cs

def locate (text : String) : List Located := locateFrom 0 0 0 true text.toList

/-- The character at a distance; behind the end there are only ends. -/
def charAt (cs : List Located) (n : Nat) : Char := (cs[n]?.map (·.char)).getD '\x00'

def peek (cs : List Located) : Char := charAt cs 0

def columnOf (cs : List Located) : Nat := (cs.head?.map (·.column)).getD 0
def lineOf (cs : List Located) : Nat := (cs.head?.map (·.line)).getD 0
def indexOf (cs : List Located) : Nat := (cs.head?.map (·.index)).getD 0
def leadingAt (cs : List Located) : Bool := (cs.head?.map (·.leading)).getD true

def marked (mark : Char) (cs : List Located) : Bool :=
  charAt cs 0 = mark && charAt cs 1 = mark && charAt cs 2 = mark && isBoundary (charAt cs 3)

def startsDocument (cs : List Located) : Bool := marked '-' cs
def endsDocument (cs : List Located) : Bool := marked '.' cs
def bordersDocument (cs : List Located) : Bool := startsDocument cs || endsDocument cs

def spanChars (cls : Char → Bool) (cs : List Located) : List Char × List Located :=
  ((cs.takeWhile (cls ·.char)).map (·.char), cs.dropWhile (cls ·.char))

/-- How the rest of a line is passed: as text, as the inside of a comment, or behind a tab that
leaves room for nothing but blanks and a comment. -/
inductive LineMode where
  | text
  | tabbed
  | comment
  deriving DecidableEq

structure Gap where
  rest : List Located
  tab : Bool
  space : Bool

/-- Passes spaces, tabs and a comment; a comment has a blank in front. -/
def skipGap (tab space : Bool) : List Located → Option Gap
  | [] => some ⟨[], tab, space⟩
  | l :: cs =>
    if l.char = ' ' then skipGap tab true cs
    else if l.char = '\t' then skipGap true space cs
    else if l.char = '#' then
      if tab || space then some ⟨cs.dropWhile (!isLineEnd ·.char), tab, space⟩ else none
    else some ⟨l :: cs, tab, space⟩

def skipBlanks (cs : List Located) : Option (List Located) :=
  (skipGap false false cs).map (·.rest)

end JobContainers.Yaml

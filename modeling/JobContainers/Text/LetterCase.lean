import JobContainers.Text.LetterCase.Mapping
import JobContainers.Text.LetterCase.Property

/-!
Texts in lower and upper case. Characters are changed one by one, but a capital sigma at the end of
a word becomes a final sigma.
-/

set_option autoImplicit false

namespace JobContainers.LetterCase

def meetsCased (cs : List Char) : Bool := ((cs.dropWhile isIgnorable).head?).any isCased

/-- Characters in lower case, `before` being those in front of them, the last one first. -/
def lowerFrom (before : List Char) : List Char → List Char
  | [] => []
  | c :: cs =>
    let lowered :=
      if c = 'Σ' then if meetsCased before && !meetsCased cs then ['ς'] else ['σ']
      else lowerChars c
    lowered ++ lowerFrom (c :: before) cs

def lower (s : String) : String := .ofList (lowerFrom [] s.toList)

def upper (s : String) : String := .ofList (s.toList.flatMap upperChars)

end JobContainers.LetterCase

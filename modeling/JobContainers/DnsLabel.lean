set_option autoImplicit false

namespace JobContainers.DnsLabel

def maxLength : Nat := 63

def normalChar (c : Char) : Char := if c.isAlphanum then c.toLower else '-'

def dropTrailingHyphens (cs : List Char) : List Char :=
  (cs.reverse.dropWhile (· = '-')).reverse

/-- Turns a text into a label; a text without letters and digits becomes empty. -/
def sanitize (s : String) : String :=
  let body := dropTrailingHyphens ((s.toList.map normalChar).dropWhile (· = '-'))
  .ofList (if maxLength < body.length then dropTrailingHyphens (body.take maxLength) else body)

def containerName (job process : String) : String := sanitize (job ++ "-" ++ process)

end JobContainers.DnsLabel

set_option autoImplicit false

namespace JobContainers.FileName

def isAbsolute (name : String) : Bool := name.toList.head? = some '/'

def join (parent name : String) : String :=
  if isAbsolute name then name
  else if parent.isEmpty || parent.toList.getLast? = some '/' then parent ++ name
  else parent ++ "/" ++ name

def split : List Char → List Char × List (List Char)
  | [] => ([], [])
  | c :: cs =>
    let (first, rest) := split cs
    if c = '/' then ([], first :: rest) else (c :: first, rest)

def components (name : String) : List String :=
  let (first, rest) := split name.toList
  (first :: rest).map String.ofList

def parts (name : String) : List String := (components name).filter fun p => p != "" && p != "."

/-- The last part, unless it leads upwards. -/
def base? (name : String) : Option String := (parts name).getLast?.filter (· != "..")

end JobContainers.FileName

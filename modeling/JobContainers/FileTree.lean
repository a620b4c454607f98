import JobContainers.FileName

/-!
Files and folders below one base folder. Reading a file walks its path one part after the other:
every part on the way, a single dot and an empty part included, has to stand in a folder, and two
dots lead back up. Paths that leave the base folder lead to nothing but the root folder.
-/

set_option autoImplicit false

namespace JobContainers

inductive FileError where
  | notFound
  | isDirectory
  | notDirectory
  | invalidUtf8
  deriving DecidableEq, Repr

def FileError.message : FileError → String
  | notFound => "not found"
  | isDirectory => "is a directory"
  | notDirectory => "not a directory"
  | invalidUtf8 => "invalid UTF-8"

namespace FileTree

inductive Node where
  | folder
  | file (content : ByteArray)

abbrev Place := List String

end FileTree

structure FileTree where
  base : String
  nodes : List (FileTree.Place × FileTree.Node)

namespace FileTree

def empty (base : String) : FileTree := ⟨base, []⟩

/-- What stands at a place; the base folder itself is always there. -/
def node? (t : FileTree) (place : Place) : Option Node :=
  if place.isEmpty then some .folder else t.nodes.lookup place

def walk (t : FileTree) (place : Place) : List String → Except FileError Place
  | [] => .ok place
  | part :: rest =>
    match t.node? place with
    | none => .error .notFound
    | some (.file _) => .error .notDirectory
    | some .folder =>
      if part = "" ∨ part = "." then t.walk place rest
      else if part = ".." then
        if place.isEmpty then .error .notFound else t.walk place.dropLast rest
      else t.walk (place ++ [part]) rest

def below? (t : FileTree) (path : String) : Option (List String) :=
  let front := (t.base ++ "/").toList
  if front.isPrefixOf path.toList then
    some (FileName.components (.ofList (path.toList.drop front.length)))
  else none

def readNode (t : FileTree) (place : Place) : Except FileError ByteArray :=
  match t.node? place with
  | none => .error .notFound
  | some .folder => .error .isDirectory
  | some (.file content) => .ok content

def readBytes (t : FileTree) (path : String) : Except FileError ByteArray :=
  match t.below? path with
  | some parts => (t.walk [] parts).bind t.readNode
  | none =>
    if path != "" && (FileName.parts path).isEmpty then .error .isDirectory else .error .notFound

def readText (t : FileTree) (path : String) : Except FileError String := do
  match String.fromUTF8? (← t.readBytes path) with
  | some text => return text
  | none => throw .invalidUtf8

def put (t : FileTree) (place : Place) (node : Node) : FileTree :=
  { t with nodes := (place, node) :: t.nodes.filter (·.1 != place) }

def makeFolder (t : FileTree) (path : String) : FileTree :=
  let place := FileName.parts path
  (List.range place.length).foldl (fun t n => t.put (place.take (n + 1)) .folder) t

def write (t : FileTree) (path : String) (content : ByteArray) : FileTree :=
  let place := FileName.parts path
  let t := (List.range (place.length - 1)).foldl (fun t n => t.put (place.take (n + 1)) .folder) t
  t.put place (.file content)

def remove (t : FileTree) (path : String) : FileTree :=
  let place := FileName.parts path
  { t with nodes := t.nodes.filter fun e => !place.isPrefixOf e.1 }

end FileTree

end JobContainers

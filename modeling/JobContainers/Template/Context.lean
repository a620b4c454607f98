import JobContainers.Manifest
import JobContainers.Template.Evaluation
import JobContainers.Template.Grammar.Statement

set_option autoImplicit false

namespace JobContainers.Template

structure Identity where
  address : String
  az : String
  id : String
  index : Nat
  name : String
  deployment : String
  bootstrap : Bool
  deriving DecidableEq

structure Context where
  properties : Dict Tree
  spec : Identity
  links : Dict JobLink
  deriving DecidableEq

namespace Identity

def unset : Identity := ⟨"", "", "", 0, "", "", false⟩

def ofInstance (i : JobInstance) (deployment : String) : Identity :=
  ⟨i.address, i.az, i.id, i.index, i.name, deployment, i.index = 0⟩

def value (i : Identity) : Value :=
  .declared [("address", .ofString i.address), ("az", .ofString i.az), ("id", .ofString i.id),
    ("index", .int i.index), ("name", .ofString i.name), ("deployment", .ofString i.deployment),
    ("bootstrap", .bool i.bootstrap)]

end Identity

def instanceValue (i : JobInstance) : Value :=
  .declared [("address", .ofString i.address), ("az", .ofString i.az), ("id", .ofString i.id),
    ("index", .int i.index), ("instance", .int i.replica), ("name", .ofString i.name)]

def linkValue (l : JobLink) : Value :=
  .declared [("instances", .ofList (l.instances.map instanceValue)),
    ("properties", .ofTree (.ofDict l.properties))]

namespace Context

def names (c : Context) : Names :=
  [("properties", .ofTree (.ofDict c.properties)), ("spec", c.spec.value),
    ("links", .map .sorted (c.links.entries.map fun e => (.ofString e.1, linkValue e.2)))]

def scope (c : Context) (page : Page) : Scope := ⟨c.names, [.empty], 1, false, page.blocks⟩

end Context

/-- How many calls can be nested: every one opens a frame. -/
def maxCalls : Nat := Scope.maxDepth + 1

def render (template : String) (c : Context) : Except Error String := do
  let page ← Page.ofTemplate template
  let ((_, text), _) ← run (callsTo maxCalls) (c.scope page) "" page.body .empty
  return text

end JobContainers.Template

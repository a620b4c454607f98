import JobContainers.FileName
import JobContainers.Property
import JobContainers.RuntimeConfig

set_option autoImplicit false

namespace JobContainers

open Fields

structure ProvidedLink where
  name : String
  type : String
  /-- Dotted names of the properties that the link exposes. -/
  properties : List String
  deriving DecidableEq

structure ConsumedLink where
  name : String
  type : String
  isOptional : Bool
  deriving DecidableEq

structure PropertyDefinition where
  default : Option Tree
  description : Option String
  deriving DecidableEq

structure JobSpec where
  name : String
  provides : List ProvidedLink
  consumes : List ConsumedLink
  properties : Dict PropertyDefinition
  templates : Dict String
  deriving DecidableEq

def ProvidedLink.codec : Codec ProvidedLink :=
  .record (ProvidedLink.mk <$> required "name" .string (·.name) <*> required "type" .string (·.type)
    <*> defaulted "properties" (.list .string) [] (·.properties))

def ConsumedLink.codec : Codec ConsumedLink :=
  .record (ConsumedLink.mk <$> required "name" .string (·.name) <*> required "type" .string (·.type)
    <*> defaulted "optional" .bool false (·.isOptional))

def PropertyDefinition.codec : Codec PropertyDefinition :=
  .record (PropertyDefinition.mk <$> defaulted "default" (.option .tree) none (·.default)
    <*> optional "description" .string (·.description))

namespace JobSpec

def codec : Codec JobSpec :=
  .record (JobSpec.mk <$> defaulted "name" .string "" (·.name)
    <*> defaulted "provides" (.list ProvidedLink.codec) [] (·.provides)
    <*> defaulted "consumes" (.list ConsumedLink.codec) [] (·.consumes)
    <*> defaulted "properties" (.dict PropertyDefinition.codec) ∅ (·.properties)
    <*> defaulted "templates" (.dict .string) ∅ (·.templates))

def ofDocument (text : String) : Except DocumentError JobSpec := codec.readDocument text

def propertyDefault (spec : JobSpec) (name : String) : Tree :=
  ((spec.properties.get? name).bind (·.default)).getD .null

/-- The defaults of all properties as one tree, set in the order of their names. -/
def defaultProperties (spec : JobSpec) : Dict Tree :=
  spec.properties.keys.foldl (fun d name => Property.set d name (spec.propertyDefault name)) ∅

def templateFor? (spec : JobSpec) (fileName : String) : Option String :=
  (spec.templates.entries.find? fun e => FileName.base? e.2 = some fileName).map (·.1)

end JobSpec

end JobContainers

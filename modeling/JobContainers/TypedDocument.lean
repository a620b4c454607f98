import JobContainers.Codec
import JobContainers.Yaml.Document

set_option autoImplicit false

namespace JobContainers

inductive DocumentError where
  | yaml (cause : Yaml.Error)
  | read (cause : ReadError)
  deriving DecidableEq, Repr

def DocumentError.message : DocumentError → String
  | yaml cause => "yaml error: " ++ cause.message
  | read cause => "serialization error: " ++ cause.message

/-- Reads a document; an empty one stands for a record without fields. -/
def Codec.readDocument {α : Type} (c : Codec α) (text : String) : Except DocumentError α :=
  match Yaml.parse text with
  | .error cause => .error (.yaml cause)
  | .ok .null => (c.read (.map [])).mapError .read
  | .ok t => (c.read t).mapError .read

end JobContainers

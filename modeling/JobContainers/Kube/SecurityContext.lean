import JobContainers.Codec

set_option autoImplicit false

namespace JobContainers

structure Capabilities where
  add : List String
  drop : List String
  deriving DecidableEq

structure SecurityContext where
  capabilities : Option Capabilities
  privileged : Option Bool
  readOnlyRootFilesystem : Option Bool
  runAsNonRoot : Option Bool
  runAsUser : Option Int
  runAsGroup : Option Int
  allowPrivilegeEscalation : Option Bool
  deriving DecidableEq

open Fields

def Capabilities.codec : Codec Capabilities :=
  .record (Capabilities.mk <$> items "add" .string (·.add) <*> items "drop" .string (·.drop))

namespace SecurityContext

def unset : SecurityContext := ⟨none, none, none, none, none, none, none⟩

instance : Inhabited SecurityContext := ⟨unset⟩

def rootUser : Int := 0

def codec : Codec SecurityContext :=
  .record (SecurityContext.mk <$> optional "capabilities" Capabilities.codec (·.capabilities)
    <*> optional "privileged" .bool (·.privileged)
    <*> optional "readOnlyRootFilesystem" .bool (·.readOnlyRootFilesystem)
    <*> optional "runAsNonRoot" .bool (·.runAsNonRoot)
    <*> optional "runAsUser" .int64 (·.runAsUser)
    <*> optional "runAsGroup" .int64 (·.runAsGroup)
    <*> optional "allowPrivilegeEscalation" .bool (·.allowPrivilegeEscalation))

end SecurityContext

end JobContainers

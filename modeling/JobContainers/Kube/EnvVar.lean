import JobContainers.Codec

set_option autoImplicit false

namespace JobContainers

structure FieldSelector where
  fieldPath : String
  deriving DecidableEq

structure SecretKey where
  name : String
  key : String
  deriving DecidableEq

structure EnvSource where
  fieldRef : Option FieldSelector
  secretKeyRef : Option SecretKey
  deriving DecidableEq

structure EnvVar where
  name : String
  value : Option String
  valueFrom : Option EnvSource
  deriving DecidableEq

open Fields

def FieldSelector.codec : Codec FieldSelector :=
  .record (FieldSelector.mk <$> required "fieldPath" .string (·.fieldPath))

def SecretKey.codec : Codec SecretKey :=
  .record (SecretKey.mk <$> required "name" .string (·.name) <*> required "key" .string (·.key))

def EnvSource.codec : Codec EnvSource :=
  .record (EnvSource.mk <$> optional "fieldRef" FieldSelector.codec (·.fieldRef)
    <*> optional "secretKeyRef" SecretKey.codec (·.secretKeyRef))

namespace EnvVar

def codec : Codec EnvVar :=
  .record (EnvVar.mk <$> required "name" .string (·.name) <*> optional "value" .string (·.value)
    <*> optional "valueFrom" EnvSource.codec (·.valueFrom))

def literal (name value : String) : EnvVar := ⟨name, some value, none⟩

def ofField (name path : String) : EnvVar := ⟨name, none, some ⟨some ⟨path⟩, none⟩⟩

end EnvVar

end JobContainers

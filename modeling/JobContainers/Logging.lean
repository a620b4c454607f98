set_option autoImplicit false

namespace JobContainers

structure LoggingConfig where
  defaultFilter : String
  /-- Lines of structured data instead of text. -/
  json : Bool
  deriving DecidableEq, Repr

def LoggingConfig.ofFormat (format : Option String) : LoggingConfig where
  defaultFilter := "info,boshpod=debug"
  json := format.any fun f => f.toList.map Char.toLower = "json".toList

end JobContainers

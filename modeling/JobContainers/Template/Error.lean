set_option autoImplicit false

namespace JobContainers.Template

inductive Error where
  | undefinedValue
  /-- A property that is looked up by name is missing and has no default. -/
  | propertyNotFound (path : String)
  | requiredUndefined
  | badSyntax
  | badEscape
  | invalidOperation
  | missingArgument
  | tooManyArguments
  | cannotUnpack
  | unknownFilter
  | unknownFunction
  | unknownMethod
  | unknownTest
  | unknownBlock
  | templateNotFound
  deriving DecidableEq, Repr

namespace Error

def description : Error → String
  | undefinedValue => "undefined value"
  | propertyNotFound path => "undefined value: can't find property '" ++ path ++ "'"
  | requiredUndefined => "undefined value: required value is undefined"
  | badSyntax => "syntax error"
  | badEscape => "bad string escape"
  | invalidOperation => "invalid operation"
  | missingArgument => "missing argument"
  | tooManyArguments => "too many arguments"
  | cannotUnpack => "cannot unpack"
  | unknownFilter => "unknown filter"
  | unknownFunction => "unknown function"
  | unknownMethod => "unknown method"
  | unknownTest => "unknown test"
  | unknownBlock => "unknown block"
  | templateNotFound => "template not found"

def message (e : Error) : String := "template render error: " ++ e.description

end Error

end JobContainers.Template

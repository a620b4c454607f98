import JobContainers.FileTree
import JobContainers.Quantity
import JobContainers.Template.Error
import JobContainers.TypedDocument

set_option autoImplicit false

namespace JobContainers

inductive SpecFault where
  | unreadable (path : String) (cause : FileError)
  | document (cause : DocumentError)
  | notCollected
  deriving DecidableEq

inductive RenderFault where
  | unreadable (path : String) (cause : FileError)
  | template (cause : Template.Error)
  | document (cause : DocumentError)
  deriving DecidableEq

inductive LinkSettings where
  | provides
  | consumes
  deriving DecidableEq

inductive LimitKind where
  | memory
  | cpu
  deriving DecidableEq

inductive CompileError where
  | specLoad (release job : String) (cause : SpecFault)
  | duplicateProvider (type name : String)
  | mandatoryLinkNil (job consumer : String)
  | unresolvedLink (job consumer type name : String)
  | templateNotFound (job : String)
  | templateRender (job : String) (cause : RenderFault)
  | quantityParse (kind : LimitKind) (value job process : String) (cause : QuantityError)
  | imageLookup (group job : String) (detail : String)
  | missingConfig (job : String)
  | groupNotFound (group : String)
  /-- The settings of a link are neither a mapping nor, for a consumer, nil. -/
  | invalidManifest (job : String) (settings : LinkSettings) (entry : String) (found : Tree)
  deriving DecidableEq

def SpecFault.message : SpecFault → String
  | unreadable path cause => path ++ ": " ++ cause.message
  | document cause => cause.message
  | notCollected => "job spec was not collected"

def RenderFault.message : RenderFault → String
  | unreadable path cause => "failed to read template " ++ path ++ ": " ++ cause.message
  | template cause => cause.message
  | document cause => cause.message

def LinkSettings.key : LinkSettings → String
  | provides => "provides"
  | consumes => "consumes"

def LimitKind.key : LimitKind → String
  | memory => "memory"
  | cpu => "cpu"

def CompileError.message : CompileError → String
  | specLoad release job cause =>
    "failed to load job spec for " ++ release ++ "/" ++ job ++ ": " ++ cause.message
  | duplicateProvider type name =>
    "multiple providers for link: name=" ++ name ++ " type=" ++ type
  | mandatoryLinkNil job consumer =>
    "mandatory link of consumer " ++ consumer ++ " in job " ++ job ++ " is explicitly set to nil"
  | unresolvedLink job consumer type name =>
    "cannot resolve non-optional link for consumer " ++ consumer ++ " in job " ++ job
      ++ " (type=" ++ type ++ ", name=" ++ name ++ ")"
  | templateNotFound job => "can't find BPM template for job " ++ job
  | templateRender job cause =>
    "failed to render BPM config for job " ++ job ++ ": " ++ cause.message
  | quantityParse kind value job process cause =>
    "error parsing " ++ kind.key ++ " limit '" ++ value ++ "' for " ++ job ++ "/" ++ process ++ ": "
      ++ cause.message
  | imageLookup group job detail =>
    "failed to look up image for job " ++ job ++ " in instance group " ++ group ++ ": " ++ detail
  | missingConfig job =>
    "failed to lookup bpm config for bosh job '" ++ job ++ "' in bpm configs"
  | groupNotFound group => "can't find instance group '" ++ group ++ "' in manifest"
  | invalidManifest job settings entry found =>
    "invalid manifest for job " ++ job ++ ": " ++ settings.key ++ " entry '" ++ entry
      ++ "' should be a map, got " ++ found.text

end JobContainers

import PathRouting.Regex.Fault
import PathRouting.Url.Fault

/-!
What can go wrong when routes are declared and when paths are generated. That no route matches a
request is not an error.

Causes are constructors; `Error.message` is the only place that words them.
-/

namespace PathRouting

/-- What is wrong with a path template or a host pattern. Indices count bytes from the start of the
template. The last is a fault that a caller reports in its own words. -/
inductive TemplateFault where
  | emptyName (index : Nat)
  | unbalancedClose (index : Nat)
  | unbalancedOpen (index : Nat)
  | strayOptional (index : Nat)
  | duplicateName (name : String)
  | invalidConstraint (key : String) (fault : Regex.Fault)
  | unknownConstraint (key : String)
  | invalidHostPattern (fault : Regex.Fault)
  | other (message : String)
  deriving DecidableEq, Repr

/-- What is wrong with a setting. -/
inductive SettingFault where
  | notBoolean (value : String)
  | other (message : String)
  deriving DecidableEq, Repr

/-- The errors of the library. -/
inductive Error where
  | template (pattern : String) (fault : TemplateFault)
  | unsupportedVerb (verb : String)
  | expansion (pattern : String) (given missing : List String)
  | nameNotFound (name : String)
  | unknownHelper (accessor : String)
  | unresolvedController (name : String)
  | invalidBaseUrl (url : String) (fault : Url.Fault)
  | setting (field : String) (fault : SettingFault)
  deriving DecidableEq, Repr

/-- The text, with the detail of a fault after a colon if there is one. -/
def withDetail (text : String) (fault : Regex.Fault) : String :=
  match fault.detail? with
  | some detail => text ++ ": " ++ detail
  | none => text

/-- The fault in words. -/
def TemplateFault.message : TemplateFault → String
  | .emptyName index => s!"empty capture name at index {index}"
  | .unbalancedClose index => s!"unbalanced ')' at index {index}"
  | .unbalancedOpen index => s!"unbalanced '(' at index {index}"
  | .strayOptional index => s!"'?' at index {index} does not follow a group, capture or character"
  | .duplicateName name => s!"duplicate capture name '{name}'"
  | .invalidConstraint key fault => withDetail s!"invalid constraint for '{key}'" fault
  | .unknownConstraint key => s!"constraint given for unknown key '{key}'"
  | .invalidHostPattern fault => withDetail "invalid host pattern" fault
  | .other message => message

/-- The fault in words. -/
def SettingFault.message : SettingFault → String
  | .notBoolean value => s!"expected true or false, got '{value}'"
  | .other message => message

/-- The error in words. -/
def Error.message : Error → String
  | .template pattern fault => s!"Invalid route pattern '{pattern}': {fault.message}"
  | .unsupportedVerb verb => s!"Unsupported verb '{verb}'"
  | .expansion pattern given missing =>
    let keys := ", ".intercalate given
    let absent := ", ".intercalate missing
    s!"cannot expand '{pattern}' with keys [{keys}]: missing key(s) {absent}"
  | .nameNotFound name => s!"No route called '{name}' was found"
  | .unknownHelper accessor =>
    s!"Unknown route helper '{accessor}', expected a '_path' or '_url' suffix"
  | .unresolvedController name => s!"Controller '{name}' is not registered"
  | .invalidBaseUrl url fault => s!"Invalid base URL '{url}': {fault.message}"
  | .setting field fault => s!"Configuration error for '{field}': {fault.message}"

/-- Whether the error arises while routes are declared, rather than when they are used. -/
def Error.isBuildError : Error → Bool
  | .template .. | .unsupportedVerb _ | .invalidBaseUrl .. | .setting .. => true
  | .expansion .. | .nameNotFound _ | .unknownHelper _ | .unresolvedController _ => false

end PathRouting

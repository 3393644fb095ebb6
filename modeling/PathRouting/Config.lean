import PathRouting.Document
import PathRouting.Error
import PathRouting.Url.Base

/-!
Settings of a router: the base of absolute URLs, and whether the host that a proxy forwards is
trusted.
-/

namespace PathRouting

/-- The settings of a router. -/
structure Config where
  baseUrl : String := "http://localhost:9292"
  trustForwardedHost : Bool := true
  deriving DecidableEq, Repr

namespace Config

/-- What absolute URLs have in front of their paths. -/
def base (config : Config) : Except Error Url.Base :=
  (Url.Base.parse config.baseUrl).mapError (.invalidBaseUrl config.baseUrl)

/-- Whether the settings can be used. -/
def validate (config : Config) : Except Error Unit :=
  config.base.map fun _ => ()

/-- The name of the setting that says whether forwarded hosts are trusted. -/
def trustName : String := "trust_forwarded_host"

/-- The setting that a text writes. -/
def readTrust (value : String) : Except Error Bool :=
  match value with
  | "true" => .ok true
  | "false" => .ok false
  | _ => .error (.setting trustName (.notBoolean value))

/-- The settings that the values of two variables write. A variable that is not set leaves the
setting as it is by default. -/
def ofVariables (baseUrl trustForwardedHost : Option String) : Except Error Config := do
  let default : Config := {}
  let trust ← (trustForwardedHost.map readTrust).getD (.ok default.trustForwardedHost)
  let config : Config := ⟨baseUrl.getD default.baseUrl, trust⟩
  config.validate
  return config

/-- The settings that a document holds. -/
def ofDocument? (document : Document) : Option Config := do
  match ← document.fields? ["base_url", trustName] with
  | [some baseUrl, some trust] => return ⟨← baseUrl.text?, ← trust.bool?⟩
  | _ => none

end Config

end PathRouting

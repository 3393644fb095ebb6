import PathRouting.Http.Header
import PathRouting.Http.Uri
import PathRouting.Params
import PathRouting.Text.Pieces
import PathRouting.Unicode.Blank

/-!
The environment of a request: what is known of the request itself, and what routing has found out
about it.

The host that a request is for is found out once. From then on the environment remembers it, also if
the fields it was taken from change.
-/

namespace PathRouting

open PathRouting.Text

/-- What an endpoint is given, and may change. -/
structure Env where
  method : Http.Method
  path : String
  forwardedHost : Option String := none
  host : Option String := none
  serverName : Option String := none
  serverAddr : Option String := none
  extensions : SortedMap String := {}
  params : Params := {}
  controller : Option String := none
  action : Option String := none
  /-- The answer that was given when the host was asked for the first time. -/
  rememberedHost : Option (Option String) := none
  deriving DecidableEq, Repr

namespace Env

/-- The environment of a `GET` request for a path. -/
def get (path : String) : Env where
  method := ⟨"GET"⟩
  path := path

/-! ### The host -/

/-- The host that the last proxy wrote down: the last of the texts between commas, without blanks
around it, unless it is empty. -/
def lastForwarded? (value : String) : Option String :=
  let last := Unicode.trimBlanks ((pieces ',' value.toList).getLastD [])
  if last.isEmpty then none else some (String.ofList last)

/-- The host by the fields: the forwarded one if it is trusted, else the first that is present. -/
def hostByFields (env : Env) (trustForwarded : Bool) : Option String :=
  let forwarded := if trustForwarded then env.forwardedHost.bind lastForwarded? else none
  (((forwarded.or env.host).or env.serverName).or env.serverAddr)

/-- The host that the request is for. -/
def resolvedHost (env : Env) (trustForwarded : Bool) : Option String :=
  env.rememberedHost.getD (env.hostByFields trustForwarded)

/-- The environment after the host was asked for. -/
def rememberHost (env : Env) (trustForwarded : Bool) : Env :=
  { env with rememberedHost := some (env.resolvedHost trustForwarded) }

theorem resolvedHost_rememberHost (env : Env) (first later : Bool) :
    (env.rememberHost first).resolvedHost later = env.resolvedHost first := rfl

/-! ### Changes -/

/-- Values for some fields of an environment. -/
structure Update where
  method : Option Http.Method := none
  path : Option String := none
  forwardedHost : Option String := none
  host : Option String := none
  serverName : Option String := none
  serverAddr : Option String := none
  extensions : List (String × String) := []
  params : Params := {}
  controller : Option String := none
  action : Option String := none

/-- The environment with the fields that the update gives. Extensions and parameters are added to
those that are there. -/
def update (env : Env) (u : Update) : Env :=
  { env with
    method := u.method.getD env.method
    path := u.path.getD env.path
    forwardedHost := u.forwardedHost.or env.forwardedHost
    host := u.host.or env.host
    serverName := u.serverName.or env.serverName
    serverAddr := u.serverAddr.or env.serverAddr
    extensions := env.extensions.insertMany u.extensions
    params := env.params.merge u.params
    controller := u.controller.or env.controller
    action := u.action.or env.action }

/-! ### Requests -/

/-- The name of the field in which a proxy writes the host it was asked for. -/
def forwardedHostName : String := "x-forwarded-host"

/-- The environment of a request. The path is that of the target, and the server name is the host of
the target. The other hosts are the first values of their header fields, where they are visible. -/
def ofRequest (method : Http.Method) (target : Http.Uri) (headers : Http.Headers) : Env where
  method := method
  path := target.path
  forwardedHost := headers.text? forwardedHostName
  host := headers.text? "host"
  serverName := target.host

/-- The header fields that the texts write, appended in order, if all are well-formed. -/
def headersOf? (fields : List (String × String)) : Option Http.Headers :=
  fields.foldlM
    (fun headers field => do
      let name ← Http.HeaderName.ofText? field.1
      let value ← Http.HeaderValue.ofText? field.2
      return headers.append name value)
    {}

/-- The environment of the request that the texts write, if all of them are well-formed. -/
def ofRequestText? (method target : String) (fields : List (String × String)) : Option Env := do
  let m ← Http.Method.ofText? method
  let t ← Http.Uri.ofText? target
  let headers ← headersOf? fields
  return ofRequest m t headers

end Env

end PathRouting

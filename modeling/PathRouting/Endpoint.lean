import PathRouting.Config
import PathRouting.Env
import PathRouting.Response
import PathRouting.Template.Basic
import PathRouting.Verb

/-!
What answers requests: handlers and routers.

The entries of a router lead to endpoints, and a router is an endpoint itself. So endpoints,
targets, routes, mounts, entries and routers are declared together; what each of them does is in the
modules that follow.
-/

namespace PathRouting

/-- Code that answers requests: it gives a response, and leaves the environment as it is or
changed. -/
abbrev Handler := Env → Response × Env

mutual

/-- What answers requests. -/
inductive Endpoint where
  | handler (h : Handler)
  | router (r : Router)

/-- Where a route leads: to an endpoint, or to a controller that is looked up by name when the route
is called, with the action it is to take. -/
inductive Target where
  | endpoint (e : Endpoint)
  | controller (name : String) (action : Option String)

/-- A compiled route. -/
structure Route where
  path : String
  template : Template
  target : Target
  name : Option String

/-- A compiled mount. -/
structure Mount where
  route : Route
  hostPattern : Option Regex.Pattern

/-- What a router holds. -/
inductive Entry where
  | route (r : Route)
  | mount (m : Mount)

/-- A router: entries in the order in which they were registered, an index of them by verb and one
by name. The indices hold positions among the entries. -/
structure Router where
  config : Config := {}
  base : Url.Base := ⟨"http", "localhost", some 9292⟩
  entries : Array Entry := #[]
  byVerb : OrderedMap Verb (List Nat) := {}
  named : OrderedMap String Nat := {}

end

end PathRouting

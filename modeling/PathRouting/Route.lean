import PathRouting.Target
import PathRouting.Template.Expand
import PathRouting.Template.Match

/-!
Routes and mounts. A route leads from the paths of a template to a target; a mount leads from all
paths that begin as its template says, and may be for some hosts only.
-/

namespace PathRouting

/-! ### Declarations -/

/-- Where a declared route is to lead: to what a reference names, or to an endpoint. -/
inductive Destination where
  | reference (text : String)
  | endpoint (e : Endpoint)

/-- The target that is meant. -/
def Destination.target : Destination → Target
  | reference text => .ofReference text
  | endpoint e => .endpoint e

/-- What a route is declared with besides its verb and path. Constraints are given by the names they
are for, in order. -/
structure RouteSpec where
  destination : Destination
  name : Option String := none
  constraints : List (String × String) := []

/-! ### Routes -/

namespace Route

/-- The route that is declared for a path. The path is cleaned before it is compiled. -/
def create (path : String) (spec : RouteSpec) : Except Error Route := do
  let cleaned := Naming.cleanPath path
  let template ← Template.compile cleaned spec.constraints
  return ⟨cleaned, template, spec.destination.target, spec.name.map Naming.routeName⟩

/-- The parameters of a path that the route matches as a whole. -/
def match? (r : Route) (path : String) : Option Params :=
  r.template.match? path

/-- The path that the arguments give, with those that it does not use in a query string. -/
def expand (r : Route) (args : Args) : Except Error String :=
  r.template.expandWithQuery args

end Route

/-! ### Mounts -/

namespace Mount

/-- The mount of an endpoint at a path, for the hosts that a pattern matches if one is given. -/
def create (path : String) (endpoint : Endpoint) (host : Option String) : Except Error Mount := do
  let route ← Route.create path { destination := .endpoint endpoint }
  match host with
  | none => return ⟨route, none⟩
  | some source =>
    match Regex.Pattern.compile source with
    | .ok pattern => return ⟨route, some pattern⟩
    | .error fault => throw (.template source (.invalidHostPattern fault))

/-- Whether the mount is for the host of the request. -/
def acceptsHost (m : Mount) (env : Env) (trustForwarded : Bool) : Bool :=
  m.hostPattern.all fun pattern => (env.resolvedHost trustForwarded).any pattern.isMatch

/-- The parameters of a request that the mount matches: its host is accepted, and its path begins as
the template says. -/
def match? (m : Mount) (env : Env) (trustForwarded : Bool) : Option Params :=
  if m.acceptsHost env trustForwarded then (m.route.template.peek? env.path).map Prod.snd else none

end Mount

/-! ### Entries -/

namespace Entry

/-- The route itself, or the one in the mount. -/
def toRoute : Entry → Route
  | route r => r
  | mount m => m.route

/-- Whether the entry is a mount. -/
def isMount : Entry → Bool
  | route _ => false
  | mount _ => true

/-- The pattern that the host has to match. -/
def hostPattern? : Entry → Option Regex.Pattern
  | route _ => none
  | mount m => m.hostPattern

/-- The parameters of a request that the entry matches. -/
def match? (e : Entry) (env : Env) (trustForwarded : Bool) : Option Params :=
  match e with
  | route r => r.match? env.path
  | mount m => m.match? env trustForwarded

theorem match?_route (r : Route) (env : Env) (trustForwarded : Bool) :
    (route r).match? env trustForwarded = r.template.match? env.path := rfl

theorem match?_mount (m : Mount) (env : Env) (trustForwarded : Bool) :
    (mount m).match? env trustForwarded =
      if m.acceptsHost env trustForwarded then (m.route.template.peek? env.path).map Prod.snd
      else none := rfl

end Entry

end PathRouting

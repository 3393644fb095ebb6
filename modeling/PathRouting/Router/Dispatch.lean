import PathRouting.Router.Basic

/-!
Finding the entry for a request and calling its target. The first entry for the verb that matches
wins. That none does is no error: the answer is then `Response.notFound`.

Routers call each other, also through controllers that are registered while they are called. So a
call need not come back, and then it has no answer: a router that is a controller may lead to
itself.
-/

namespace PathRouting

namespace Router

/-- The entry that a request was recognized as, and the parameters that it gives. -/
structure Match where
  entry : Entry
  params : Params

/-- The entries that are tried for a method, in order. There are none for a method that is no
verb. -/
def candidates (r : Router) (method : Http.Method) : List Entry :=
  match Verb.ofMethod method with
  | .ok verb => (r.positions verb).filterMap (r.entries[·]?)
  | .error _ => []

theorem candidates_method (r : Router) (verb : Verb) :
    r.candidates verb.method = (r.positions verb).filterMap (r.entries[·]?) := by
  rw [candidates, Verb.ofMethod_method]

/-- The first match of a list of entries. -/
def firstMatch (trustForwarded : Bool) (env : Env) (entries : List Entry) : Option Match :=
  entries.findSome? fun entry => (entry.match? env trustForwarded).map (⟨entry, ·⟩)

/-- The entry that a request is recognized as. -/
def recognize (r : Router) (env : Env) : Option Match :=
  firstMatch r.config.trustForwardedHost env (r.candidates env.method)

/-- Whether an entry that asks for the host is tried, up to the first match. -/
def asksHost (trustForwarded : Bool) (env : Env) : List Entry → Bool
  | [] => false
  | entry :: rest =>
    entry.hostPattern?.isSome ||
      ((entry.match? env trustForwarded).isNone && asksHost trustForwarded env rest)

/-- The environment after an attempt to recognize it: the host is remembered if it was asked for. -/
def settle (r : Router) (env : Env) : Env :=
  let trust := r.config.trustForwardedHost
  if asksHost trust env (r.candidates env.method) then env.rememberHost trust else env

end Router

/-! ### Calls -/

/-- What is asked to answer: it looks into the registry, changes the environment, and need not come
back. -/
abbrev Call (α : Type) := ReaderT Registry (StateT Env Option) α

/-- The response that is given for a result. An error is one of the server. -/
def Response.ofResult : Except Error Response → Response
  | .ok response => response
  | .error error => { status := .internalError, body := error.message }

mutual

/-- The answer of a target. What it calls finds the target written down in the environment, and an
error leaves it so. -/
def Target.call (t : Target) : Call (Except Error Response) := fun registry env =>
  match t.resolve registry with
  | .ok endpoint => do
    let (response, after) ← (endpoint.call.run registry).run (t.entered env)
    return (.ok response, after)
  | .error error => some (.error error, t.entered env)
partial_fixpoint

/-- The answer of a router. The parameters of the match are added to those that are there before the
target is called. -/
def Router.call (r : Router) : Call (Except Error Response) := fun registry env =>
  let settled := r.settle env
  match r.recognize env with
  | some found =>
    (found.entry.toRoute.target.call.run registry).run
      { settled with params := settled.params.merge found.params }
  | none => some (.ok .notFound, settled)
partial_fixpoint

/-- The answer of an endpoint. If it is a router, errors become responses. -/
def Endpoint.call (e : Endpoint) : Call Response := fun registry env =>
  match e with
  | .handler h => some (h env)
  | .router r => do
    let (result, after) ← (r.call.run registry).run env
    return (.ofResult result, after)
partial_fixpoint

end

section

variable {registry : Registry}

theorem Target.call_of_ok {t : Target} {e : Endpoint} (resolved : t.resolve registry = .ok e)
    (env : Env) :
    t.call registry env = (e.call registry (t.entered env)).map (Prod.map .ok id) := by
  rw [Target.call, resolved]
  change (e.call registry (t.entered env)).bind _ = _
  cases e.call registry (t.entered env) with
  | none => rfl
  | some answered => rfl

theorem Target.call_of_error {t : Target} {error : Error}
    (refused : t.resolve registry = .error error) (env : Env) :
    t.call registry env = some (.error error, t.entered env) := by
  rw [Target.call, refused]

theorem Router.call_of_some {r : Router} {env : Env} {found : Match}
    (recognized : r.recognize env = some found) :
    r.call registry env =
      found.entry.toRoute.target.call registry
        { r.settle env with params := (r.settle env).params.merge found.params } := by
  rw [Router.call, recognized]
  rfl

theorem Router.call_of_none {r : Router} {env : Env} (nothing : r.recognize env = none) :
    r.call registry env = some (.ok .notFound, r.settle env) := by
  rw [Router.call, nothing]

theorem Endpoint.call_handler (h : Handler) (env : Env) :
    (handler h).call registry env = some (h env) := by
  rw [Endpoint.call]

theorem Endpoint.call_router (r : Router) (env : Env) :
    (router r).call registry env = (r.call registry env).map (Prod.map .ofResult id) := by
  rw [Endpoint.call]
  change (r.call registry env).bind _ = _
  cases r.call registry env with
  | none => rfl
  | some answered => rfl

end

end PathRouting

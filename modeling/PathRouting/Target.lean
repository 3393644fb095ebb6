import PathRouting.Error
import PathRouting.Registry
import PathRouting.Text.Pieces

/-!
Targets of routes: an endpoint itself, or a controller that is looked up by name when the route is
called, with the action it is to take.
-/

namespace PathRouting.Target

/-- The target that a reference such as `books#show` names. The controller is classified, and an
empty action is none. -/
def ofReference (reference : String) : Target :=
  let cs := reference.toList
  let action := (cs.dropWhile (· ≠ '#')).drop 1
  .controller (Naming.classify (String.ofList (cs.takeWhile (· ≠ '#'))))
    (if action.isEmpty then none else some (String.ofList action))

/-- The name of the controller. -/
def controllerName? : Target → Option String
  | endpoint _ => none
  | controller name _ => some name

/-- The action that the controller is to take. -/
def action? : Target → Option String
  | endpoint _ => none
  | controller _ action => action

/-- The target in words, for listings. -/
def describe : Target → String
  | endpoint _ => "<handler>"
  | controller name (some action) => name ++ "#" ++ action
  | controller name none => name

/-- What the target calls: the endpoint itself, or the controller that is registered now. -/
def resolve (registry : Registry) : Target → Except Error Endpoint
  | endpoint e => .ok e
  | controller name _ => (registry.resolve? name).elim (.error (.unresolvedController name)) .ok

/-- The environment in which the target calls it: the target is written down in it. -/
def entered (env : Env) : Target → Env
  | endpoint _ => { env with controller := none, action := none }
  | controller name action => { env with controller := some name, action := action }

end PathRouting.Target

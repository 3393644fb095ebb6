import PathRouting.Router.Basic

/-!
Scopes. What is registered in a scope has a path, a namespace of controllers and a name in front of
its own; scopes in scopes put theirs in front of one another from the inside out.
-/

namespace PathRouting.Router

/-- What a scope puts in front. -/
structure Scope where
  path : Option String := none
  namespaceName : Option String := none
  name : Option String := none
  deriving DecidableEq, Repr

namespace Scope

/-- The scope that puts the same text in front of paths, controllers and names. -/
def ofName (name : String) : Scope :=
  ⟨some name, some name, some name⟩

/-- The path in the scope. -/
def joinPath (scope : Scope) (path : String) : String :=
  Naming.join [scope.path, some path] "/"

/-- The destination in the scope. Only references have a namespace. -/
def joinDestination (scope : Scope) : Destination → Destination
  | .reference text => .reference (Naming.join [scope.namespaceName, some text] "/")
  | .endpoint e => .endpoint e

/-- The declaration of a route in the scope. A route without a name stays without one. -/
def joinSpec (scope : Scope) (spec : RouteSpec) : RouteSpec :=
  { spec with
    destination := scope.joinDestination spec.destination
    name := spec.name.map fun name => Naming.join [scope.name, some name] "/" }

end Scope

/-- The registration as it is made in a scope. -/
def Registration.within (registration : Registration) (scope : Scope) : Registration :=
  match registration with
  | .route verb path spec => .route verb (scope.joinPath path) (scope.joinSpec spec)
  | .mount path endpoint host => .mount (scope.joinPath path) endpoint host

/-- Registers in scopes, which are given from the inside out. -/
def registerWithin (r : Router) (scopes : List Scope) (registration : Registration) :
    Except Error (Entry × Router) :=
  r.register (scopes.foldl Registration.within registration)

end PathRouting.Router

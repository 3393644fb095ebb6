import PathRouting.Endpoint
import PathRouting.Naming

/-!
Controllers by name. Routes name controllers and look them up when they are called, so a controller
may be registered after the routes that name it.

Main statements: `resolve?_register` and `resolve?_unregister`.
-/

namespace PathRouting

/-- The registered controllers, by classified name. -/
structure Registry where
  controllers : SortedMap Endpoint := {}

namespace Registry

/-- The registry with a controller for a name, in place of the one it may have had. -/
def register (r : Registry) (name : String) (controller : Endpoint) : Registry :=
  ⟨r.controllers.insert (Naming.classify name) controller⟩

/-- The registry without the controller of a name. -/
def unregister (r : Registry) (name : String) : Registry :=
  ⟨r.controllers.erase (Naming.classify name)⟩

/-- The controller of a name. -/
def resolve? (r : Registry) (name : String) : Option Endpoint :=
  r.controllers.get? (Naming.classify name)

/-- Whether the name has a controller. -/
def isRegistered (r : Registry) (name : String) : Bool :=
  (r.resolve? name).isSome

/-- The classified names in order. -/
def names (r : Registry) : List String :=
  r.controllers.keys

/-- One change of the registry. -/
inductive Change where
  | register (name : String) (controller : Endpoint)
  | unregister (name : String)

/-- The registry after a change. -/
def change (r : Registry) : Change → Registry
  | .register name controller => r.register name controller
  | .unregister name => r.unregister name

@[simp] theorem resolve?_register (r : Registry) (name : String) (controller : Endpoint)
    (other : String) : (r.register name controller).resolve? other =
      if Naming.classify other = Naming.classify name then some controller
      else r.resolve? other := by
  simp [register, resolve?]

@[simp] theorem resolve?_unregister (r : Registry) (name other : String) :
    (r.unregister name).resolve? other =
      if Naming.classify other = Naming.classify name then none else r.resolve? other := by
  simp [unregister, resolve?]

end Registry

end PathRouting

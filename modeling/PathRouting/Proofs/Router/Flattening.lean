import PathRouting.Proofs.LateBinding
import PathRouting.Proofs.Naming.Joined
import PathRouting.Proofs.Router.Record

/-!
Scopes in scopes, and the one registration that they amount to.

`Registration.prefixed` joins all that the scopes put in front at once, from the outermost inwards.
Main statements: `registerWithin_reverse` (scope by scope is the same as at once), `run_nested` (so
is a registration in steps of building), `entry_prefixed_route_eq_ok` (what is stored of a route).
-/

namespace PathRouting.Router

open Naming (join kept)

/-! ### All scopes at once -/

/-- The destination in scopes, the outermost first. Only references have namespaces. -/
def Scope.prefixDestination (scopes : List Scope) : Destination → Destination
  | .reference text => .reference (join (scopes.map Scope.namespaceName ++ [some text]) "/")
  | .endpoint e => .endpoint e

/-- The declaration of a route in scopes, the outermost first. A route without a name stays without
one. -/
def Scope.prefixSpec (scopes : List Scope) (spec : RouteSpec) : RouteSpec :=
  { spec with
    destination := prefixDestination scopes spec.destination
    name := spec.name.map fun name => join (scopes.map Scope.name ++ [some name]) "/" }

/-- The registration in scopes, the outermost first. A mount only has its path prefixed. -/
def Registration.prefixed (scopes : List Scope) : Registration → Registration
  | .route verb path spec =>
    .route verb (join (scopes.map Scope.path ++ [some path]) "/") (Scope.prefixSpec scopes spec)
  | .mount path endpoint host =>
    .mount (join (scopes.map Scope.path ++ [some path]) "/") endpoint host

theorem prefixDestination_nil (destination : Destination) :
    Scope.prefixDestination [] destination = destination := by
  cases destination with
  | reference text => simp [Scope.prefixDestination]
  | endpoint e => rfl

theorem prefixSpec_nil (spec : RouteSpec) : Scope.prefixSpec [] spec = spec := by
  obtain ⟨destination, name, constraints⟩ := spec
  cases name with
  | none => simp [Scope.prefixSpec, prefixDestination_nil]
  | some name => simp [Scope.prefixSpec, prefixDestination_nil]

theorem prefixed_nil (registration : Registration) : registration.prefixed [] = registration := by
  cases registration with
  | route verb path spec => simp [Registration.prefixed, prefixSpec_nil]
  | mount path endpoint host => simp [Registration.prefixed]

theorem joinSpec_prefixSpec (scope : Scope) (scopes : List Scope) (spec : RouteSpec) :
    scope.joinSpec (Scope.prefixSpec scopes spec) = Scope.prefixSpec (scope :: scopes) spec := by
  obtain ⟨destination, name, constraints⟩ := spec
  have destinations : scope.joinDestination (Scope.prefixDestination scopes destination) =
      Scope.prefixDestination (scope :: scopes) destination := by
    cases destination with
    | reference text => exact congrArg _ (Naming.join_cons_join ..)
    | endpoint e => rfl
  cases name with
  | none => simp [Scope.joinSpec, Scope.prefixSpec, destinations]
  | some name =>
    simp [Scope.joinSpec, Scope.prefixSpec, destinations, Naming.join_cons_join]

/-- One scope more around a registration in scopes. -/
theorem within_prefixed (scope : Scope) (scopes : List Scope) (registration : Registration) :
    (registration.prefixed scopes).within scope = registration.prefixed (scope :: scopes) := by
  cases registration with
  | route verb path spec =>
    simp [Registration.prefixed, Registration.within, Scope.joinPath, Naming.join_cons_join,
      joinSpec_prefixSpec]
  | mount path endpoint host =>
    simp [Registration.prefixed, Registration.within, Scope.joinPath, Naming.join_cons_join]

theorem foldl_within_reverse (scopes : List Scope) (registration : Registration) :
    scopes.reverse.foldl Registration.within registration = registration.prefixed scopes := by
  rw [List.foldl_reverse]
  induction scopes with
  | nil => exact (prefixed_nil registration).symm
  | cons scope scopes ih => rw [List.foldr_cons, ih, within_prefixed]

/-- Registering in scopes is registering at once what they amount to. -/
theorem registerWithin_reverse (r : Router) (scopes : List Scope) (registration : Registration) :
    r.registerWithin scopes.reverse registration =
      r.register (registration.prefixed scopes) := by
  rw [registerWithin, foldl_within_reverse]

/-! ### Steps of building -/

/-- The step of building that registers something in scopes in scopes, the outermost first. -/
def Step.nested (scopes : List Scope) (registration : Registration) : Step :=
  scopes.foldr (fun scope inner => .scope scope false [inner]) (.register registration)

theorem runSteps_singleton (scopes : List Scope) (step : Step) (w : Workspace) :
    runSteps scopes true [step] w =
      ([(step.run scopes w).1], (step.run scopes w).1.failure?, (step.run scopes w).2) := by
  rw [runSteps]
  cases failed : (step.run scopes w).1.failure? with
  | none => simp only [failed, runSteps, if_true]
  | some error => simp only [failed, if_true]

/-- A scope around one step leaves what the step leaves, and fails as the step does. -/
theorem run_scope_singleton (scope : Scope) (inner : Step) (outer : List Scope) (w : Workspace) :
    ((Step.scope scope false [inner]).run outer w).2 = (inner.run (scope :: outer) w).2 ∧
      ((Step.scope scope false [inner]).run outer w).1.failure? =
        (inner.run (scope :: outer) w).1.failure? := by
  rw [Step.run, Bool.not_false, runSteps_singleton]
  exact ⟨rfl, rfl⟩

/-- A registration in scopes in scopes leaves the workspace that the registration in all of these
scopes leaves, and fails as that one does. -/
theorem run_nested (scopes outer : List Scope) (registration : Registration) (w : Workspace) :
    ((Step.nested scopes registration).run outer w).2 =
        (w.register (scopes.reverse ++ outer) none registration).2 ∧
      ((Step.nested scopes registration).run outer w).1.failure? =
        (w.register (scopes.reverse ++ outer) none registration).1.failure? := by
  induction scopes generalizing outer with
  | nil => simp [Step.nested, Step.run]
  | cons scope scopes ih =>
    obtain ⟨left, failed⟩ := run_scope_singleton scope (Step.nested scopes registration) outer w
    obtain ⟨left', failed'⟩ := ih (scope :: outer)
    have order : scopes.reverse ++ scope :: outer = (scope :: scopes).reverse ++ outer := by simp
    rw [order] at left' failed'
    exact ⟨left.trans left', failed.trans failed'⟩

/-! ### What is stored -/

/-- The controller of a route in scopes, where a reference names an action of a controller and no
namespace ends the name of the controller. -/
theorem target_prefixDestination {scopes : List Scope} {c : String} (filled : c ≠ "")
    (plain : '#' ∉ c.toList)
    (free : ∀ part ∈ kept (scopes.map Scope.namespaceName), '#' ∉ part.toList) (a : String) :
    (Scope.prefixDestination scopes (.reference (actionOf c a))).target =
      .controller
        ("::".intercalate ((kept (scopes.map Scope.namespaceName) ++ [c]).map Naming.classify))
        (if a.isEmpty then none else some a) := by
  have parts : kept (scopes.map Scope.namespaceName ++ [some c]) =
      kept (scopes.map Scope.namespaceName) ++ [c] := by
    rw [Naming.kept_append, Naming.kept_some filled]
  have whole : join (scopes.map Scope.namespaceName ++ [some (actionOf c a)]) "/" =
      actionOf (join (scopes.map Scope.namespaceName ++ [some c]) "/") a := by
    rw [actionOf, String.append_assoc, Naming.join_append_end _ filled, actionOf,
      String.append_assoc]
  have controller : '#' ∉ (join (scopes.map Scope.namespaceName ++ [some c]) "/").toList := by
    refine Naming.notMem_join (by decide) ?_
    intro part mem
    rw [parts, List.mem_append] at mem
    rcases mem with outer | last
    · exact free part outer
    · rw [List.mem_singleton.mp last]
      exact plain
  rw [← parts, ← Naming.classify_join]
  exact (congrArg Target.ofReference whole).trans (Target.ofReference_actionOf controller a)

/-- What is stored of a route that is registered in scopes: its path, and its name if it has one. -/
theorem entry_prefixed_route_eq_ok {scopes : List Scope} {text path : String} {spec : RouteSpec}
    {added : Entry × List Verb}
    (h : ((Registration.route text path spec).prefixed scopes).entry = .ok added) :
    ∃ verb route, Verb.parse text = .ok verb ∧ added = (.route route, [verb]) ∧
      route.path = Naming.cleanPath (join (scopes.map Scope.path ++ [some path]) "/") ∧
      route.name = (spec.name.map fun name =>
        join ((scopes.map Scope.name ++ [some name]).map fun part => part.map Naming.routeName)
          "_") ∧
      route.target = (Scope.prefixDestination scopes spec.destination).target := by
  obtain ⟨verb, route, parsed, created, rfl⟩ := entry_route_eq_ok h
  obtain ⟨template, -, rfl⟩ := Route.create_eq_ok.mp created
  refine ⟨verb, _, parsed, rfl, rfl, ?_, rfl⟩
  have spelled := fun name => Naming.routeName_join (scopes.map Scope.name ++ [some name])
  simp only [Scope.prefixSpec, Option.map_map, Function.comp_def, spelled]

/-- Registering in scopes in scopes is registering once, with the paths, the namespaces and the
names of all scopes joined in front from the outermost inwards: it gives the same entry or error and
the same router, also in steps of building. A route that is stored has the cleaned path of that
join, and, where it has a name, the route names of all prefixes and of the name that are not empty.
A reference to an action of a controller leads to the controller with the classified names of the
namespaces in front, as long as no namespace has a `#` itself. -/
theorem scopes_flatten (r : Router) (scopes : List Scope) (registration : Registration) :
    r.registerWithin scopes.reverse registration = r.register (registration.prefixed scopes) ∧
      (∀ w : Workspace,
        let nested := (Step.nested scopes registration).run [] w
        let direct := (Step.register (registration.prefixed scopes)).run [] w
        nested.2 = direct.2 ∧ nested.1.failure? = direct.1.failure?) ∧
      ∀ text path spec entry after, registration = .route text path spec →
        r.registerWithin scopes.reverse registration = .ok (entry, after) →
          ∃ verb route, Verb.parse text = .ok verb ∧ entry = .route route ∧
            after = r.push (.route route) [verb] ∧
            route.path = Naming.cleanPath (join (scopes.map Scope.path ++ [some path]) "/") ∧
            route.name = (spec.name.map fun name =>
              join ((scopes.map Scope.name ++ [some name]).map fun part =>
                part.map Naming.routeName) "_") ∧
            (∀ e, spec.destination = .endpoint e → route.target = .endpoint e) ∧
            ∀ c a, spec.destination = .reference (actionOf c a) → c ≠ "" → '#' ∉ c.toList →
              (∀ part ∈ kept (scopes.map Scope.namespaceName), '#' ∉ part.toList) →
                route.target = .controller
                  ("::".intercalate
                    ((kept (scopes.map Scope.namespaceName) ++ [c]).map Naming.classify))
                  (if a.isEmpty then none else some a) := by
  refine ⟨registerWithin_reverse r scopes registration, ?_, ?_⟩
  · intro w
    have run := run_nested scopes [] registration w
    have direct : w.register scopes.reverse none registration =
        w.register [] none (registration.prefixed scopes) := by
      unfold Workspace.register
      rw [registerWithin_reverse]
      rfl
    rw [List.append_nil, direct] at run
    simpa [Step.run] using run
  · rintro text path spec entry after rfl registered
    rw [registerWithin_reverse, register] at registered
    cases made : ((Registration.route text path spec).prefixed scopes).entry with
    | error e =>
      rw [made] at registered
      cases registered
    | ok added =>
      rw [made] at registered
      obtain ⟨verb, route, parsed, rfl, samePath, sameName, target⟩ :=
        entry_prefixed_route_eq_ok made
      cases registered
      refine ⟨verb, route, parsed, rfl, rfl, samePath, sameName, ?_, ?_⟩
      · intro e declared
        rw [target, declared]
        rfl
      · intro c a declared filled plain free
        rw [target, declared]
        exact target_prefixDestination filled plain free a

/-- A version without a namespace stands inside of an area. Its name has no words. -/
theorem scopes_flatten_area :
    let scopes : List Scope := [.ofName "area", { path := some "v1/", name := some "-" }]
    let spec : RouteSpec :=
      { destination := .reference (actionOf "my/ads" "new"), name := some "Ad" }
    ∃ route after,
      ({} : Router).registerWithin scopes.reverse (.route "get" "/ads" spec) =
          .ok (.route route, after) ∧
        route.path = "/area/v1/ads" ∧ route.name = some "area_ad" ∧
        route.target = .controller "Area::My::Ads" (some "new") := by
  intro scopes spec
  obtain ⟨same, -, stored⟩ := scopes_flatten {} scopes (.route "get" "/ads" spec)
  have cleaned : Naming.cleanPath (join (scopes.map Scope.path ++ [some "/ads"]) "/") =
      "/area/v1/ads" := by decide +kernel
  have compiled : Template.compile "/area/v1/ads" [] =
      .ok ⟨"/area/v1/ads", [.literal "/area/v1/ads"], []⟩ := rfl
  have name : join ((scopes.map Scope.name ++ [some "Ad"]).map fun part =>
      part.map Naming.routeName) "_" = "area_ad" := rfl
  have controller : "::".intercalate ((kept (scopes.map Scope.namespaceName) ++ ["my/ads"]).map
      Naming.classify) = "Area::My::Ads" := rfl
  have parsed : Verb.parse "get" = .ok .get := rfl
  have created : ∃ route, Route.create (join (scopes.map Scope.path ++ [some "/ads"]) "/")
      (Scope.prefixSpec scopes spec) = .ok route :=
    ⟨_, Route.create_eq_ok.mpr ⟨_, cleaned ▸ compiled, rfl⟩⟩
  obtain ⟨route, created⟩ := created
  have registered : ({} : Router).registerWithin scopes.reverse (.route "get" "/ads" spec) =
      .ok (.route route, Router.push {} (.route route) [.get]) := by
    rw [same, register, Registration.prefixed, Registration.entry, parsed]
    simp only [bind, Except.bind, created]
    rfl
  obtain ⟨verb, other, -, whole, -, path, named, -, target⟩ := stored _ _ _ _ _ rfl registered
  obtain rfl := Entry.route.inj whole
  refine ⟨route, _, registered, path.trans cleaned, ?_, ?_⟩
  · rw [named]
    exact congrArg some name
  · rw [target "my/ads" "new" rfl (by decide) (by decide) (by decide), controller]
    rfl

end PathRouting.Router

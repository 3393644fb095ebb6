import Mathlib.Data.List.Induction
import PathRouting.Router.Dispatch

/-!
Controllers that are registered, replaced and removed while routes lead to them.

Of a run of changes, the last one for a classified name decides what the name stands for
(`resolve?_run`). A route to `c#a` holds `classify c` and looks up `classify (classify c)`
(`call_run`), so it follows the changes for `c` just when classifying `c` twice is classifying it
once.
-/

namespace PathRouting

open Naming (classify)

/-! ### Runs of changes -/

namespace Registry

/-- The name that a change is for, as it is given. -/
def Change.name : Change → String
  | .register name _ => name
  | .unregister name => name

/-- The controller that a change leaves behind. -/
def Change.controller? : Change → Option Endpoint
  | .register _ controller => some controller
  | .unregister _ => none

/-- The registry after some changes, one after the other. -/
def run (r : Registry) (changes : List Change) : Registry :=
  changes.foldl change r

/-- The last of some changes that is for a classified name. -/
def lastChange? (key : String) (changes : List Change) : Option Change :=
  changes.reverse.find? fun c => decide (classify c.name = key)

@[simp] theorem run_nil (r : Registry) : r.run [] = r := rfl

@[simp] theorem run_append_singleton (r : Registry) (changes : List Change) (c : Change) :
    r.run (changes ++ [c]) = (r.run changes).change c := by
  simp [run]

@[simp] theorem lastChange?_nil (key : String) : lastChange? key [] = none := rfl

theorem lastChange?_append_singleton (key : String) (changes : List Change) (c : Change) :
    lastChange? key (changes ++ [c]) =
      if classify c.name = key then some c else lastChange? key changes := by
  unfold lastChange?
  rw [List.reverse_append, List.reverse_singleton, List.singleton_append, List.find?_cons]
  by_cases same : classify c.name = key
  · simp [same]
  · simp [same]

theorem lastChange?_singleton (key : String) (c : Change) :
    lastChange? key [c] = if classify c.name = key then some c else none :=
  lastChange?_append_singleton key [] c

/-- A change decides what the names of its class stand for, and nothing else. -/
theorem resolve?_change (r : Registry) (c : Change) (name : String) :
    (r.change c).resolve? name =
      if classify c.name = classify name then c.controller? else r.resolve? name := by
  cases c with
  | register other controller =>
    rw [change, resolve?_register]
    exact if_congr eq_comm rfl rfl
  | unregister other =>
    rw [change, resolve?_unregister]
    exact if_congr eq_comm rfl rfl

/-- After a run of changes, a name stands for what the last change of its class has left, and for
what it stood for before if there was none. -/
theorem resolve?_run (r : Registry) (changes : List Change) (name : String) :
    (r.run changes).resolve? name =
      match lastChange? (classify name) changes with
      | some c => c.controller?
      | none => r.resolve? name := by
  induction changes using List.reverseRecOn with
  | nil => rfl
  | append_singleton changes c ih =>
    rw [run_append_singleton, resolve?_change, lastChange?_append_singleton]
    by_cases same : classify c.name = classify name
    · rw [if_pos same, if_pos same]
    · rw [if_neg same, if_neg same]
      exact ih

end Registry

open Registry

/-! ### References -/

/-- The reference to an action of a controller. -/
def actionOf (c a : String) : String :=
  c ++ "#" ++ a

namespace Target

/-- What is written down is what the target names. -/
theorem entered_eq (t : Target) (env : Env) :
    t.entered env = { env with controller := t.controllerName?, action := t.action? } := by
  cases t with
  | endpoint e => rfl
  | controller name action => rfl

/-- A reference to an action is taken apart where its controller ends. -/
theorem ofReference_actionOf {c : String} (plain : '#' ∉ c.toList) (a : String) :
    ofReference (actionOf c a) =
      .controller (classify c) (if a.isEmpty then none else some a) := by
  have text : (actionOf c a).toList = c.toList ++ '#' :: a.toList := by
    simp [actionOf]
  have before : ∀ ch ∈ c.toList, decide (ch ≠ '#') = true := by
    intro ch hc
    exact decide_eq_true (ne_of_mem_of_not_mem hc plain)
  unfold ofReference
  dsimp only
  rw [text, List.takeWhile_append_of_pos before, List.dropWhile_append_of_pos before]
  simp

/-- A controller answers if the name that the target holds stands for one. -/
theorem call_controller (registry : Registry) (name : String) (action : Option String)
    (env : Env) :
    (controller name action).call registry env =
      match registry.resolve? name with
      | some e =>
        (e.call registry ((controller name action).entered env)).map (Prod.map .ok id)
      | none =>
        some (.error (.unresolvedController name), (controller name action).entered env) := by
  cases found : registry.resolve? name with
  | some e => exact call_of_ok (by rw [resolve, found]; rfl) env
  | none => exact call_of_error (by rw [resolve, found]; rfl) env

end Target

/-- A route is made of the cleaned path, the template that the path compiles to and what the
declaration says. -/
theorem Route.create_eq_ok {path : String} {spec : RouteSpec} {route : Route} :
    Route.create path spec = .ok route ↔
      ∃ template, Template.compile (Naming.cleanPath path) spec.constraints = .ok template ∧
        route = ⟨Naming.cleanPath path, template, spec.destination.target,
          spec.name.map Naming.routeName⟩ := by
  unfold Route.create
  dsimp only [Bind.bind, Except.bind, pure, Except.pure]
  cases Template.compile (Naming.cleanPath path) spec.constraints with
  | error e => simp
  | ok template => simp [eq_comm]

/-! ### Late binding -/

/-- What was registered last for the controller `c` answers: after every run of changes of which the
last one for `c` registers something, that is what the target calls. -/
def FollowsLast (c : String) (t : Target) : Prop :=
  ∀ (changes : List Change) (name : String) (controller : Endpoint) (env : Env),
    lastChange? (classify c) changes = some (.register name controller) →
      t.call (Registry.run {} changes) env =
        (controller.call (Registry.run {} changes) (t.entered env)).map (Prod.map .ok id)

/-- After a run of changes, a controller is called by the last change for what the name that the
target holds is classified as. -/
theorem call_run (changes : List Change) (name : String) (action : Option String) (env : Env) :
    (Target.controller name action).call (Registry.run {} changes) env =
      match (lastChange? (classify name) changes).bind Change.controller? with
      | some e =>
        (e.call (Registry.run {} changes) ((Target.controller name action).entered env)).map
          (Prod.map .ok id)
      | none =>
        some (.error (.unresolvedController name),
          (Target.controller name action).entered env) := by
  have found : (Registry.run {} changes).resolve? name =
      (lastChange? (classify name) changes).bind Change.controller? := by
    rw [resolve?_run]
    cases lastChange? (classify name) changes with
    | none => rfl
    | some c => rfl
  rw [Target.call_controller, found]

/-- A controller that is the only one registered is not found through its own classified name, if
that is classified as another name. -/
theorem call_register_of_ne {c : String} (unstable : classify (classify c) ≠ classify c)
    (controller : Endpoint) (action : Option String) (env : Env) :
    ((Target.controller (classify c) action).call
      (Registry.run {} [.register c controller]) env).map Prod.fst =
        some (.error (.unresolvedController (classify c))) := by
  have other : lastChange? (classify (classify c)) [.register c controller] = none := by
    rw [lastChange?_singleton]
    exact if_neg (Ne.symm unstable)
  rw [call_run, other]
  rfl

/-- A route to an action of a controller is answered by what was registered last for the controller
just when classifying the name of the controller again does not change it. -/
theorem followsLast_iff {c a path : String} {spec : RouteSpec} {route : Route}
    (plain : '#' ∉ c.toList) (declared : spec.destination = .reference (actionOf c a))
    (created : Route.create path spec = .ok route) :
    FollowsLast c route.target ↔ classify (classify c) = classify c := by
  have target : route.target =
      .controller (classify c) (if a.isEmpty then none else some a) := by
    obtain ⟨template, -, rfl⟩ := Route.create_eq_ok.mp created
    rw [declared]
    exact Target.ofReference_actionOf plain a
  rw [target]
  constructor
  · intro follows
    by_contra unstable
    let controller : Endpoint := .handler fun env => (.notFound, env)
    have last : lastChange? (classify c) [.register c controller] =
        some (.register c controller) := by
      rw [lastChange?_singleton]
      exact if_pos rfl
    have answered := congrArg (Option.map Prod.fst) (follows _ _ _ (Env.get "/") last)
    rw [call_register_of_ne unstable, Endpoint.call_handler] at answered
    cases answered
  · intro stable changes name controller env last
    rw [call_run, stable, last]
    rfl

/-- Both words of the name have more than one letter, and are the same when they are classified
again. -/
theorem followsLast_iff_ads :
    let spec : RouteSpec := { destination := .reference (actionOf "my/ads" "new") }
    let route : Route :=
      ⟨"/ads", ⟨"/ads", [.literal "/ads"], []⟩, .controller "My::Ads" (some "new"), none⟩
    '#' ∉ "my/ads".toList ∧ spec.destination = .reference (actionOf "my/ads" "new") ∧
      Route.create "/ads" spec = .ok route ∧ FollowsLast "my/ads" route.target := by
  intro spec route
  have plain : '#' ∉ "my/ads".toList := by decide
  have once : classify "my/ads" = "My::Ads" := rfl
  have twice : classify "My::Ads" = "My::Ads" := rfl
  have cleaned : Naming.cleanPath "/ads" = "/ads" := rfl
  have compiled : Template.compile "/ads" [] = .ok ⟨"/ads", [.literal "/ads"], []⟩ := rfl
  have target := Target.ofReference_actionOf plain "new"
  have created : Route.create "/ads" spec = .ok route := by
    rw [Route.create_eq_ok, cleaned]
    refine ⟨_, compiled, ?_⟩
    simp [spec, route, Destination.target, target, once]
  have stable : classify (classify "my/ads") = classify "my/ads" := by rw [once, twice]
  exact ⟨plain, rfl, created, (followsLast_iff plain rfl created).mpr stable⟩

/-- Initials are not found: classified again, they are one word. -/
theorem not_followsLast_initials :
    let spec : RouteSpec := { destination := .reference (actionOf "q_a" "index") }
    let route : Route :=
      ⟨"/help", ⟨"/help", [.literal "/help"], []⟩, .controller "QA" (some "index"), none⟩
    let controller : Endpoint := .handler fun env => (.notFound, env)
    Route.create "/help" spec = .ok route ∧
      lastChange? (classify "q_a") [.register "q_a" controller] =
        some (.register "q_a" controller) ∧
      (route.target.call (Registry.run {} [.register "q_a" controller]) (Env.get "/help")).map
        Prod.fst = some (.error (.unresolvedController "QA")) ∧
      ¬FollowsLast "q_a" route.target := by
  intro spec route controller
  have plain : '#' ∉ "q_a".toList := by decide
  have once : classify "q_a" = "QA" := rfl
  have twice : classify "QA" = "Qa" := rfl
  have unstable : classify (classify "q_a") ≠ classify "q_a" := by
    rw [once, twice]
    decide
  have cleaned : Naming.cleanPath "/help" = "/help" := rfl
  have compiled : Template.compile "/help" [] = .ok ⟨"/help", [.literal "/help"], []⟩ := rfl
  have target := Target.ofReference_actionOf plain "index"
  have created : Route.create "/help" spec = .ok route := by
    rw [Route.create_eq_ok, cleaned]
    refine ⟨_, compiled, ?_⟩
    simp [spec, route, Destination.target, target, once]
  have last : lastChange? (classify "q_a") [.register "q_a" controller] =
      some (.register "q_a" controller) := by
    rw [lastChange?_singleton]
    exact if_pos rfl
  have failed : (route.target.call (Registry.run {} [.register "q_a" controller])
      (Env.get "/help")).map Prod.fst = some (.error (.unresolvedController "QA")) := by
    have unresolved := call_register_of_ne unstable controller (some "index") (Env.get "/help")
    rw [once] at unresolved
    exact unresolved
  refine ⟨created, last, failed, ?_⟩
  intro follows
  have answered := congrArg (Option.map Prod.fst) (follows _ _ _ (Env.get "/help") last)
  rw [failed, Endpoint.call_handler] at answered
  cases answered

end PathRouting

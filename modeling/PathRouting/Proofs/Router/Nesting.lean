import Mathlib.Data.List.Chain
import PathRouting.Proofs.LateBinding
import PathRouting.Proofs.Template.Peeking

/-!
Routers inside of routers.

A router may be what an entry of another router leads to, directly or as a controller. `Descends`
says which way a request takes through such routers: every router gets the request as it came, with
the same path. Main statements: `call_of_descends` (a call of the outermost router answers what is
answered where the way ends), `isSome_call_iff` (a call comes back just if the way ends) and
`exists_descends_of_tree` (through a tree of routers every way ends). `Answers` spells out what this
says of the environment and of errors.
-/

namespace PathRouting

/-- The environment with other parameters and another target. -/
def Env.routed (env : Env) (params : Params) (controller action : Option String) : Env :=
  { env with params, controller, action }

theorem Env.rememberedHost_routed (env : Env) (params : Params)
    (controller action : Option String) :
    (env.routed params controller action).rememberedHost = env.rememberedHost := rfl

@[simp] theorem Env.params_routed (env : Env) (params : Params)
    (controller action : Option String) :
    (env.routed params controller action).params = params := rfl

@[simp] theorem Env.routed_routed (env : Env) (params params' : Params)
    (controller controller' action action' : Option String) :
    (env.routed params controller action).routed params' controller' action' =
      env.routed params' controller' action' := rfl

theorem Target.entered_routed (t : Target) (env : Env) (params : Params)
    (controller action : Option String) :
    t.entered (env.routed params controller action) =
      env.routed params t.controllerName? t.action? :=
  entered_eq t _

/-- There is nothing to call for a target only if it names a controller that is not registered. -/
theorem Target.resolve_eq_error_iff {t : Target} {registry : Registry} {error : Error} :
    t.resolve registry = .error error ↔ ∃ name action, t = .controller name action ∧
      registry.resolve? name = none ∧ error = .unresolvedController name := by
  cases t with
  | endpoint e => simp [resolve]
  | controller name action =>
    cases found : registry.resolve? name with
    | none => simp [resolve, found, eq_comm]
    | some e => simp [resolve, found]

namespace Router

/-! ### What recognition reads -/

theorem recognize_routed (r : Router) (env : Env) (params : Params)
    (controller action : Option String) :
    r.recognize (env.routed params controller action) = r.recognize env := rfl

theorem asksHost_routed (trust : Bool) (env : Env) (params : Params)
    (controller action : Option String) (entries : List Entry) :
    asksHost trust (env.routed params controller action) entries = asksHost trust env entries := by
  induction entries with
  | nil => rfl
  | cons entry rest ih =>
    rw [asksHost, asksHost, ih]
    rfl

theorem settle_routed (r : Router) (env : Env) (params : Params)
    (controller action : Option String) :
    r.settle (env.routed params controller action) =
      (r.settle env).routed params controller action := by
  have asked := asksHost_routed r.config.trustForwardedHost env params controller action
    (r.candidates env.method)
  unfold settle
  dsimp only
  by_cases asks : asksHost r.config.trustForwardedHost env (r.candidates env.method) = true
  · rw [if_pos asks]
    exact if_pos (asked.trans asks)
  · rw [if_neg asks]
    refine if_neg ?_
    rwa [← asked] at asks

/-- Settling changes only what is remembered of the host. -/
theorem settle_eq (r : Router) (env : Env) :
    r.settle env = { env with rememberedHost := (r.settle env).rememberedHost } := by
  have either : r.settle env = env.rememberHost r.config.trustForwardedHost ∨ r.settle env = env :=
    ite_eq_or_eq ..
  rcases either with asked | unasked
  · rw [asked]
    rfl
  · rw [unasked]

/-! ### One router -/

section

variable {r : Router} {env : Env} {found : Match}

theorem call_of_recognized (registry : Registry) (recognized : r.recognize env = some found) :
    r.call registry env =
      found.entry.toRoute.target.call registry
        ((r.settle env).routed (env.params.merge found.params) env.controller env.action) := by
  rw [Router.call_of_some recognized, settle_eq]
  rfl

/-- What is recognized is an entry of the router. -/
theorem mem_entries_of_recognize (recognized : r.recognize env = some found) :
    found.entry ∈ r.entries := by
  obtain ⟨entry, candidate, matched⟩ := List.exists_of_findSome?_eq_some recognized
  obtain ⟨params, -, rfl⟩ := Option.map_eq_some_iff.mp matched
  unfold candidates at candidate
  split at candidate
  · obtain ⟨position, -, stored⟩ := List.mem_filterMap.mp candidate
    exact Array.mem_of_getElem? stored
  · cases candidate

theorem nodup_keys_of_recognize {r : Router} {env : Env} {found : Match}
    (recognized : r.recognize env = some found) : found.params.keys.Nodup := by
  obtain ⟨entry, -, matched⟩ := List.exists_of_findSome?_eq_some recognized
  obtain ⟨params, given, rfl⟩ := Option.map_eq_some_iff.mp matched
  cases entry with
  | route route =>
    rw [Entry.match?_route, Template.match?_eq_map_firstWhole?] at given
    obtain ⟨walked, -, rfl⟩ := Option.map_eq_some_iff.mp given
    exact OrderedMap.nodup_keys_ofList _
  | mount mount =>
    rw [Entry.match?_mount] at given
    split at given
    · rw [Template.peek?_eq_head?] at given
      obtain ⟨peeked, first, rfl⟩ := Option.map_eq_some_iff.mp given
      obtain ⟨walked, -, rfl⟩ := Option.map_eq_some_iff.mp first
      exact OrderedMap.nodup_keys_ofList _
    · cases given

end

/-! ### Ways through routers -/

/-- A router on the way of a request, and what it recognizes the request as. -/
structure Stop where
  router : Router
  found : Match

/-- What the request is led to. -/
def Stop.target (stop : Stop) : Target :=
  stop.found.entry.toRoute.target

/-- Where a way ends: in a router that recognizes nothing, in a handler, or at a target that names
nothing to call. -/
inductive Ending where
  | lost
  | handler (h : Handler)
  | refused (error : Error)

/-- The way of a request through routers: those that lead it on, from the outermost one inwards,
where it ends, and what is remembered of the host then. -/
structure Descent where
  stops : List Stop
  ending : Ending
  remembered : Option (Option String)

/-- The way with one more stop before it. -/
def Descent.before (stop : Stop) (d : Descent) : Descent :=
  { d with stops := stop :: d.stops }

/-- The way that a request takes. Each router gets the request as it came; only what is remembered
of the host is passed on. -/
inductive Descends (registry : Registry) : Router → Env → Descent → Prop
  | lost {r : Router} {env : Env} (nothing : r.recognize env = none) :
      Descends registry r env ⟨[], .lost, (r.settle env).rememberedHost⟩
  | handler {r : Router} {env : Env} {found : Match} {h : Handler}
      (recognized : r.recognize env = some found)
      (leads : found.entry.toRoute.target.resolve registry = .ok (.handler h)) :
      Descends registry r env ⟨[⟨r, found⟩], .handler h, (r.settle env).rememberedHost⟩
  | refused {r : Router} {env : Env} {found : Match} {error : Error}
      (recognized : r.recognize env = some found)
      (leads : found.entry.toRoute.target.resolve registry = .error error) :
      Descends registry r env ⟨[⟨r, found⟩], .refused error, (r.settle env).rememberedHost⟩
  | router {r next : Router} {env : Env} {found : Match} {d : Descent}
      (recognized : r.recognize env = some found)
      (leads : found.entry.toRoute.target.resolve registry = .ok (.router next))
      (way : Descends registry next (r.settle env) d) :
      Descends registry r env (d.before ⟨r, found⟩)

namespace Descent

/-- What the last router leads to. -/
def target? (d : Descent) : Option Target :=
  d.stops.getLast?.map Stop.target

/-- The environment that a way leads to. The parameters of all matches are merged in order, and the
last target is written down. Nothing else has changed but what is remembered of the host. -/
def arrived (d : Descent) (env : Env) : Env :=
  let merged :=
    { env with
      params := d.stops.foldl (fun params stop => params.merge stop.found.params) env.params
      rememberedHost := d.remembered }
  d.target?.elim merged fun t => t.entered merged

/-- What is answered where a way ends. An error is the result of a router that leads to it itself;
routers around that one get a response. -/
def answer (d : Descent) (arrived : Env) : Except Error Response × Env :=
  match d.ending with
  | .lost => (.ok .notFound, arrived)
  | .handler h => (h arrived).map .ok id
  | .refused error =>
    (if d.stops.tail.isEmpty then .error error else .ok (.ofResult (.error error)), arrived)

theorem params_arrived (d : Descent) (env : Env) :
    (d.arrived env).params =
      d.stops.foldl (fun params stop => params.merge stop.found.params) env.params := by
  rw [arrived]
  cases d.target? with
  | none => rfl
  | some t => exact congrArg Env.params (t.entered_eq _)

/-- The last target is what is written down. -/
theorem arrived_eq {d : Descent} {stop : Stop} (last : d.stops.getLast? = some stop) (env : Env) :
    d.arrived env = stop.target.entered
      { env with params := (d.arrived env).params, rememberedHost := d.remembered } := by
  rw [params_arrived, arrived, target?, last]
  rfl

/-- Nothing else is changed. -/
theorem exists_arrived_eq (d : Descent) (env : Env) :
    ∃ params controller action remembered, d.arrived env =
      { env with params, controller, action, rememberedHost := remembered } := by
  rw [arrived]
  cases d.target? with
  | none => exact ⟨_, _, _, _, rfl⟩
  | some t => exact ⟨_, _, _, _, t.entered_eq _⟩

theorem target?_before (stop : Stop) (d : Descent) :
    (d.before stop).target? = some (d.target?.getD stop.target) := by
  have stops : (d.before stop).stops = stop :: d.stops := rfl
  rw [target?, target?, stops, List.getLast?_cons]
  cases d.stops.getLast? with
  | none => rfl
  | some last => rfl

/-- The parameters of a stop before a way are merged first, and its target is replaced by what the
way comes to. -/
theorem arrived_before (stop : Stop) (d : Descent) (r : Router) (env : Env) :
    (d.before stop).arrived env =
      d.arrived (stop.target.entered ((r.settle env).routed
        (env.params.merge stop.found.params) env.controller env.action)) := by
  rw [Target.entered_routed, settle_eq, arrived, arrived, target?_before]
  cases d.target? with
  | none => exact Target.entered_eq ..
  | some last => exact (Target.entered_eq ..).trans (Target.entered_eq ..).symm

end Descent

section

variable {registry : Registry} {r : Router} {env : Env} {d : Descent}

/-- A way that ends at a target has come past a router that leads to it. -/
theorem Descends.stops_ne_nil (way : Descends registry r env d) {error : Error}
    (refused : d.ending = .refused error) : d.stops ≠ [] := by
  cases way with
  | lost nothing => cases refused
  | handler recognized leads => cases refused
  | refused recognized leads => simp
  | router recognized leads inner => simp [Descent.before]

/-- Errors of an inner router become responses. -/
theorem Descends.answer_before (way : Descends registry r env d) (stop : Stop) (arrived : Env) :
    (d.before stop).answer arrived =
      (d.answer arrived).map (fun result => .ok (.ofResult result)) id := by
  have ending : (d.before stop).ending = d.ending := rfl
  have tail : (d.before stop).stops.tail = d.stops := rfl
  rw [Descent.answer, Descent.answer, ending, tail]
  cases reached : d.ending with
  | lost => rfl
  | handler h => rfl
  | refused error =>
    have passed := way.stops_ne_nil reached
    dsimp only [Prod.map]
    rw [if_neg (by simpa using passed)]
    split
    · rfl
    · rfl

/-- There is only one way. -/
theorem Descends.unique {other : Descent} (way : Descends registry r env d)
    (same : Descends registry r env other) : other = d := by
  induction way generalizing other with
  | lost nothing =>
    cases same with
    | lost => rfl
    | handler recognized => simp [nothing] at recognized
    | refused recognized => simp [nothing] at recognized
    | router recognized => simp [nothing] at recognized
  | handler recognized leads =>
    cases same with
    | lost nothing => simp [recognized] at nothing
    | handler again leads' =>
      cases recognized.symm.trans again
      cases leads.symm.trans leads'
      rfl
    | refused again leads' =>
      cases recognized.symm.trans again
      cases leads.symm.trans leads'
    | router again leads' =>
      cases recognized.symm.trans again
      cases leads.symm.trans leads'
  | refused recognized leads =>
    cases same with
    | lost nothing => simp [recognized] at nothing
    | handler again leads' =>
      cases recognized.symm.trans again
      cases leads.symm.trans leads'
    | refused again leads' =>
      cases recognized.symm.trans again
      cases leads.symm.trans leads'
      rfl
    | router again leads' =>
      cases recognized.symm.trans again
      cases leads.symm.trans leads'
  | router recognized leads inner ih =>
    cases same with
    | lost nothing => simp [recognized] at nothing
    | handler again leads' =>
      cases recognized.symm.trans again
      cases leads.symm.trans leads'
    | refused again leads' =>
      cases recognized.symm.trans again
      cases leads.symm.trans leads'
    | router again leads' inner' =>
      cases recognized.symm.trans again
      cases leads.symm.trans leads'
      rw [ih inner']

/-! ### Calls -/

/-- A call of a router answers what is answered where the way ends, whatever the parameters and the
target were before. -/
theorem call_of_descends (way : Descends registry r env d) (params : Params)
    (controller action : Option String) :
    r.call registry (env.routed params controller action) =
      some (d.answer (d.arrived (env.routed params controller action))) := by
  induction way generalizing params controller action with
  | lost nothing =>
    rw [Router.call_of_none (by rwa [recognize_routed]), settle_routed, settle_eq]
    rfl
  | @handler r env found h recognized leads =>
    rw [call_of_recognized registry (by rwa [recognize_routed]), Target.call_of_ok leads,
      Endpoint.call_handler, settle_routed, settle_eq]
    rfl
  | @refused r env found error recognized leads =>
    rw [call_of_recognized registry (by rwa [recognize_routed]), Target.call_of_error leads,
      settle_routed, settle_eq]
    rfl
  | @router r next env found d recognized leads inner ih =>
    have answered := ih (params.merge found.params) found.entry.toRoute.target.controllerName?
      found.entry.toRoute.target.action?
    have arrived := Descent.arrived_before ⟨r, found⟩ d r (env.routed params controller action)
    rw [settle_routed, Env.routed_routed, Env.params_routed, Target.entered_routed] at arrived
    rw [call_of_recognized registry (by rwa [recognize_routed]), Target.call_of_ok leads,
      Endpoint.call_router, settle_routed, Env.routed_routed, Env.params_routed,
      Target.entered_routed, answered, inner.answer_before, arrived]
    rfl

/-- The call of a router answers what is answered where the way ends. -/
theorem call_eq_answer (way : Descends registry r env d) :
    r.call registry env = some (d.answer (d.arrived env)) :=
  call_of_descends way env.params env.controller env.action

/-- Parameters and targets do not matter for the way. -/
theorem Descends.routed (way : Descends registry r env d) (params : Params)
    (controller action : Option String) :
    Descends registry r (env.routed params controller action) d := by
  induction way with
  | @lost r env nothing =>
    have same : Descends registry r (env.routed params controller action) _ :=
      .lost (by rwa [recognize_routed])
    rwa [settle_routed, Env.rememberedHost_routed] at same
  | @handler r env found h recognized leads =>
    have same : Descends registry r (env.routed params controller action) _ :=
      .handler (by rwa [recognize_routed]) leads
    rwa [settle_routed, Env.rememberedHost_routed] at same
  | @refused r env found error recognized leads =>
    have same : Descends registry r (env.routed params controller action) _ :=
      .refused (by rwa [recognize_routed]) leads
    rwa [settle_routed, Env.rememberedHost_routed] at same
  | router recognized leads inner ih =>
    rw [← settle_routed] at ih
    exact .router (by rwa [recognize_routed]) leads ih

theorem Descends.of_routed {params : Params} {controller action : Option String}
    (way : Descends registry r (env.routed params controller action) d) :
    Descends registry r env d :=
  way.routed env.params env.controller env.action

/-- A call that comes back has taken a way that ends. -/
theorem descends_of_call {answered : Except Error Response × Env}
    (answers : r.call registry env = some answered) : ∃ d, Descends registry r env d := by
  refine (Target.call.mutual_partial_correctness
    (fun t registry env _ => ∀ next, t.resolve registry = .ok (.router next) →
      ∃ d, Descends registry next env d)
    (fun e registry env _ => ∀ next, e = .router next → ∃ d, Descends registry next env d)
    (fun r registry env _ => ∃ d, Descends registry r env d) ?target ?endpoint ?router).2.2 r
      registry env answered answers
  case target =>
    intro call endpoints t registry env result called next leads
    rw [leads] at called
    obtain ⟨inner, back, -⟩ := Option.bind_eq_some_iff.mp called
    obtain ⟨d, way⟩ := endpoints _ _ _ _ back next rfl
    rw [Target.entered_eq] at way
    exact ⟨d, way.routed env.params env.controller env.action⟩
  case endpoint =>
    rintro call routers _ registry env result called next rfl
    obtain ⟨inner, back, -⟩ := Option.bind_eq_some_iff.mp called
    exact routers _ _ _ _ back
  case router =>
    intro call targets r registry env result called
    cases recognized : r.recognize env with
    | none => exact ⟨_, .lost recognized⟩
    | some found =>
      rw [recognized] at called
      cases leads : found.entry.toRoute.target.resolve registry with
      | error error => exact ⟨_, .refused recognized leads⟩
      | ok e =>
        cases e with
        | handler h => exact ⟨_, .handler recognized leads⟩
        | router next =>
          obtain ⟨d, way⟩ := targets _ registry ((r.settle env).routed _ _ _) _ called next leads
          exact ⟨_, .router recognized leads way.of_routed⟩

/-- A call comes back just if the way of the request ends. -/
theorem isSome_call_iff : (r.call registry env).isSome = true ↔ ∃ d, Descends registry r env d := by
  rw [Option.isSome_iff_exists]
  constructor
  · rintro ⟨answered, answers⟩
    exact descends_of_call answers
  · rintro ⟨d, way⟩
    exact ⟨_, call_eq_answer way⟩

/-! ### Trees of routers -/

/-- The router is the root of a tree: the routers that its entries lead to, directly or as the
controllers that are registered now, are roots of trees, and no way from router to router is
endless. -/
inductive Tree (registry : Registry) : Router → Prop
  | node {r : Router}
      (inner : ∀ entry ∈ r.entries, ∀ next,
        entry.toRoute.target.resolve registry = .ok (.router next) → Tree registry next) :
      Tree registry r

/-- Every way through a tree ends. -/
theorem exists_descends_of_tree (tree : Tree registry r) (env : Env) :
    ∃ d, Descends registry r env d := by
  induction tree generalizing env with
  | @node r inner ih =>
    cases recognized : r.recognize env with
    | none => exact ⟨_, .lost recognized⟩
    | some found =>
      cases leads : found.entry.toRoute.target.resolve registry with
      | error error => exact ⟨_, .refused recognized leads⟩
      | ok e =>
        cases e with
        | handler h => exact ⟨_, .handler recognized leads⟩
        | router next =>
          obtain ⟨d, way⟩ := ih _ (mem_entries_of_recognize recognized) next leads (r.settle env)
          exact ⟨_, .router recognized leads way⟩

end

theorem sizeOf_target_lt (entry : Entry) : sizeOf entry.toRoute.target < sizeOf entry := by
  cases entry with
  | route route =>
    cases route with
    | mk path template target name =>
      simp only [Entry.toRoute, Entry.route.sizeOf_spec, Route.mk.sizeOf_spec]
      omega
  | mount mount =>
    cases mount with
    | mk route hostPattern =>
      cases route with
      | mk path template target name =>
        simp only [Entry.toRoute, Entry.mount.sizeOf_spec, Mount.mk.sizeOf_spec,
          Route.mk.sizeOf_spec]
        omega

theorem sizeOf_entries_lt (r : Router) : sizeOf r.entries < sizeOf r := by
  cases r with
  | mk config base entries byVerb named =>
    simp only [Router.mk.sizeOf_spec]
    omega

/-- While no controller is a router, every router is a tree. -/
theorem tree_of_handlers {registry : Registry}
    (plain : ∀ name e, registry.resolve? name = some e → ∃ h, e = .handler h) (r : Router) :
    Tree registry r := by
  refine .node ?_
  intro entry mem next leads
  cases target : entry.toRoute.target with
  | endpoint e =>
    rw [target] at leads
    cases leads
    exact tree_of_handlers plain next
  | controller name action =>
    rw [target] at leads
    cases found : registry.resolve? name with
    | none => simp [Target.resolve, found] at leads
    | some e =>
      obtain ⟨h, rfl⟩ := plain name e found
      simp [Target.resolve, found] at leads
termination_by sizeOf r
decreasing_by
  have inside := Array.sizeOf_lt_of_mem mem
  have deeper := sizeOf_target_lt entry
  have entries := sizeOf_entries_lt r
  rw [target, Target.endpoint.sizeOf_spec, Endpoint.router.sizeOf_spec] at deeper
  omega

/-! ### Levels -/

/-- Of the values that are merged for a name, the last one stays. -/
theorem get?_mergeAll {stops : List Stop} (nodup : ∀ stop ∈ stops, stop.found.params.keys.Nodup)
    (params : Params) (name : String) :
    (stops.foldl (fun params stop => params.merge stop.found.params) params).get? name =
      (stops.reverse.findSome? fun stop => stop.found.params.get? name).or (params.get? name) := by
  induction stops generalizing params with
  | nil => rfl
  | cons stop rest ih =>
    have later := ih (fun other mem => nodup other (List.mem_cons_of_mem _ mem))
      (params.merge stop.found.params)
    rw [OrderedMap.get?_merge (nodup stop List.mem_cons_self)] at later
    rw [List.foldl_cons, later, List.reverse_cons, List.findSome?_append, Option.or_assoc]
    simp

/-- Names that are there keep their positions. -/
theorem keys_prefix_mergeAll (stops : List Stop) (params : Params) :
    params.keys <+:
      (stops.foldl (fun params stop => params.merge stop.found.params) params).keys := by
  induction stops generalizing params with
  | nil => exact List.prefix_rfl
  | cons stop rest ih =>
    exact (OrderedMap.keys_prefix_insertMany params stop.found.params.entries).trans (ih _)

section

variable {registry : Registry} {r : Router} {env : Env} {d : Descent}

/-- Every router on the way recognizes the request as it came, but for what is remembered of the
host. -/
theorem Descends.recognizes (way : Descends registry r env d) :
    ∀ stop ∈ d.stops, ∃ remembered,
      stop.router.recognize { env with rememberedHost := remembered } = some stop.found := by
  induction way with
  | lost nothing => simp
  | @handler r env found h recognized leads =>
    simpa using ⟨env.rememberedHost, recognized⟩
  | @refused r env found error recognized leads =>
    simpa using ⟨env.rememberedHost, recognized⟩
  | @router r next env found d recognized leads inner ih =>
    intro stop mem
    rcases List.mem_cons.mp mem with rfl | deeper
    · exact ⟨env.rememberedHost, recognized⟩
    · rw [settle_eq] at ih
      exact ih stop deeper

/-- The way begins in the outermost router. -/
theorem Descends.router_of_head? (way : Descends registry r env d) :
    ∀ stop ∈ d.stops.head?, stop.router = r := by
  cases way with
  | lost nothing => simp
  | handler recognized leads => simp
  | refused recognized leads => simp
  | router recognized leads inner => simp [Descent.before]

/-- Every stop leads to the next one. -/
theorem Descends.isChain (way : Descends registry r env d) :
    d.stops.IsChain fun stop next => stop.target.resolve registry = .ok (.router next.router) := by
  induction way with
  | lost nothing => exact .nil
  | handler recognized leads => exact .singleton _
  | refused recognized leads => exact .singleton _
  | router recognized leads inner ih =>
    refine List.isChain_cons.mpr ⟨?_, ih⟩
    intro stop head
    rw [inner.router_of_head? stop head]
    exact leads

/-- A way without stops ends in the outermost router. -/
theorem Descends.ending_of_nil (way : Descends registry r env d) (none : d.stops = []) :
    d.ending = .lost := by
  cases way with
  | lost nothing => rfl
  | handler recognized leads => cases none
  | refused recognized leads => cases none
  | router recognized leads inner => cases none

/-- Where the way ends, by what the last stop leads to. -/
theorem Descends.ends (way : Descends registry r env d) {stop : Stop}
    (last : d.stops.getLast? = some stop) :
    (∀ h, stop.target.resolve registry = .ok (.handler h) → d.ending = .handler h) ∧
      (∀ error, stop.target.resolve registry = .error error → d.ending = .refused error) ∧
      ∀ next, stop.target.resolve registry = .ok (.router next) → d.ending = .lost := by
  induction way with
  | lost nothing => cases last
  | handler recognized leads =>
    cases last
    simp [Stop.target, leads]
  | refused recognized leads =>
    cases last
    simp [Stop.target, leads]
  | @router r next env found d recognized leads inner ih =>
    rw [Descent.before, List.getLast?_cons] at last
    cases deeper : d.stops.getLast? with
    | none =>
      have ending := inner.ending_of_nil (List.getLast?_eq_none_iff.mp deeper)
      rw [deeper] at last
      cases last
      simp [Stop.target, leads, Descent.before, ending]
    | some final =>
      rw [deeper] at last
      cases last
      exact ih deeper

end

/-! ### What calls answer -/

/-- What a call of a router answers, by the way that the request takes through the routers in
it. -/
structure Answers (registry : Registry) (r : Router) (env : Env) (d : Descent) : Prop where
  /-- The way begins in the router, and every stop leads to the router of the next one. -/
  nested : (∀ stop ∈ d.stops.head?, stop.router = r) ∧
    d.stops.IsChain fun stop next => stop.target.resolve registry = .ok (.router next.router)
  /-- The router at every stop matches the same request. -/
  levels : ∀ stop ∈ d.stops, ∃ remembered,
    stop.router.recognize { env with rememberedHost := remembered } = some stop.found
  /-- A later stop wins over an earlier one, and each stop over what was there. -/
  merged : ∀ name, (d.arrived env).params.get? name =
    (d.stops.reverse.findSome? fun stop => stop.found.params.get? name).or (env.params.get? name)
  /-- Names that are there when a stop is passed keep their positions at all later ones. -/
  inPlace : ∀ passed, passed <+: d.stops →
    (passed.foldl (fun params stop => params.merge stop.found.params) env.params).keys <+:
      (d.arrived env).params.keys
  /-- A last target that is an endpoint leaves no controller and no action. -/
  endpoint : ∀ stop e, d.stops.getLast? = some stop → stop.target = .endpoint e →
    (d.arrived env).controller = none ∧ (d.arrived env).action = none
  /-- A last target that is a controller leaves its name and its action. -/
  controller : ∀ stop name action, d.stops.getLast? = some stop →
    stop.target = .controller name action →
      (d.arrived env).controller = some name ∧ (d.arrived env).action = action
  /-- Nothing else of the request is changed. -/
  kept : ∃ params controller action remembered, d.arrived env =
    { env with params, controller, action, rememberedHost := remembered }
  /-- If the outermost router matches nothing, nothing is found and nothing is changed. -/
  unchanged : r.recognize env = none →
    r.call registry env = some (.ok .notFound, { env with rememberedHost := d.remembered })
  /-- If the innermost router reached matches nothing, nothing is found. -/
  notFound : ∀ stop inner, d.stops.getLast? = some stop →
    stop.target.resolve registry = .ok (.router inner) →
      r.call registry env = some (.ok .notFound, d.arrived env)
  /-- A handler at the end is entered. -/
  leaf : ∀ stop h, d.stops.getLast? = some stop →
    stop.target.resolve registry = .ok (.handler h) →
      r.call registry env = some (.ok (h (d.arrived env)).1, (h (d.arrived env)).2)
  /-- A controller that is not registered is an error if the outermost router leads to it, and a
  response with the text of the error if an inner one does. -/
  unresolved : ∀ passed stop name action, d.stops = passed ++ [stop] →
    stop.target = .controller name action → registry.resolve? name = none →
      let error := Error.unresolvedController name
      r.call registry env =
        some (if passed = [] then .error error
          else .ok { status := .internalError, body := error.message }, d.arrived env)
  /-- There are no other errors. -/
  error : (∃ error after, r.call registry env = some (.error error, after)) ↔
    ∃ first name action, r.recognize env = some first ∧
      first.entry.toRoute.target = .controller name action ∧ registry.resolve? name = none

/-- A call is an error just if the outermost router leads to a controller that is not
registered. -/
theorem exists_call_eq_error_iff (registry : Registry) (r : Router) (env : Env) :
    (∃ error after, r.call registry env = some (.error error, after)) ↔
      ∃ first name action, r.recognize env = some first ∧
        first.entry.toRoute.target = .controller name action ∧ registry.resolve? name = none := by
  cases recognized : r.recognize env with
  | none =>
    rw [Router.call_of_none recognized]
    simp
  | some found =>
    rw [call_of_recognized registry recognized]
    cases leads : found.entry.toRoute.target.resolve registry with
    | error error =>
      obtain ⟨name, action, target, unregistered, rfl⟩ := Target.resolve_eq_error_iff.mp leads
      rw [Target.call_of_error leads]
      refine iff_of_true ⟨_, _, rfl⟩ ⟨found, name, action, rfl, target, unregistered⟩
    | ok e =>
      rw [Target.call_of_ok leads]
      refine iff_of_false ?_ ?_
      · rintro ⟨error, after, failed⟩
        obtain ⟨answered, -, failed⟩ := Option.map_eq_some_iff.mp failed
        cases failed
      · rintro ⟨_, name, action, ⟨⟩, target, unregistered⟩
        rw [Target.resolve_eq_error_iff.mpr ⟨name, action, target, unregistered, rfl⟩] at leads
        cases leads

theorem Descends.answers {registry : Registry} {r : Router} {env : Env} {d : Descent}
    (way : Descends registry r env d) : Answers registry r env d where
  nested := ⟨way.router_of_head?, way.isChain⟩
  levels := way.recognizes
  merged := by
    have nodup : ∀ stop ∈ d.stops, stop.found.params.keys.Nodup := by
      intro stop mem
      obtain ⟨remembered, recognizes⟩ := way.recognizes stop mem
      exact nodup_keys_of_recognize recognizes
    intro name
    rw [Descent.params_arrived, get?_mergeAll nodup]
  inPlace := by
    rintro passed ⟨later, stops⟩
    rw [Descent.params_arrived, ← stops, List.foldl_append]
    exact keys_prefix_mergeAll later _
  endpoint := by
    intro stop e last target
    rw [Descent.arrived_eq last, target]
    exact ⟨rfl, rfl⟩
  controller := by
    intro stop name action last target
    rw [Descent.arrived_eq last, target]
    exact ⟨rfl, rfl⟩
  kept := d.exists_arrived_eq env
  unchanged := by
    intro nothing
    cases way with
    | lost again =>
      rw [Router.call_of_none nothing, settle_eq]
    | handler recognized => simp [nothing] at recognized
    | refused recognized => simp [nothing] at recognized
    | router recognized => simp [nothing] at recognized
  notFound := by
    intro stop inner last leads
    rw [call_eq_answer way, Descent.answer, (way.ends last).2.2 inner leads]
  leaf := by
    intro stop h last leads
    rw [call_eq_answer way, Descent.answer, (way.ends last).1 h leads]
    rfl
  unresolved := by
    intro passed stop name action stops target unregistered
    have last : d.stops.getLast? = some stop := by rw [stops, List.getLast?_concat]
    have leads := Target.resolve_eq_error_iff.mpr ⟨name, action, target, unregistered, rfl⟩
    rw [call_eq_answer way, Descent.answer, (way.ends last).2.1 _ leads, stops]
    cases passed with
    | nil => rfl
    | cons first rest => simp [Response.ofResult]
  error := exists_call_eq_error_iff registry r env

/-- A call of a router answers as the way of the request through the routers in it says, whatever
is nested in it and however deep. Through a tree of routers there always is such a way, and only
one. -/
theorem answers_descend (registry : Registry) (r : Router) (env : Env) :
    (Tree registry r → ∃! d, Descends registry r env d) ∧
      ∀ d, Descends registry r env d → Answers registry r env d := by
  constructor
  · intro tree
    obtain ⟨d, way⟩ := exists_descends_of_tree tree env
    exact ⟨d, way, fun _ other => way.unique other⟩
  · intro d way
    exact way.answers

/-! ### An example -/

/-- The handler that shows what a parameter names. -/
def showItem : Handler := fun env => ({ body := (env.params.value? "id").getD "" }, env)

/-- A route to all that is in the sections of a shop. Their controller is looked up. -/
def browse : Route :=
  ⟨"/:section/*rest", ⟨"/:section/*rest",
    [.literal "/", .capture "section" none, .literal "/", .splat "rest" none],
    ["section", "rest"]⟩, .controller "Sections" (some "browse"), none⟩

/-- A route to one item. -/
def item : Route :=
  ⟨"/:section/:id", ⟨"/:section/:id",
    [.literal "/", .capture "section" none, .literal "/", .capture "id" none],
    ["section", "id"]⟩, .endpoint (.handler showItem), none⟩

/-- A route to the reviews of an item. Their controller is looked up. -/
def reviews : Route :=
  ⟨"/:section/:id/reviews", ⟨"/:section/:id/reviews",
    [.literal "/", .capture "section" none, .literal "/", .capture "id" none, .literal "/reviews"],
    ["section", "id"]⟩, .controller "Reviews" (some "index"), none⟩

/-- The router of the shop. -/
def shop : Router :=
  ({} : Router).push (.route browse) [.get]

/-- The router of the sections. -/
def sections : Router :=
  (({} : Router).push (.route item) [.get]).push (.route reviews) [.get]

/-- The sections are a controller, and there is none for the reviews. -/
def controllers : Registry :=
  ({} : Registry).register "sections" (.router sections)

theorem resolve?_controllers :
    controllers.resolve? "Sections" = some (.router sections) ∧
      controllers.resolve? "Reviews" = none :=
  ⟨rfl, rfl⟩

theorem tree_shop : Tree controllers shop := by
  obtain ⟨registered, unregistered⟩ := resolve?_controllers
  refine .node ?_
  intro entry mem next leads
  have only : entry = .route browse := List.mem_singleton.mp (Array.mem_toList_iff.mpr mem)
  have same : sections = next := by
    simpa [only, Entry.toRoute, browse, Target.resolve, registered] using leads
  subst same
  refine .node ?_
  intro entry mem next leads
  have either : entry = .route item ∨ entry = .route reviews := by
    simpa [sections, push] using mem
  rcases either with rfl | rfl
  · cases leads
  · simp [Entry.toRoute, reviews, Target.resolve, unregistered] at leads

theorem candidates_shop (path : String) :
    shop.candidates (Env.get path).method = [.route browse] :=
  candidates_method shop .get

theorem candidates_sections (path : String) :
    sections.candidates (Env.get path).method = [.route item, .route reviews] :=
  candidates_method sections .get

/-- A router does not ask for the host if none of the entries that it tries does. -/
theorem settle_of_unguarded {r : Router} {env : Env} {entries : List Entry}
    (tried : r.candidates env.method = entries)
    (unguarded : ∀ entry ∈ entries, entry.hostPattern? = none) : r.settle env = env := by
  have unasked : asksHost r.config.trustForwardedHost env entries = false := by
    clear tried
    induction entries with
    | nil => rfl
    | cons entry rest ih =>
      rw [asksHost, unguarded entry List.mem_cons_self,
        ih fun other mem => unguarded other (List.mem_cons_of_mem _ mem)]
      simp
  refine if_neg ?_
  rw [tried, unasked]
  exact Bool.false_ne_true

/-- The way of a request that the shop passes on to the sections. -/
theorem descends_shop (path : String) (params : Params) {d : Descent}
    (matched : browse.template.match? path = some params)
    (inside : Descends controllers sections (Env.get path) d) :
    Descends controllers shop (Env.get path) (d.before ⟨shop, ⟨.route browse, params⟩⟩) := by
  have settled : shop.settle (Env.get path) = Env.get path :=
    settle_of_unguarded (candidates_shop path) (by simp [Entry.hostPattern?])
  refine .router ?_ ?_ (settled ▸ inside)
  · rw [recognize, candidates_shop]
    simp [firstMatch, Entry.match?_route, Env.get, matched]
  · simp [Entry.toRoute, browse, Target.resolve, resolve?_controllers.1]

/-- An item is shown by a handler, so that the controllers on the way to it are forgotten. Reviews
are asked of a controller that is not registered, which the shop answers for. -/
theorem answers_descend_shop :
    let shown := Env.get "/tea/7"
    let refused := Env.get "/tea/7/reviews"
    let error := Error.unresolvedController "Reviews"
    Tree controllers shop ∧ (∃! d, Descends controllers shop shown d) ∧
      shop.call controllers shown = some (.ok { body := "7" },
        { shown with
          params := ⟨[("section", some "tea"), ("rest", some "7"), ("id", some "7")]⟩ }) ∧
      shop.call controllers refused =
        some (.ok { status := .internalError, body := error.message },
          { refused with
            params := ⟨[("section", some "tea"), ("rest", some "7/reviews"), ("id", some "7")]⟩
            controller := some "Reviews"
            action := some "index" }) := by
  intro shown refused error
  let captured : Params := ⟨[("section", some "tea"), ("id", some "7")]⟩
  have settled (path : String) : sections.settle (Env.get path) = Env.get path :=
    settle_of_unguarded (candidates_sections path) (by simp [Entry.hostPattern?])
  have matched : item.template.match? "/tea/7" = some captured := by decide +kernel
  have missed : item.template.match? "/tea/7/reviews" = none := by decide +kernel
  have matched' : reviews.template.match? "/tea/7/reviews" = some captured := by decide +kernel
  have recognized : sections.recognize shown = some ⟨.route item, captured⟩ := by
    rw [recognize, candidates_sections]
    simp [firstMatch, Entry.match?_route, shown, Env.get, matched]
  have recognized' : sections.recognize refused = some ⟨.route reviews, captured⟩ := by
    rw [recognize, candidates_sections]
    simp [firstMatch, Entry.match?_route, refused, Env.get, missed, matched']
  have inside : Descends controllers sections shown _ := .handler recognized rfl
  have inside' : Descends controllers sections refused _ := .refused recognized'
    (Target.resolve_eq_error_iff.mpr ⟨_, _, rfl, resolve?_controllers.2, rfl⟩)
  rw [settled] at inside inside'
  have way := descends_shop "/tea/7" ⟨[("section", some "tea"), ("rest", some "7")]⟩
    (by decide +kernel) inside
  have way' := descends_shop "/tea/7/reviews"
    ⟨[("section", some "tea"), ("rest", some "7/reviews")]⟩ (by decide +kernel) inside'
  refine ⟨tree_shop, (answers_descend _ _ _).1 tree_shop, ?_, ?_⟩
  · rw [((answers_descend _ _ _).2 _ way).leaf _ _ rfl rfl]
    decide +kernel
  · rw [((answers_descend _ _ _).2 _ way').unresolved [_] _ _ _ rfl rfl resolve?_controllers.2]
    decide +kernel

end Router

end PathRouting

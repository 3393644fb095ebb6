import Mathlib.Data.List.Nodup
import PathRouting.Proofs.LateBinding
import PathRouting.Proofs.Naming.RouteName
import PathRouting.Router.Build

/-!
What a router holds after any calls, read off the record of what the calls have added.

A call registers something in scopes. It fails and changes nothing, or it adds one entry for some
verbs (`attempt_eq`), so a router is known from its record. `Recorded` says how: the positions for a
verb are those recorded for it, and a name belongs to the last position recorded under it. One push
keeps this (`Recorded.push`), and so do any calls (`recorded_afterCalls`). Building a router step by
step is making calls: `traceSteps` lists them, whatever the workspace (`runSteps_eq_trace`,
`exists_calls_of_build`).
-/

namespace PathRouting.Router

/-! ### Calls -/

/-- The router without entries that has the given settings and the given base. -/
def blank (config : Config) (base : Url.Base) : Router :=
  { config, base }

/-- Something that is registered in scopes, which are given from the inside out. -/
structure Call where
  scopes : List Scope
  registration : Registration

/-- The registration as it reaches the router. -/
def Call.joined (c : Call) : Registration :=
  c.scopes.foldl Registration.within c.registration

/-- What a call adds to a router: an entry and the verbs it is for, unless the call fails. -/
def Call.added? (c : Call) : Option (Entry × List Verb) :=
  c.joined.entry.toOption

/-- The router after a call, which is the router before if the call fails. -/
def attempt (r : Router) (c : Call) : Router :=
  match r.registerWithin c.scopes c.registration with
  | .ok (_, after) => after
  | .error _ => r

/-- The router after some calls, one after the other. -/
def afterCalls (r : Router) (calls : List Call) : Router :=
  calls.foldl attempt r

/-- What some calls add, in order. -/
def record (calls : List Call) : List (Entry × List Verb) :=
  calls.filterMap Call.added?

@[simp] theorem afterCalls_nil (r : Router) : r.afterCalls [] = r := rfl

@[simp] theorem afterCalls_cons (r : Router) (c : Call) (calls : List Call) :
    r.afterCalls (c :: calls) = (r.attempt c).afterCalls calls := rfl

theorem afterCalls_append (r : Router) (calls more : List Call) :
    r.afterCalls (calls ++ more) = (r.afterCalls calls).afterCalls more :=
  List.foldl_append

theorem registerWithin_eq (r : Router) (c : Call) :
    r.registerWithin c.scopes c.registration =
      c.joined.entry.map fun (entry, verbs) => (entry, r.push entry verbs) := rfl

theorem added?_eq_some_iff {c : Call} {added : Entry × List Verb} :
    c.added? = some added ↔ c.joined.entry = .ok added := by
  unfold Call.added?
  cases c.joined.entry with
  | error e => simp [Except.toOption]
  | ok other => simp [Except.toOption]

/-- A call fails without a trace, or pushes what it adds. -/
theorem attempt_eq (r : Router) (c : Call) :
    r.attempt c =
      match c.added? with
      | some (entry, verbs) => r.push entry verbs
      | none => r := by
  unfold attempt Call.added?
  rw [registerWithin_eq]
  cases c.joined.entry with
  | error e => rfl
  | ok added => rfl

/-- What no push changes, no calls change. -/
theorem afterCalls_keeps {α : Type} (view : Router → α)
    (kept : ∀ r entry verbs, view (r.push entry verbs) = view r) (r : Router)
    (calls : List Call) : view (r.afterCalls calls) = view r := by
  induction calls generalizing r with
  | nil => rfl
  | cons c calls ih =>
    rw [afterCalls_cons, ih, attempt_eq]
    cases c.added? with
    | none => rfl
    | some added => exact kept r added.1 added.2

theorem config_afterCalls (r : Router) (calls : List Call) :
    (r.afterCalls calls).config = r.config :=
  afterCalls_keeps Router.config (fun _ _ _ => rfl) r calls

theorem base_afterCalls (r : Router) (calls : List Call) : (r.afterCalls calls).base = r.base :=
  afterCalls_keeps Router.base (fun _ _ _ => rfl) r calls

/-! ### What can be added -/

theorem exists_of_bind_eq_ok {ε α β : Type} {x : Except ε α} {next : α → Except ε β} {b : β}
    (h : x >>= next = .ok b) : ∃ a, x = .ok a ∧ next a = .ok b := by
  cases x with
  | error e => cases h
  | ok a => exact ⟨a, rfl, h⟩

theorem entry_route_eq_ok {text path : String} {spec : RouteSpec} {added : Entry × List Verb}
    (h : (Registration.route text path spec).entry = .ok added) :
    ∃ verb route, Verb.parse text = .ok verb ∧ Route.create path spec = .ok route ∧
      added = (.route route, [verb]) := by
  obtain ⟨verb, parsed, rest⟩ := exists_of_bind_eq_ok h
  obtain ⟨route, created, last⟩ := exists_of_bind_eq_ok rest
  cases last
  exact ⟨verb, route, parsed, created, rfl⟩

theorem entry_mount_eq_ok {path : String} {endpoint : Endpoint} {host : Option String}
    {added : Entry × List Verb} (h : (Registration.mount path endpoint host).entry = .ok added) :
    ∃ mount, Mount.create path endpoint host = .ok mount ∧ added = (.mount mount, Verb.all) := by
  obtain ⟨mount, created, last⟩ := exists_of_bind_eq_ok h
  cases last
  exact ⟨mount, created, rfl⟩

/-- The route in a mount leads to the endpoint that is mounted, and is declared without a name. -/
theorem create_route_of_mount {path : String} {endpoint : Endpoint} {host : Option String}
    {mount : Mount} (h : Mount.create path endpoint host = .ok mount) :
    Route.create path { destination := .endpoint endpoint } = .ok mount.route := by
  obtain ⟨route, created, rest⟩ := exists_of_bind_eq_ok h
  cases host with
  | none => cases rest; exact created
  | some source =>
    dsimp only at rest
    split at rest
    · cases rest; exact created
    · cases rest

theorem name_of_mount_create {path : String} {endpoint : Endpoint} {host : Option String}
    {mount : Mount} (h : Mount.create path endpoint host = .ok mount) :
    mount.route.name = none := by
  obtain ⟨template, -, eq⟩ := Route.create_eq_ok.mp (create_route_of_mount h)
  rw [eq]
  rfl

/-- What a call can add: a route for one verb, whose name is spelled as route names are, or a mount
for all verbs, which has no name. -/
inductive Addable : Entry × List Verb → Prop
  | route (route : Route) (verb : Verb)
      (spelled : ∀ name, route.name = some name → Naming.routeName name = name) :
      Addable (.route route, [verb])
  | mount (mount : Mount) (unnamed : mount.route.name = none) : Addable (.mount mount, Verb.all)

theorem addable_of_entry {registration : Registration} {added : Entry × List Verb}
    (h : registration.entry = .ok added) : Addable added := by
  cases registration with
  | route text path spec =>
    obtain ⟨verb, route, -, created, rfl⟩ := entry_route_eq_ok h
    refine .route route verb ?_
    intro name named
    obtain ⟨template, -, rfl⟩ := Route.create_eq_ok.mp created
    obtain ⟨given, -, rfl⟩ := Option.map_eq_some_iff.mp named
    exact Naming.routeName_routeName given
  | mount path endpoint host =>
    obtain ⟨mount, created, rfl⟩ := entry_mount_eq_ok h
    exact .mount mount (name_of_mount_create created)

theorem addable_of_added? {c : Call} {added : Entry × List Verb} (h : c.added? = some added) :
    Addable added :=
  addable_of_entry (added?_eq_some_iff.mp h)

theorem addable_of_mem_record {calls : List Call} {added : Entry × List Verb}
    (mem : added ∈ record calls) : Addable added := by
  obtain ⟨c, -, adds⟩ := List.mem_filterMap.mp mem
  exact addable_of_added? adds

theorem Addable.nodup {added : Entry × List Verb} (h : Addable added) : added.2.Nodup := by
  cases h with
  | route => exact List.nodup_singleton _
  | mount => exact (by decide : Verb.all.Nodup)

/-! ### One push -/

theorem positions_indexVerb (position : Nat) (index : OrderedMap Verb (List Nat))
    {verbs : List Verb} (nodup : verbs.Nodup) (verb : Verb) :
    ((verbs.foldl (indexVerb position) index).get? verb).getD [] =
      (index.get? verb).getD [] ++ if verb ∈ verbs then [position] else [] := by
  induction verbs generalizing index with
  | nil => simp
  | cons first rest ih =>
    obtain ⟨fresh, nodup'⟩ := List.nodup_cons.mp nodup
    rw [List.foldl_cons, ih _ nodup', indexVerb, OrderedMap.get?_insert]
    by_cases same : verb = first
    · subst same
      simp [fresh]
    · simp [same]

theorem positions_push (r : Router) (entry : Entry) {verbs : List Verb} (nodup : verbs.Nodup)
    (verb : Verb) :
    (r.push entry verbs).positions verb =
      r.positions verb ++ if verb ∈ verbs then [r.size] else [] :=
  positions_indexVerb r.size r.byVerb nodup verb

theorem entries_push (r : Router) (entry : Entry) (verbs : List Verb) :
    (r.push entry verbs).entries.toList = r.entries.toList ++ [entry] := by
  simp [push]

theorem get?_named_push (r : Router) (entry : Entry) (verbs : List Verb) (name : String) :
    (r.push entry verbs).named.get? name =
      if entry.toRoute.name = some name then some r.size else r.named.get? name := by
  unfold push
  cases entry.toRoute.name with
  | none => simp
  | some given =>
    simp only [OrderedMap.get?_insert, Option.some.injEq]
    exact if_congr eq_comm rfl rfl

/-! ### Records -/

/-- Where a record has something for a verb. -/
def positionsFor (verb : Verb) (record : List (Entry × List Verb)) : List Nat :=
  record.findIdxs fun added => decide (verb ∈ added.2)

/-- Where a record has an entry of a name. -/
def positionsOf (name : String) (record : List (Entry × List Verb)) : List Nat :=
  record.findIdxs fun added => decide (added.1.toRoute.name = some name)

theorem mem_positionsFor {verb : Verb} {record : List (Entry × List Verb)} {position : Nat} :
    position ∈ positionsFor verb record ↔
      ∃ added, record[position]? = some added ∧ verb ∈ added.2 := by
  simp [positionsFor, List.getElem?_eq_some_iff]

theorem mem_positionsOf {name : String} {record : List (Entry × List Verb)} {position : Nat} :
    position ∈ positionsOf name record ↔
      ∃ added, record[position]? = some added ∧ added.1.toRoute.name = some name := by
  simp [positionsOf, List.getElem?_eq_some_iff]

/-- A router and the record of what was added to it: the entries are those recorded, the positions
for a verb are those recorded for it, and a name belongs to the last position recorded under it. -/
structure Recorded (r : Router) (record : List (Entry × List Verb)) : Prop where
  entries : r.entries.toList = record.map Prod.fst
  positions : ∀ verb, r.positions verb = positionsFor verb record
  named : ∀ name, r.named.get? name = (positionsOf name record).getLast?

theorem recorded_blank (config : Config) (base : Url.Base) : Recorded (blank config base) [] where
  entries := rfl
  positions := fun _ => rfl
  named := fun _ => rfl

theorem Recorded.size {r : Router} {record : List (Entry × List Verb)} (h : Recorded r record) :
    r.size = record.length := by
  have length := congrArg List.length h.entries
  simpa [Router.size] using length

theorem Recorded.getElem?_entries {r : Router} {record : List (Entry × List Verb)}
    (h : Recorded r record) (position : Nat) :
    r.entries[position]? = record[position]?.map Prod.fst := by
  rw [← Array.getElem?_toList, h.entries, List.getElem?_map]

/-- A push adds to the record what it pushes. -/
theorem Recorded.push {r : Router} {record : List (Entry × List Verb)} (h : Recorded r record)
    {entry : Entry} {verbs : List Verb} (nodup : verbs.Nodup) :
    Recorded (r.push entry verbs) (record ++ [(entry, verbs)]) where
  entries := by rw [entries_push, h.entries, List.map_append]; rfl
  positions := by
    intro verb
    rw [positions_push r entry nodup, h.positions, h.size]
    simp [positionsFor, List.findIdxs_append]
  named := by
    intro name
    rw [get?_named_push, h.named, h.size]
    by_cases named : entry.toRoute.name = some name
    · simp [positionsOf, List.findIdxs_append, named]
    · simp [positionsOf, List.findIdxs_append, named]

/-- Whatever calls are made on a router with a record, what they add is put after it. -/
theorem Recorded.afterCalls {r : Router} {before : List (Entry × List Verb)}
    (h : Recorded r before) (calls : List Call) :
    Recorded (r.afterCalls calls) (before ++ record calls) := by
  induction calls generalizing r before with
  | nil => simpa [record] using h
  | cons c calls ih =>
    rw [afterCalls_cons, attempt_eq]
    cases adds : c.added? with
    | none =>
      have skipped : record (c :: calls) = record calls := List.filterMap_cons_none adds
      rw [skipped]
      exact ih h
    | some added =>
      obtain ⟨entry, verbs⟩ := added
      have taken : record (c :: calls) = (entry, verbs) :: record calls :=
        List.filterMap_cons_some adds
      rw [taken, List.append_cons]
      exact ih (h.push (addable_of_added? adds).nodup)

theorem recorded_afterCalls (config : Config) (base : Url.Base) (calls : List Call) :
    Recorded ((blank config base).afterCalls calls) (record calls) := by
  have recorded := (recorded_blank config base).afterCalls calls
  rwa [List.nil_append] at recorded

/-! ### Building -/

theorem eq_blank_of_begin? {config : Option Config} {r : Router} (h : begin? config = .ok r) :
    r = blank r.config r.base := by
  cases config with
  | none => cases h; rfl
  | some config =>
    have made : config.base.map (fun base => blank config base) = .ok r := h
    cases parsed : config.base with
    | error e => rw [parsed] at made; cases made
    | ok base => rw [parsed] at made; cases made; rfl

/-- Registering in a workspace is one call. -/
theorem router_register (w : Workspace) (scopes : List Scope) (inner : Option (List Report))
    (registration : Registration) :
    (w.register scopes inner registration).2.router =
      w.router.afterCalls [⟨scopes, registration⟩] := by
  rw [afterCalls_cons, afterCalls_nil]
  unfold Workspace.register attempt
  cases w.router.registerWithin scopes registration with
  | error e => rfl
  | ok added => rfl

/-- Why a call fails, if it does. -/
def Call.error? (c : Call) : Option Error :=
  match c.joined.entry with
  | .error error => some error
  | .ok _ => none

mutual

/-- The calls that a step of building makes in scopes, and the failure that it reports. The calls of
a nested router are made on that router; what they leave is registered by one call. -/
def Step.trace (scopes : List Scope) : Step → List Call × Option Error
  | .register registration =>
    let c : Call := ⟨scopes, registration⟩
    ([c], c.error?)
  | .nest config steps use =>
    match begin? config with
    | .error _ => ([], none)
    | .ok inner =>
      let c : Call :=
        ⟨scopes, use (.router (inner.afterCalls (traceSteps [] false steps).1))⟩
      ([c], c.error?)
  | .scope scope keepsGoing steps => traceSteps (scope :: scopes) (!keepsGoing) steps
  | .ask _ => ([], none)
  | .registry _ => ([], none)

/-- The calls of the steps that are taken, and the failure that ended them. -/
def traceSteps (scopes : List Scope) (failuresEnd : Bool) : List Step → List Call × Option Error
  | [] => ([], none)
  | step :: rest =>
    let (calls, failure) := step.trace scopes
    match if failuresEnd then failure else none with
    | some error => (calls, some error)
    | none =>
      let (later, failure) := traceSteps scopes failuresEnd rest
      (calls ++ later, failure)

end

theorem failure?_register (w : Workspace) (scopes : List Scope) (inner : Option (List Report))
    (registration : Registration) :
    (w.register scopes inner registration).1.failure? = (Call.mk scopes registration).error? := by
  unfold Workspace.register Call.error?
  rw [registerWithin_eq w.router ⟨scopes, registration⟩]
  cases (Call.mk scopes registration).joined.entry with
  | error e => rfl
  | ok added => rfl

mutual

/-- What a step of building does to the router, and whether it fails, is told by its trace. -/
theorem run_eq_trace (scopes : List Scope) (step : Step) (w : Workspace) :
    (step.run scopes w).2.router = w.router.afterCalls (step.trace scopes).1 ∧
      (step.run scopes w).1.failure? = (step.trace scopes).2 := by
  cases step with
  | register registration =>
    rw [Step.run, Step.trace]
    exact ⟨router_register .., failure?_register ..⟩
  | nest config steps use =>
    rw [Step.run, Step.trace]
    cases begin? config with
    | error e => exact ⟨rfl, rfl⟩
    | ok inner =>
      dsimp only
      rw [(runSteps_eq_trace [] false steps ⟨inner, w.registry⟩).1]
      exact ⟨router_register .., failure?_register ..⟩
  | scope scope keepsGoing steps =>
    rw [Step.run, Step.trace]
    exact runSteps_eq_trace (scope :: scopes) (!keepsGoing) steps w
  | ask query => rw [Step.run, Step.trace]; exact ⟨rfl, rfl⟩
  | registry change => rw [Step.run, Step.trace]; exact ⟨rfl, rfl⟩

/-- The same of steps that are taken one after the other. -/
theorem runSteps_eq_trace (scopes : List Scope) (failuresEnd : Bool) (steps : List Step)
    (w : Workspace) :
    (runSteps scopes failuresEnd steps w).2.2.router =
        w.router.afterCalls (traceSteps scopes failuresEnd steps).1 ∧
      (runSteps scopes failuresEnd steps w).2.1 = (traceSteps scopes failuresEnd steps).2 := by
  cases steps with
  | nil => rw [runSteps, traceSteps]; exact ⟨rfl, rfl⟩
  | cons step rest =>
    obtain ⟨router, failure⟩ := run_eq_trace scopes step w
    rw [runSteps, traceSteps]
    dsimp only
    rw [failure]
    cases if failuresEnd then (step.trace scopes).2 else none with
    | some error => exact ⟨router, rfl⟩
    | none =>
      obtain ⟨router', failure'⟩ := runSteps_eq_trace scopes failuresEnd rest (step.run scopes w).2
      dsimp only
      rw [afterCalls_append, ← router]
      exact ⟨router', failure'⟩

end

/-- Every router that is built step by step is a blank router after some calls. -/
theorem exists_calls_of_build {config : Option Config} {registry : Registry} {steps : List Step}
    {reports : List Report} {w : Workspace} (h : build config registry steps = .ok (reports, w)) :
    ∃ config base calls, w.router = (blank config base).afterCalls calls := by
  unfold build at h
  cases begun : begin? config with
  | error e => rw [begun] at h; cases h
  | ok start =>
    rw [begun] at h
    cases h
    obtain ⟨same, -⟩ := runSteps_eq_trace [] false steps ⟨start, registry⟩
    exact ⟨start.config, start.base, _, by rw [← eq_blank_of_begin? begun]; exact same⟩

end PathRouting.Router

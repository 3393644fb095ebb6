import PathRouting.Proofs.Router.Record

/-!
Registrations that fail, and what they leave behind.

A registration writes to three places of a router. `Registration.carryOut` makes these writes one by
one, so that an error would leave the writes before it; it agrees with registering at once
(`carryOut_apply`), hence no error comes after a write. `prunedSteps` deletes from steps of building
what fails. Main statements: `traceSteps_pruned` (only the calls that fail are lost),
`exists_of_ended` (where steps that a failure has ended have stopped).
-/

namespace PathRouting.Router

/-! ### Write by write -/

/-- A computation on a router whose errors leave the writes that were made before. -/
abbrev Writing := ExceptT Error (StateM Router)

namespace Writing

theorem bind_apply {α β : Type} (x : Writing α) (next : α → Writing β) (r : Router) :
    (x >>= next) r =
      match x r with
      | (.ok a, after) => next a after
      | (.error e, after) => (.error e, after) := by
  change (match x r with | (a, after) => ExceptT.bindCont next a after) = _
  rcases x r with ⟨result, after⟩
  cases result with
  | ok a => rfl
  | error e => rfl

theorem get_apply (r : Router) : (get : Writing Router) r = (.ok r, r) := rfl

theorem modify_apply (change : Router → Router) (r : Router) :
    (modify change : Writing PUnit) r = (.ok .unit, change r) := rfl

theorem liftM_apply {α : Type} (x : Except Error α) (r : Router) :
    (liftM x : Writing α) r = (x, r) := rfl

end Writing

/-- Writes the name of an entry at a position to the index by name, if the entry has a name. -/
def storeName (position : Nat) (entry : Entry) : Writing PUnit :=
  match entry.toRoute.name with
  | some name => modify fun r => { r with named := r.named.insert name position }
  | none => return

/-- Writes an entry to the index by name, to the entries and to the index by verb, one verb after
the other, and looks it up where it was put. -/
def store (entry : Entry) (verbs : List Verb) : Writing (Option Entry) := do
  let position := (← get).size
  storeName position entry
  modify fun r => { r with entries := r.entries.push entry }
  verbs.forM fun verb => modify fun r => { r with byVerb := indexVerb position r.byVerb verb }
  return (← get).entries[position]?

/-- Reports that an entry was not found where it was put. -/
def lost (path : String) : Writing Entry :=
  throw (.template path (.other "mount entry was not stored"))

/-- Registers write by write, and reports the entry that was stored. -/
def Registration.carryOut : Registration → Writing Entry
  | .route text path spec => do
    let verb ← Verb.parse text
    let route ← Route.create path spec
    match ← store (.route route) [verb] with
    | some entry => return entry
    | none => lost path
  | .mount path endpoint host => do
    let mount ← Mount.create path endpoint host
    match ← store (.mount mount) Verb.all with
    | some (.mount stored) => return .mount stored
    | _ => lost path

theorem forM_indexVerb_apply (position : Nat) (verbs : List Verb) (r : Router) :
    (verbs.forM fun verb => modify fun r =>
        { r with byVerb := indexVerb position r.byVerb verb } : Writing PUnit) r =
      (.ok .unit, { r with byVerb := verbs.foldl (indexVerb position) r.byVerb }) := by
  induction verbs generalizing r with
  | nil =>
    cases r
    rfl
  | cons verb rest ih => exact ih { r with byVerb := indexVerb position r.byVerb verb }

theorem store_apply (entry : Entry) (verbs : List Verb) (r : Router) :
    store entry verbs r = (.ok (some entry), r.push entry verbs) := by
  have found : (r.push entry verbs).entries[r.size]? = some entry := by
    simp [push, size]
  have named : storeName r.size entry r = (.ok .unit, { r with
      named := match entry.toRoute.name with
        | some name => r.named.insert name r.size
        | none => r.named }) := by
    unfold storeName
    cases entry.toRoute.name with
    | none =>
      cases r
      rfl
    | some name => rfl
  unfold store
  rw [Writing.bind_apply, Writing.get_apply]
  dsimp only
  rw [Writing.bind_apply, named]
  dsimp only
  rw [Writing.bind_apply, Writing.modify_apply]
  dsimp only
  rw [Writing.bind_apply, forM_indexVerb_apply]
  exact Prod.ext (congrArg Except.ok found) rfl

theorem carryOut_apply (registration : Registration) (r : Router) :
    registration.carryOut r =
      match r.register registration with
      | .ok (entry, after) => (.ok entry, after)
      | .error error => (.error error, r) := by
  cases registration with
  | route text path spec =>
    unfold Registration.carryOut register Registration.entry
    dsimp only
    rw [Writing.bind_apply, Writing.liftM_apply]
    cases Verb.parse text with
    | error e => rfl
    | ok verb =>
      dsimp only
      rw [Writing.bind_apply, Writing.liftM_apply]
      cases Route.create path spec with
      | error e => rfl
      | ok route =>
        dsimp only
        rw [Writing.bind_apply, store_apply]
        rfl
  | mount path endpoint host =>
    unfold Registration.carryOut register Registration.entry
    dsimp only
    rw [Writing.bind_apply, Writing.liftM_apply]
    cases Mount.create path endpoint host with
    | error e => rfl
    | ok mount =>
      dsimp only
      rw [Writing.bind_apply, store_apply]
      rfl

/-! ### Calls that fail -/

/-- Whether a call adds something. -/
def Call.succeeds (c : Call) : Bool :=
  c.added?.isSome

theorem succeeds_eq (c : Call) : c.succeeds = c.error?.isNone := by
  unfold Call.succeeds Call.added? Call.error?
  cases c.joined.entry with
  | error e => rfl
  | ok added => rfl

theorem error?_eq_some_iff {c : Call} {error : Error} :
    c.error? = some error ↔ c.joined.entry = .error error := by
  unfold Call.error?
  cases c.joined.entry with
  | error e => simp
  | ok added => simp

theorem attempt_eq_carryOut (r : Router) (c : Call) :
    r.attempt c = (c.joined.carryOut r).2 := by
  unfold attempt registerWithin
  rw [carryOut_apply]
  change (match r.register c.joined with | .ok (_, after) => after | .error _ => r) = _
  cases r.register c.joined with
  | error e => rfl
  | ok added => rfl

theorem attempt_of_error? {c : Call} {error : Error} (failed : c.error? = some error)
    (r : Router) : r.attempt c = r := by
  rw [attempt_eq_carryOut, carryOut_apply, register, error?_eq_some_iff.mp failed]
  rfl

/-- A call that fails is refused, and its writes have not begun. -/
theorem refused_of_error? {c : Call} {error : Error} (failed : c.error? = some error)
    (w : Workspace) (inner : Option (List Report)) :
    c.joined.carryOut w.router = (.error error, w.router) ∧
      w.register c.scopes inner c.registration = (.refused error, w) := by
  have fails := error?_eq_some_iff.mp failed
  constructor
  · rw [carryOut_apply, register, fails]
    rfl
  · unfold Workspace.register
    rw [registerWithin_eq, fails]
    rfl

/-- The router after some calls is the router after those of them that succeed. -/
theorem afterCalls_filter (r : Router) (calls : List Call) :
    r.afterCalls (calls.filter Call.succeeds) = r.afterCalls calls := by
  induction calls generalizing r with
  | nil => rfl
  | cons c calls ih =>
    rw [afterCalls_cons, ← ih]
    cases succeeds : c.succeeds with
    | true => rw [List.filter_cons_of_pos succeeds, afterCalls_cons]
    | false =>
      have nothing : c.added? = none := by simpa [Call.succeeds] using succeeds
      rw [List.filter_cons_of_neg (by simp [succeeds]), attempt_eq, nothing]

/-! ### Steps that fail -/

/-- The step alone, or no step if it fails. -/
def Step.unlessFailing (scopes : List Scope) (step : Step) : List Step :=
  if (step.trace scopes).2.isNone then [step] else []

mutual

/-- What is left of a step when all that fails is deleted: a registration that fails is, and a scope
or a nested router loses the steps in it that do. -/
def Step.pruned (scopes : List Scope) : Step → List Step
  | .register registration => (Step.register registration).unlessFailing scopes
  | .nest config steps use =>
    (Step.nest config (prunedSteps [] false steps) use).unlessFailing scopes
  | .scope scope keepsGoing steps =>
    [.scope scope keepsGoing (prunedSteps (scope :: scopes) (!keepsGoing) steps)]
  | .ask query => [.ask query]
  | .registry step => [.registry step]

/-- What is left of steps when all that fails is deleted. What comes after a failure that ends the
steps is never taken, and is not left either. -/
def prunedSteps (scopes : List Scope) (failuresEnd : Bool) : List Step → List Step
  | [] => []
  | step :: rest =>
    step.pruned scopes ++
      match if failuresEnd then (step.trace scopes).2 else none with
      | some _ => []
      | none => prunedSteps scopes failuresEnd rest

end

theorem traceSteps_append {scopes : List Scope} {failuresEnd : Bool} {steps : List Step}
    (goesOn : (traceSteps scopes failuresEnd steps).2 = none) (more : List Step) :
    traceSteps scopes failuresEnd (steps ++ more) =
      ((traceSteps scopes failuresEnd steps).1 ++ (traceSteps scopes failuresEnd more).1,
        (traceSteps scopes failuresEnd more).2) := by
  induction steps with
  | nil => rw [traceSteps]; rfl
  | cons step rest ih =>
    rw [traceSteps] at goesOn
    rw [List.cons_append, traceSteps, traceSteps]
    dsimp only at goesOn ⊢
    cases ended : if failuresEnd then (step.trace scopes).2 else none with
    | some error =>
      rw [ended] at goesOn
      cases goesOn
    | none =>
      rw [ended] at goesOn
      dsimp only
      rw [ih goesOn, List.append_assoc]

theorem traceSteps_singleton {scopes : List Scope} {step : Step} (failuresEnd : Bool)
    (goesOn : (step.trace scopes).2 = none) :
    traceSteps scopes failuresEnd [step] = ((step.trace scopes).1, none) := by
  rw [traceSteps, traceSteps]
  dsimp only
  rw [goesOn, ite_self]
  dsimp only
  rw [List.append_nil]

/-- A step that makes one call, and fails if the call does, stays if the call succeeds. -/
theorem traceSteps_unlessFailing {scopes : List Scope} {step : Step} {c : Call}
    (single : step.trace scopes = ([c], c.error?)) (failuresEnd : Bool) :
    traceSteps scopes failuresEnd (step.unlessFailing scopes) =
      ((step.trace scopes).1.filter Call.succeeds, none) := by
  unfold Step.unlessFailing
  rw [single, ← succeeds_eq]
  cases succeeds : c.succeeds with
  | true =>
    have goesOn : (step.trace scopes).2 = none := by
      rw [single]
      simpa [succeeds_eq] using succeeds
    rw [if_pos rfl, traceSteps_singleton failuresEnd goesOn, single]
    simp [succeeds]
  | false => simp [succeeds, traceSteps]

mutual

theorem traceSteps_pruned_step (scopes : List Scope) (failuresEnd : Bool) (step : Step) :
    traceSteps scopes failuresEnd (step.pruned scopes) =
      ((step.trace scopes).1.filter Call.succeeds, none) := by
  cases step with
  | register registration =>
    rw [Step.pruned]
    exact traceSteps_unlessFailing (by rw [Step.trace]) failuresEnd
  | nest config steps use =>
    have same : (Step.nest config (prunedSteps [] false steps) use).trace scopes =
        (Step.nest config steps use).trace scopes := by
      rw [Step.trace, Step.trace, traceSteps_pruned [] false steps]
      dsimp only
      simp only [afterCalls_filter]
    rw [Step.pruned, ← same]
    cases begun : begin? config with
    | error e =>
      have nothing : (Step.nest config (prunedSteps [] false steps) use).trace scopes =
          ([], none) := by
        rw [Step.trace, begun]
      unfold Step.unlessFailing
      rw [nothing]
      exact (traceSteps_singleton failuresEnd (by rw [nothing])).trans (by rw [nothing]; rfl)
    | ok inner => exact traceSteps_unlessFailing (by rw [Step.trace, begun]) failuresEnd
  | scope scope keepsGoing steps =>
    have left := traceSteps_pruned (scope :: scopes) (!keepsGoing) steps
    rw [Step.pruned, traceSteps_singleton failuresEnd (by rw [Step.trace, left]), Step.trace,
      Step.trace, left]
  | ask query =>
    rw [Step.pruned, traceSteps_singleton failuresEnd (by rw [Step.trace]), Step.trace]
    rfl
  | registry change =>
    rw [Step.pruned, traceSteps_singleton failuresEnd (by rw [Step.trace]), Step.trace]
    rfl

/-- What is left of steps makes the calls of these steps that succeed, and does not fail. -/
theorem traceSteps_pruned (scopes : List Scope) (failuresEnd : Bool) (steps : List Step) :
    traceSteps scopes failuresEnd (prunedSteps scopes failuresEnd steps) =
      ((traceSteps scopes failuresEnd steps).1.filter Call.succeeds, none) := by
  cases steps with
  | nil => rw [prunedSteps, traceSteps]; rfl
  | cons step rest =>
    have first := traceSteps_pruned_step scopes failuresEnd step
    rw [prunedSteps, traceSteps_append (by rw [first]), first, traceSteps]
    dsimp only
    cases if failuresEnd then (step.trace scopes).2 else none with
    | some error =>
      dsimp only
      rw [traceSteps, List.append_nil]
    | none =>
      dsimp only
      rw [traceSteps_pruned scopes failuresEnd rest, List.filter_append]

end

/-! ### Where a scope stops -/

mutual

/-- The last call of a step that fails is the one that failed. It is the only one, unless the step
is a scope. -/
theorem exists_last_of_failure {scopes : List Scope} {step : Step} {error : Error}
    (failed : (step.trace scopes).2 = some error) :
    ∃ calls c, (step.trace scopes).1 = calls ++ [c] ∧ c.error? = some error ∧
      (calls = [] ∨ ∃ scope keepsGoing steps, step = .scope scope keepsGoing steps) := by
  cases step with
  | register registration =>
    rw [Step.trace] at failed ⊢
    exact ⟨[], _, rfl, failed, .inl rfl⟩
  | nest config steps use =>
    rw [Step.trace] at failed ⊢
    cases begun : begin? config with
    | error e => rw [begun] at failed; cases failed
    | ok inner =>
      rw [begun] at failed
      exact ⟨[], _, rfl, failed, .inl rfl⟩
  | scope scope keepsGoing steps =>
    rw [Step.trace] at failed ⊢
    obtain ⟨before, failing, after, calls, c, -, -, -, -, made, fails, -⟩ := exists_of_ended failed
    exact ⟨_, c, made, fails, .inr ⟨scope, keepsGoing, steps, rfl⟩⟩
  | ask query => rw [Step.trace] at failed; cases failed
  | registry change => rw [Step.trace] at failed; cases failed

/-- Steps that a failure has ended were taken up to the first step that fails. This one made its
calls up to the one that failed. -/
theorem exists_of_ended {scopes : List Scope} {failuresEnd : Bool} {steps : List Step}
    {error : Error} (failed : (traceSteps scopes failuresEnd steps).2 = some error) :
    ∃ before failing after calls c, steps = before ++ failing :: after ∧
      (traceSteps scopes failuresEnd before).2 = none ∧
      (failing.trace scopes).2 = some error ∧ (failing.trace scopes).1 = calls ++ [c] ∧
      (traceSteps scopes failuresEnd steps).1 =
        ((traceSteps scopes failuresEnd before).1 ++ calls) ++ [c] ∧
      c.error? = some error ∧
      (calls = [] ∨ ∃ scope keepsGoing inner, failing = .scope scope keepsGoing inner) := by
  cases steps with
  | nil => rw [traceSteps] at failed; cases failed
  | cons step rest =>
    rw [traceSteps] at failed ⊢
    dsimp only at failed ⊢
    cases ended : if failuresEnd then (step.trace scopes).2 else none with
    | some found =>
      rw [ended] at failed
      obtain rfl := Option.some.inj failed
      have fails : (step.trace scopes).2 = some found := by
        cases failuresEnd with
        | true => exact ended
        | false => cases ended
      obtain ⟨calls, c, made, failsLast, only⟩ := exists_last_of_failure fails
      refine ⟨[], step, rest, calls, c, rfl, by rw [traceSteps], fails, made, ?_, failsLast, only⟩
      rw [traceSteps]
      exact made
    | none =>
      rw [ended] at failed
      obtain ⟨before, failing, after, calls, c, rfl, goesOn, fails, made, same, failsLast, only⟩ :=
        exists_of_ended failed
      refine ⟨step :: before, failing, after, calls, c, rfl, ?_, fails, made, ?_, failsLast, only⟩
      · rw [traceSteps]
        dsimp only
        rw [ended]
        exact goesOn
      · rw [traceSteps]
        dsimp only
        rw [ended]
        dsimp only
        rw [same]
        simp only [List.append_assoc]

end

/-! ### Runs -/

/-- What fails leaves no trace in the router, for steps that stand in any scopes and any workspace.
A registration that fails has written nothing, even if it is carried out write by write. The router
after some steps is the router after what is left of them without all that fails. A scope that a
failure ends keeps what was registered by the steps before the one that failed, and by this one
itself before its failure if it is a scope again. -/
theorem refusals_leave_no_trace (scopes : List Scope) (w : Workspace) :
    (∀ registration inner, (w.register scopes inner registration).2.router =
        ((Call.mk scopes registration).joined.carryOut w.router).2 ∧
      ∀ error, (Call.mk scopes registration).error? = some error →
        (Call.mk scopes registration).joined.carryOut w.router = (.error error, w.router) ∧
          w.register scopes inner registration = (.refused error, w)) ∧
    (∀ failuresEnd steps,
      (runSteps scopes failuresEnd (prunedSteps scopes failuresEnd steps) w).2.2.router =
          (runSteps scopes failuresEnd steps w).2.2.router ∧
        (runSteps scopes failuresEnd (prunedSteps scopes failuresEnd steps) w).2.1 = none ∧
        (traceSteps scopes failuresEnd (prunedSteps scopes failuresEnd steps)).1 =
          (traceSteps scopes failuresEnd steps).1.filter Call.succeeds) ∧
    ∀ scope steps error,
      ((Step.scope scope false steps).run scopes w).1.failure? = some error →
      ∃ before failing after calls c, steps = before ++ failing :: after ∧
        (runSteps (scope :: scopes) true before w).2.1 = none ∧
        (failing.run (scope :: scopes)
          (runSteps (scope :: scopes) true before w).2.2).1.failure? = some error ∧
        (failing.trace (scope :: scopes)).1 = calls ++ [c] ∧ c.error? = some error ∧
        (calls = [] ∨ ∃ scope keepsGoing inner, failing = .scope scope keepsGoing inner) ∧
        ((Step.scope scope false steps).run scopes w).2.router =
          (runSteps (scope :: scopes) true before w).2.2.router.afterCalls calls := by
  refine ⟨?_, ?_, ?_⟩
  · intro registration inner
    refine ⟨?_, fun error failed => refused_of_error? failed w inner⟩
    rw [router_register, afterCalls_cons, afterCalls_nil, attempt_eq_carryOut]
  · intro failuresEnd steps
    obtain ⟨router, failure⟩ :=
      runSteps_eq_trace scopes failuresEnd (prunedSteps scopes failuresEnd steps) w
    rw [traceSteps_pruned] at router failure
    refine ⟨?_, failure, by rw [traceSteps_pruned]⟩
    rw [router, afterCalls_filter, (runSteps_eq_trace scopes failuresEnd steps w).1]
  · intro scope steps error failed
    obtain ⟨router, failure⟩ := run_eq_trace scopes (.scope scope false steps) w
    rw [failure, Step.trace, Bool.not_false] at failed
    obtain ⟨before, failing, after, calls, c, rfl, goesOn, fails, made, same, failsLast, only⟩ :=
      exists_of_ended failed
    obtain ⟨routerBefore, failureBefore⟩ := runSteps_eq_trace (scope :: scopes) true before w
    refine ⟨before, failing, after, calls, c, rfl, failureBefore.trans goesOn,
      (run_eq_trace _ failing _).2.trans fails, made, failsLast, only, ?_⟩
    rw [router, Step.trace, Bool.not_false, same, afterCalls_append, afterCalls_append,
      routerBefore, afterCalls_cons, attempt_of_error? failsLast, afterCalls_nil]

/-- A scope in a scope ends with a template that cannot be compiled, and so does the scope around
it. What was registered before in both of them stays. -/
theorem refusals_leave_no_trace_area :
    let handler : Endpoint := .handler fun env => (.notFound, env)
    let books : Registration := .route "get" "/books" { destination := .endpoint handler }
    let broken : Registration := .route "get" "/(:id" { destination := .endpoint handler }
    let area : Scope := { path := some "area" }
    let version : Scope := { path := some "v1" }
    let steps : List Step :=
      [.register books, .scope version false [.register books, .register broken, .register books],
        .register books]
    let left : List Step := [.register books, .scope version false [.register books]]
    let w : Workspace := ⟨blank {} ⟨"http", "localhost", none⟩, {}⟩
    let error : Error := .template "/area/v1/(:id" (.unbalancedOpen 9)
    let done := (Step.scope area false steps).run [] w
    (Call.mk [version, area] broken).joined.carryOut w.router = (.error error, w.router) ∧
      prunedSteps [area] true steps = left ∧ done.1.failure? = some error ∧
      done.2.router = w.router.afterCalls [⟨[area], books⟩, ⟨[version, area], books⟩] ∧
      ∃ before failing after, steps = before ++ failing :: after ∧
        (failing.run [area] (runSteps [area] true before w).2.2).1.failure? = some error := by
  intro handler books broken area version steps left w error done
  have first : (Call.mk [area] books).error? = none := by decide +kernel
  have second : (Call.mk [version, area] books).error? = none := by decide +kernel
  have third : (Call.mk [version, area] broken).error? = some error := by decide +kernel
  have pruned : prunedSteps [area] true steps = left := by
    simp [steps, left, prunedSteps, Step.pruned, Step.unlessFailing, traceSteps, Step.trace, first,
      second, third]
  have failed : done.1.failure? = some error := by
    rw [(run_eq_trace [] (.scope area false steps) w).2]
    simp [steps, traceSteps, Step.trace, first, second, third]
  have taken : (traceSteps [area] true left).1 =
      [⟨[area], books⟩, ⟨[version, area], books⟩] := by
    simp [left, traceSteps, Step.trace, first, second]
  obtain ⟨writes, -, -⟩ := refusals_leave_no_trace [version, area] w
  obtain ⟨-, deletes, -⟩ := refusals_leave_no_trace [area] w
  obtain ⟨same, -⟩ := deletes true steps
  rw [pruned, (runSteps_eq_trace [area] true left w).1, taken] at same
  have kept : done.2.router = (runSteps [area] true steps w).2.2.router := by
    simp only [done, Step.run, Bool.not_false]
  obtain ⟨before, failing, after, -, -, split, -, fails, -⟩ :=
    (refusals_leave_no_trace [] w).2.2 area steps error failed
  exact ⟨((writes broken none).2 error third).1, pruned, failed, kept.trans same.symm, before,
    failing, after, split, fails⟩

end PathRouting.Router

import PathRouting.Proofs.Router.Nesting

/-!
What routers share of the host of a request.

The host that a router looks at is the one that an environment remembers, and that is what the first
router to ask for it has found, forwarded or not. `Reached` says how environments come to a router:
through other routers and what those lead to, and `Carries` that calls of routers keep to this. Main
statement: `Reached.rememberedHost_eq` (what is remembered is what the first router to ask has
found). So a router that does not trust forwarded hosts recognizes a request for the host that was
found first, which may be a forwarded one.
-/

namespace PathRouting

/-! ### Hosts -/

namespace Env

/-- The environment when nothing was forwarded and nothing is remembered of the host. -/
def unforwarded (env : Env) : Env :=
  { env with forwardedHost := none, rememberedHost := none }

/-- The environment when there is nothing but the given host to find, and nothing is remembered of
it. -/
def forHost (env : Env) (host : Option String) : Env :=
  { env with
    forwardedHost := none
    host := host
    serverName := none
    serverAddr := none
    rememberedHost := none }

theorem resolvedHost_unforwarded (env : Env) (trust : Bool) :
    env.unforwarded.resolvedHost trust = env.hostByFields false := by
  cases trust with
  | true => rfl
  | false => rfl

theorem resolvedHost_forHost (env : Env) (host : Option String) (trust : Bool) :
    (env.forHost host).resolvedHost trust = host := by
  cases trust with
  | true => simp [resolvedHost, hostByFields, forHost]
  | false => simp [resolvedHost, hostByFields, forHost]

end Env

namespace Router

/-- Of an environment, recognition reads the method, the path and the host. -/
theorem recognize_congr (r : Router) {env other : Env} (method : env.method = other.method)
    (path : env.path = other.path)
    (host : env.resolvedHost r.config.trustForwardedHost =
      other.resolvedHost r.config.trustForwardedHost) :
    r.recognize env = r.recognize other := by
  have matched : ∀ entry : Entry, entry.match? env r.config.trustForwardedHost =
      entry.match? other r.config.trustForwardedHost := by
    intro entry
    cases entry with
    | route route => rw [Entry.match?_route, Entry.match?_route, path]
    | mount mount =>
      rw [Entry.match?_mount, Entry.match?_mount, Mount.acceptsHost, Mount.acceptsHost, host, path]
  unfold recognize firstMatch
  rw [method]
  simp only [matched]

/-! ### Asking for the host -/

/-- A router asking for the host: in which environment, and whether it trusts forwarded hosts. -/
structure Ask where
  env : Env
  trusts : Bool

/-- What the router finds, if it is the first to ask. -/
def Ask.host (ask : Ask) : Option String :=
  ask.env.hostByFields ask.trusts

/-- How a router asks for the host while it recognizes a request, if it does. -/
def ask? (r : Router) (env : Env) : Option Ask :=
  if asksHost r.config.trustForwardedHost env (r.candidates env.method) then
    some ⟨env, r.config.trustForwardedHost⟩
  else none

/-- How an environment comes about from a fresh one, and who was the first to ask for its host.
Routers recognize it, one after the other or one inside the other, and anything may be written into
it by them and by what they lead to, except for what is remembered of the host. -/
inductive Reached (start : Env) : Option Ask → Env → Prop
  | start (fresh : start.rememberedHost = none) : Reached start none start
  | recognized (r : Router) {first : Option Ask} {env : Env} (reached : Reached start first env) :
      Reached start (first.or (r.ask? env)) (r.settle env)
  | written (after : Env) {first : Option Ask} {env : Env} (reached : Reached start first env)
      (kept : after.rememberedHost = env.rememberedHost) : Reached start first after

/-- What is remembered after one more router is what was found first. -/
theorem rememberedHost_settle (r : Router) {first : Option Ask} {env : Env}
    (remembered : env.rememberedHost = first.map Ask.host) :
    (r.settle env).rememberedHost = (first.or (r.ask? env)).map Ask.host := by
  unfold settle ask?
  dsimp only
  by_cases asks : asksHost r.config.trustForwardedHost env (r.candidates env.method) = true
  · rw [if_pos asks, if_pos asks]
    show some (env.rememberedHost.getD _) = _
    rw [remembered]
    cases first with
    | none => rfl
    | some ask => rfl
  · rw [if_neg asks, if_neg asks, Option.or_none]
    exact remembered

/-- What is remembered of the host is what was found by the first to ask. -/
theorem Reached.rememberedHost_eq {start : Env} {first : Option Ask} {env : Env}
    (reached : Reached start first env) : env.rememberedHost = first.map Ask.host := by
  induction reached with
  | start fresh => exact fresh
  | recognized r _ ih => exact rememberedHost_settle r ih
  | written after _ kept ih => rw [kept, ih]

/-! ### Calls -/

/-- Calls of the endpoint do with the environment what routers and what they lead to may do. -/
def Carries (registry : Registry) (e : Endpoint) : Prop :=
  ∀ start first env response after, Reached start first env →
    e.call registry env = some (response, after) →
      ∃ later : Option Ask, Reached start (first.or later) after

/-- The environment in which a router calls what it leads to is reached. -/
theorem Reached.entered {start : Env} {first : Option Ask} {env : Env}
    (reached : Reached start first env) (r : Router) (target : Target) (params : Params) :
    Reached start (first.or (r.ask? env))
      (target.entered ((r.settle env).routed params env.controller env.action)) := by
  refine .written _ (.recognized r reached) ?_
  rw [Target.entered_routed, Env.rememberedHost_routed]

/-- What a call leaves is reached, if all that the router leads to keeps to the rules. -/
theorem Reached.call {start : Env} {first : Option Ask} {env : Env}
    (reached : Reached start first env) (r : Router) (registry : Registry)
    (targets : ∀ entry ∈ r.entries, ∀ e,
      entry.toRoute.target.resolve registry = .ok e → Carries registry e)
    {answered : Except Error Response × Env} (answers : r.call registry env = some answered) :
    ∃ later, Reached start (first.or later) answered.2 := by
  cases recognized : r.recognize env with
  | none =>
    rw [Router.call_of_none recognized] at answers
    cases answers
    exact ⟨r.ask? env, reached.recognized r⟩
  | some found =>
    have entered := reached.entered r found.entry.toRoute.target (env.params.merge found.params)
    rw [call_of_recognized registry recognized] at answers
    cases leads : found.entry.toRoute.target.resolve registry with
    | error error =>
      rw [Target.call_of_error leads] at answers
      cases answers
      exact ⟨_, entered⟩
    | ok e =>
      rw [Target.call_of_ok leads] at answers
      obtain ⟨inner, back, rfl⟩ := Option.map_eq_some_iff.mp answers
      have carries := targets _ (mem_entries_of_recognize recognized) e leads
      obtain ⟨later, left⟩ := carries _ _ _ inner.1 inner.2 entered back
      rw [Option.or_assoc] at left
      exact ⟨_, left⟩

/-- So a router may be what another router leads to. -/
theorem carries_router (r : Router) (registry : Registry)
    (targets : ∀ entry ∈ r.entries, ∀ e,
      entry.toRoute.target.resolve registry = .ok e → Carries registry e) :
    Carries registry (.router r) := by
  intro start first env response after reached answers
  rw [Endpoint.call_router] at answers
  obtain ⟨answered, back, same⟩ := Option.map_eq_some_iff.mp answers
  cases same
  exact reached.call r registry targets back

/-! ### Routers that do not trust forwarded hosts -/

/-- A router that does not trust forwarded hosts recognizes what it would for the host that the
first router to ask has found. If no router has asked, or if that is the host by the other fields,
this is what it would recognize if nothing had been forwarded. -/
theorem recognize_of_reached {start : Env} {first : Option Ask} {env : Env}
    (reached : Reached start first env) {r : Router}
    (untrusting : r.config.trustForwardedHost = false) :
    r.recognize env = r.recognize (first.elim env.unforwarded fun ask => env.forHost ask.host) ∧
      ((∀ ask, first = some ask → ask.host = env.hostByFields false) →
        r.recognize env = r.recognize env.unforwarded) := by
  have remembered := reached.rememberedHost_eq
  have found : env.resolvedHost false = first.elim (env.hostByFields false) Ask.host := by
    rw [Env.resolvedHost, remembered]
    cases first with
    | none => rfl
    | some ask => rfl
  constructor
  · cases first with
    | none =>
      refine r.recognize_congr rfl rfl ?_
      rw [untrusting, found]
      exact (Env.resolvedHost_unforwarded env false).symm
    | some ask =>
      refine r.recognize_congr rfl rfl ?_
      rw [untrusting, found]
      exact (Env.resolvedHost_forHost env ask.host false).symm
  · intro same
    refine r.recognize_congr rfl rfl ?_
    rw [untrusting, found, Env.resolvedHost_unforwarded]
    cases first with
    | none => rfl
    | some ask => exact same ask rfl

/-! ### An example -/

/-- The pattern `^api\.`, for hosts that begin so. -/
def apiHosts : Regex.Pattern where
  source := "^api\\."
  tree := [Regex.CharSet.range 'a' 'a', .range 'p' 'p', .range 'i' 'i', .range '.' '.'].foldl
    (fun tree set => .seq tree (.set set)) (.look .textStart)

example : Regex.Pattern.compile "^api\\." = .ok apiHosts := by decide +kernel

/-- A mount at a path. -/
def mountAt (path : String) (host : Option Regex.Pattern) (endpoint : Endpoint) : Entry :=
  .mount ⟨⟨path, ⟨path, [.literal path], []⟩, .endpoint endpoint, none⟩, host⟩

/-- A router that does not trust forwarded hosts, with an entry for some hosts only. -/
def guarded : Router :=
  ({ config := { trustForwardedHost := false } } : Router).push
    (mountAt "/admin" apiHosts (.handler fun env => ({}, env))) Verb.all

/-- A request that was forwarded for one of these hosts, but came for another one. -/
def forwardedRequest : Env :=
  { Env.get "/admin" with host := some "example.com", forwardedHost := some "api.example.com" }

/-- On its own the router is not misled. -/
theorem recognize_of_reached_guarded :
    let env := guarded.settle forwardedRequest
    guarded.config.trustForwardedHost = false ∧
      Reached forwardedRequest (some ⟨forwardedRequest, false⟩) env ∧
      guarded.recognize env = guarded.recognize env.unforwarded := by
  intro env
  have asked : guarded.ask? forwardedRequest = some ⟨forwardedRequest, false⟩ := by rfl
  have reached : Reached forwardedRequest (some ⟨forwardedRequest, false⟩) env := by
    have first : Reached forwardedRequest none forwardedRequest := .start rfl
    have after := first.recognized guarded
    rwa [asked] at after
  refine ⟨rfl, reached, (recognize_of_reached reached rfl).2 ?_⟩
  rintro ask ⟨⟩
  decide +kernel

/-- Inside of a router that trusts forwarded hosts and has asked for the host before, it takes the
forwarded one. -/
theorem forwarded_host_reaches_guarded :
    let outer : Router := (({} : Router).push
      (mountAt "/other" apiHosts (.handler fun env => ({}, env))) Verb.all).push
      (mountAt "/admin" none (.router guarded)) Verb.all
    let env := (Target.endpoint (.router guarded)).entered
      ((outer.settle forwardedRequest).routed {} none none)
    guarded.config.trustForwardedHost = false ∧
      Reached forwardedRequest (some ⟨forwardedRequest, true⟩) env ∧
      (guarded.recognize env).isSome = true ∧ guarded.recognize env.unforwarded = none ∧
      (outer.call {} forwardedRequest).map Prod.fst = some (.ok {}) := by
  intro outer env
  have asked : outer.ask? forwardedRequest = some ⟨forwardedRequest, true⟩ := by rfl
  have reached : Reached forwardedRequest (some ⟨forwardedRequest, true⟩) env := by
    have first : Reached forwardedRequest none forwardedRequest := .start rfl
    have entered := first.entered outer (.endpoint (.router guarded)) {}
    rwa [asked] at entered
  have tried : outer.candidates forwardedRequest.method =
      [mountAt "/other" apiHosts (.handler fun env => ({}, env)),
        mountAt "/admin" none (.router guarded)] := candidates_method outer .get
  have missed : (mountAt "/other" apiHosts (.handler fun env => ({}, env))).match?
      forwardedRequest true = none := by decide +kernel
  have matched : (mountAt "/admin" none (.router guarded)).match? forwardedRequest true =
      some {} := by decide +kernel
  have passed : outer.recognize forwardedRequest =
      some ⟨mountAt "/admin" none (.router guarded), {}⟩ := by
    simp [recognize, firstMatch, tried, show outer.config.trustForwardedHost = true from rfl,
      missed, matched]
  have inside : guarded.candidates (outer.settle forwardedRequest).method =
      [mountAt "/admin" apiHosts (.handler fun env => ({}, env))] := by
    rw [settle_eq]
    exact candidates_method guarded .get
  have misled : (mountAt "/admin" apiHosts (.handler fun env => ({}, env))).match?
      (outer.settle forwardedRequest) false = some {} := by decide +kernel
  have recognized : guarded.recognize (outer.settle forwardedRequest) =
      some ⟨mountAt "/admin" apiHosts (.handler fun env => ({}, env)), {}⟩ := by
    simp [recognize, firstMatch, inside, show guarded.config.trustForwardedHost = false from rfl,
      misled]
  have way : Descends {} outer forwardedRequest _ := .router passed rfl (.handler recognized rfl)
  refine ⟨rfl, reached, ?_, ?_, ?_⟩
  · rw [show guarded.recognize env = _ from recognized]
    rfl
  · exact Option.isNone_iff_eq_none.mp (by decide +kernel)
  · rw [call_eq_answer way]
    rfl

end Router

end PathRouting

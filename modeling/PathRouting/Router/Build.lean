import PathRouting.Router.Dispatch
import PathRouting.Router.Generation
import PathRouting.Router.Scope

/-!
Building a router step by step. A step registers something, opens a scope, asks the router that is
there so far, or changes the registry of controllers; every step gives a report.

A step that fails leaves the router as it was. It ends the scope it stands in, unless the scope is
to go on, and a scope that ended in this way is a step that failed. Outside of scopes no failure
ends anything.
-/

namespace PathRouting.Router

/-! ### Questions -/

/-- What a router may be asked. -/
inductive Query where
  | path (name : String) (args : Args)
  | url (name : String) (args : Args)
  | named (name : String)
  | infos
  | config

/-- What a router answers. -/
inductive Finding where
  | text (result : Except Error String)
  | route (found : Option Route)
  | infos (entries : List Info)
  | config (settings : Config)

/-- The answer to a question. -/
def answer (r : Router) : Query → Finding
  | .path name args => .text (r.path name args)
  | .url name args => .text (r.url name args)
  | .named name => .route (r.named? name)
  | .infos => .infos r.infos
  | .config => .config r.config

/-- What is done with the registry: it is changed, or asked. -/
inductive RegistryStep where
  | change (change : Registry.Change)
  | isRegistered (name : String)
  | names

/-- What is reported of the registry: the names it has, or whether it has or had a name. -/
inductive RegistryReport where
  | names (all : List String)
  | flag (value : Bool)

/-- The report of a registry step, and the registry after it. -/
def RegistryStep.run (registry : Registry) : RegistryStep → RegistryReport × Registry
  | .change (.register name controller) =>
    let changed := registry.register name controller
    (.names changed.names, changed)
  | .change (.unregister name) =>
    (.flag (registry.isRegistered name), registry.unregister name)
  | .isRegistered name => (.flag (registry.isRegistered name), registry)
  | .names => (.names registry.names, registry)

/-! ### Steps -/

/-- A step of building a router. A nested router is built by steps of its own, and then registered
as an endpoint. -/
inductive Step where
  | register (registration : Registration)
  | nest (config : Option Config) (steps : List Step) (use : Endpoint → Registration)
  | scope (scope : Scope) (keepsGoing : Bool) (steps : List Step)
  | ask (query : Query)
  | registry (step : RegistryStep)

instance : Inhabited Step := ⟨.ask .infos⟩

/-- What is reported of a step: the entry it registered, with the reports of a nested router; why
nothing was registered; why a nested router could not be begun; the reports of a scope, and the
failure that ended it; or an answer. -/
inductive Report where
  | entry (entry : Entry) (inner : Option (List Report))
  | refused (error : Error)
  | notBegun (error : Error)
  | scope (scope : Scope) (reports : List Report) (failure : Option Error)
  | finding (finding : Finding)
  | registry (report : RegistryReport)

/-- The failure that a step ends its scope with. A nested router that could not be begun is none. -/
def Report.failure? : Report → Option Error
  | .refused error => some error
  | .scope _ _ failure => failure
  | .entry .. | .notBegun _ | .finding _ | .registry _ => none

/-- What steps work on. -/
structure Workspace where
  router : Router
  registry : Registry

/-- The workspace with one more entry in its router, if the registration succeeds. -/
def Workspace.register (w : Workspace) (scopes : List Scope) (inner : Option (List Report))
    (registration : Registration) : Report × Workspace :=
  match w.router.registerWithin scopes registration with
  | .ok (entry, router) => (.entry entry inner, { w with router })
  | .error error => (.refused error, w)

/-- A router to begin with: with the given settings, or with the default ones. -/
def begin? (config : Option Config) : Except Error Router :=
  (config.map withConfig).getD (.ok {})

mutual

/-- The report of a step in scopes, which are given from the inside out, and the workspace after
it. -/
def Step.run (scopes : List Scope) : Step → Workspace → Report × Workspace
  | .register registration, w => w.register scopes none registration
  | .nest config steps use, w =>
    match begin? config with
    | .error error => (.notBegun error, w)
    | .ok inner =>
      let (reports, _, done) := runSteps [] false steps ⟨inner, w.registry⟩
      { w with registry := done.registry }.register scopes (some reports)
        (use (.router done.router))
  | .scope scope keepsGoing steps, w =>
    let (reports, failure, after) := runSteps (scope :: scopes) (!keepsGoing) steps w
    (.scope scope reports failure, after)
  | .ask query, w => (.finding (w.router.answer query), w)
  | .registry step, w =>
    let (report, registry) := step.run w.registry
    (.registry report, { w with registry })

/-- The reports of steps that are taken one after the other, and the workspace after them. If
failures end it, the first failure does, and it is given as well. -/
def runSteps (scopes : List Scope) (failuresEnd : Bool) :
    List Step → Workspace → List Report × Option Error × Workspace
  | [], w => ([], none, w)
  | step :: rest, w =>
    let (report, after) := step.run scopes w
    match if failuresEnd then report.failure? else none with
    | some error => ([report], some error, after)
    | none =>
      let (reports, failure, last) := runSteps scopes failuresEnd rest after
      (report :: reports, failure, last)

end

/-- The reports of all steps, none of which ends the building, and the workspace after them. -/
def build (config : Option Config) (registry : Registry) (steps : List Step) :
    Except Error (List Report × Workspace) :=
  (begin? config).map fun router =>
    let (reports, _, done) := runSteps [] false steps ⟨router, registry⟩
    (reports, done)

end PathRouting.Router

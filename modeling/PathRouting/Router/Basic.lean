import PathRouting.Config
import PathRouting.Route
import PathRouting.Verb

/-!
Filling routers and listing what is in them.

Entries are only ever added. A name that is registered again belongs to the later entry.
-/

namespace PathRouting.Router

/-- The router without entries that has the given settings. -/
def withConfig (config : Config) : Except Error Router :=
  config.base.map fun base => { config, base }

/-- The number of entries. -/
def size (r : Router) : Nat :=
  r.entries.size

/-- The positions of the entries for a verb, in order. -/
def positions (r : Router) (verb : Verb) : List Nat :=
  (r.byVerb.get? verb).getD []

/-- The index by verb with one more position for a verb. -/
def indexVerb (position : Nat) (index : OrderedMap Verb (List Nat)) (verb : Verb) :
    OrderedMap Verb (List Nat) :=
  index.insert verb ((index.get? verb).getD [] ++ [position])

/-- The router with one more entry, for the given verbs. -/
def push (r : Router) (entry : Entry) (verbs : List Verb) : Router :=
  { r with
    entries := r.entries.push entry
    byVerb := verbs.foldl (indexVerb r.size) r.byVerb
    named :=
      match entry.toRoute.name with
      | some name => r.named.insert name r.size
      | none => r.named }

/-- The route that a name belongs to. The name may be given in any spelling. -/
def named? (r : Router) (name : String) : Option Route := do
  let position ← r.named.get? (Naming.routeName name)
  let entry ← r.entries[position]?
  return entry.toRoute

/-! ### Registration -/

/-- A route or mount as it is declared. -/
inductive Registration where
  | route (verb path : String) (spec : RouteSpec)
  | mount (path : String) (endpoint : Endpoint) (host : Option String)

/-- The entry that a registration makes, and the verbs it is for. A mount is for all. -/
def Registration.entry : Registration → Except Error (Entry × List Verb)
  | .route verb path spec => do
    let verb ← Verb.parse verb
    let route ← Route.create path spec
    return (.route route, [verb])
  | .mount path endpoint host => do
    let mount ← Mount.create path endpoint host
    return (.mount mount, Verb.all)

/-- The entry that a registration makes, and the router with it. -/
def register (r : Router) (registration : Registration) : Except Error (Entry × Router) :=
  registration.entry.map fun (entry, verbs) => (entry, r.push entry verbs)

/-! ### Listings -/

/-- An entry as it is listed. -/
structure Info where
  verbs : List Verb
  path : String
  name : Option String
  params : List String
  endpoint : String
  mount : Bool
  deriving DecidableEq, Repr

/-- The listing of an entry at a position. Verbs are in the order of `Verb.all`. -/
def info (r : Router) (position : Nat) (entry : Entry) : Info where
  verbs := Verb.all.filter fun verb => position ∈ r.positions verb
  path := entry.toRoute.path
  name := entry.toRoute.name
  params := entry.toRoute.template.names
  endpoint := entry.toRoute.target.describe
  mount := entry.isMount

/-- All entries in order. -/
def infos (r : Router) : List Info :=
  r.entries.toList.zipIdx.map fun (entry, position) => r.info position entry

/-- The entries for a verb, in the order in which they are tried. -/
def infosFor (r : Router) (verb : Verb) : List Info :=
  (r.positions verb).filterMap fun position => r.entries[position]?.map (r.info position)

/-- The verb that a document names: by its text, or as the only field of a record, with null. -/
def verbOfDocument? : Document → Option Verb
  | .text value => Verb.ofText? value
  | .record [(value, .null)] => Verb.ofText? value
  | _ => none

/-- The listing that a document holds. -/
def Info.ofDocument? (document : Document) : Option Info := do
  match ← document.fields? ["verbs", "path", "name", "params", "endpoint", "mount"] with
  | [some verbs, some path, name, some params, some endpoint, some mount] =>
    return {
      verbs := ← (← verbs.items?).mapM verbOfDocument?
      path := ← path.text?
      name := ← Document.optional? Document.text? name
      params := ← (← params.items?).mapM Document.text?
      endpoint := ← endpoint.text?
      mount := ← mount.bool? }
  | _ => none

end PathRouting.Router

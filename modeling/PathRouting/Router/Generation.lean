import PathRouting.Router.Basic

/-!
Paths and absolute URLs of named routes, and accessors such as `book_path` and `book_url`, which say
in one text what is to be generated.
-/

namespace PathRouting.Router

/-- The path that a named route gives with the arguments. -/
def path (r : Router) (name : String) (args : Args) : Except Error String :=
  match r.named? name with
  | some route => route.expand args
  | none => .error (.nameNotFound name)

/-- The argument that is put in front of the host instead of into the path. -/
def subdomainKey : String := "subdomain"

/-- What an absolute URL has in front of its path. The ports 80 and 443 are left out. -/
def origin (base : Url.Base) (subdomain : Option ArgValue) : String :=
  let sub := (subdomain.map fun value => value.joined ++ ".").getD ""
  let port := ((base.port.filter fun p => p ≠ 80 && p ≠ 443).map fun p => s!":{p}").getD ""
  base.scheme ++ "://" ++ sub ++ base.host ++ port

/-- The absolute URL that a named route gives with the arguments. -/
def url (r : Router) (name : String) (args : Args) : Except Error String :=
  (r.path name (args.erase subdomainKey)).map (origin r.base (args.get? subdomainKey) ++ ·)

/-! ### Accessors -/

/-- What an accessor generates. -/
inductive Kind where
  | path
  | url
  deriving DecidableEq, Repr

/-- The end of the accessors of a kind. -/
def Kind.ending : Kind → String
  | path => "_path"
  | url => "_url"

/-- The name and the kind that an accessor consists of. -/
def splitAccessor? (accessor : String) : Option (String × Kind) :=
  [Kind.path, Kind.url].findSome? fun kind =>
    (Text.dropTrailing? kind.ending.toList accessor.toList).map fun name =>
      (String.ofList name, kind)

/-- What an accessor gives with the arguments. -/
def helper (r : Router) (accessor : String) (args : Args) : Except Error String :=
  match splitAccessor? accessor with
  | some (name, .path) => r.path name args
  | some (name, .url) => r.url name args
  | none => .error (.unknownHelper accessor)

end PathRouting.Router

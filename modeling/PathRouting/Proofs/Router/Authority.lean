import Mathlib.Control.Monad.Basic
import PathRouting.Proofs.Router.Locality
import PathRouting.Proofs.Template.LeadingSlash
import PathRouting.Proofs.Url.Separators

/-!
The authority of generated URLs.

A URL consists of the scheme, the subdomain, the site of the router and a path, one after the other,
and its authority ends where the first separator stands. The site has none. A subdomain is written
as it is given, so one with a separator cuts the site off; a path that does not begin with a
separator goes on with the site. Main statements: `exists_of_url` (what a URL is put together from)
and `takeWhile_eq_iff` (when its authority is the subdomain and the site).
-/

namespace PathRouting.Router

open Url (isSeparator isUndivided)

/-! ### Sites -/

/-- The host of a base with its port, if the port is neither 80 nor 443. -/
def site (base : Url.Base) : String :=
  base.host ++ ((base.port.filter fun p => p ≠ 80 && p ≠ 443).map fun p => s!":{p}").getD ""

/-- What a subdomain puts in front of the site. -/
def lead (subdomain : Option ArgValue) : String :=
  (subdomain.map fun value => value.joined ++ ".").getD ""

theorem origin_eq (base : Url.Base) (subdomain : Option ArgValue) :
    origin base subdomain = base.scheme ++ "://" ++ (lead subdomain ++ site base) := by
  simp only [origin, lead, site, String.append_assoc]

/-- Whether an authority is the site or that of a subdomain of it. -/
def Under (site authority : String) : Prop :=
  authority = site ∨ '.' :: site.toList <:+ authority.toList

instance (site authority : String) : Decidable (Under site authority) :=
  inferInstanceAs (Decidable (_ ∨ _))

/-- The site with a subdomain in front is under the site. -/
theorem under_append (subdomain : Option ArgValue) (base : Url.Base) :
    Under (site base) (lead subdomain ++ site base) := by
  cases subdomain with
  | none => exact .inl (String.empty_append)
  | some value =>
    refine .inr ⟨value.joined.toList, ?_⟩
    simp [lead]

theorem isUndivided_site {base : Url.Base} (host : isUndivided base.host.toList = true) :
    isUndivided (site base).toList = true := by
  unfold site
  rw [String.toList_append]
  refine Url.isUndivided_append.mpr ⟨host, ?_⟩
  cases base.port.filter fun p => p ≠ 80 && p ≠ 443 with
  | none => rfl
  | some port =>
    rw [Option.map_some, Option.getD_some, String.toList_append]
    exact Url.isUndivided_append.mpr ⟨rfl, Url.isUndivided_toString port⟩

/-- The base of a new router comes from a URL, or is the default one. -/
theorem apart_of_begin? {config : Option Config} {r : Router} (h : begin? config = .ok r) :
    ':' ∉ r.base.scheme.toList ∧ isUndivided r.base.host.toList = true := by
  cases config with
  | none =>
    cases h
    decide
  | some config =>
    have made : config.base.map (fun base => blank config base) = .ok r := h
    unfold Config.base at made
    cases parsed : Url.Base.parse config.baseUrl with
    | error e => rw [parsed] at made; cases made
    | ok base =>
      rw [parsed] at made
      cases made
      exact Url.Base.apart_of_parse parsed

/-! ### Routes of a name -/

/-- What a call adds holds a route that was made of a path. -/
theorem exists_create_of_added? {c : Call} {added : Entry × List Verb}
    (h : c.added? = some added) : ∃ path spec, Route.create path spec = .ok added.1.toRoute := by
  have made := added?_eq_some_iff.mp h
  cases given : c.joined with
  | route text path spec =>
    rw [given] at made
    obtain ⟨verb, route, -, created, rfl⟩ := entry_route_eq_ok made
    exact ⟨path, spec, created⟩
  | mount path endpoint host =>
    rw [given] at made
    obtain ⟨mount, created, rfl⟩ := entry_mount_eq_ok made
    exact ⟨path, _, create_route_of_mount created⟩

theorem exists_create_of_named? {start : Router} {config : Option Config}
    (begun : begin? config = .ok start) {calls : List Call} {name : String} {route : Route}
    (named : (start.afterCalls calls).named? name = some route) :
    ∃ path spec, Route.create path spec = .ok route := by
  rw [eq_blank_of_begin? begun, named?_afterCalls] at named
  obtain ⟨entry, last, rfl⟩ := Option.map_eq_some_iff.mp named
  obtain ⟨added, mem, rfl⟩ := List.mem_map.mp (List.mem_of_getLast? last)
  obtain ⟨c, -, adds⟩ := List.mem_filterMap.mp (List.mem_filter.mp mem).1
  exact exists_create_of_added? adds

/-! ### Authorities -/

theorem exists_of_url {r : Router} {name : String} {args : Args} {u : String}
    (made : r.url name args = .ok u) :
    ∃ route path, r.named? name = some route ∧
      route.expand (args.erase subdomainKey) = .ok path ∧
      u = r.base.scheme ++ "://" ++ (lead (args.get? subdomainKey) ++ site r.base ++ path) := by
  unfold url Router.path at made
  cases named : r.named? name with
  | none => rw [named] at made; cases made
  | some route =>
    rw [named] at made
    dsimp only at made
    cases expanded : route.expand (args.erase subdomainKey) with
    | error e => rw [expanded] at made; cases made
    | ok path =>
      rw [expanded] at made
      obtain rfl := Except.ok.inj made
      refine ⟨route, path, rfl, expanded, ?_⟩
      dsimp only
      rw [origin_eq]
      simp only [String.append_assoc]

/-- Of a lead, a site and a path, exactly the lead and the site are taken where the lead has no
separator and the path is empty or begins with one. -/
theorem takeWhile_eq_iff {lead site path : List Char} (undivided : isUndivided site = true) :
    (lead ++ site ++ path).takeWhile (fun c => !isSeparator c) = lead ++ site ↔
      isUndivided lead = true ∧ path.head?.all isSeparator = true := by
  constructor
  · intro eq
    have whole : isUndivided lead = true := by
      rw [Url.isUndivided_iff]
      intro c mem
      have taken : c ∈ (lead ++ site ++ path).takeWhile fun c => !isSeparator c := by
        rw [eq]
        exact List.mem_append_left site mem
      simpa using List.mem_takeWhile_imp taken
    refine ⟨whole, ?_⟩
    rw [Url.takeWhile_append_of_isUndivided (Url.isUndivided_append.mpr ⟨whole, undivided⟩)] at eq
    have nothing : path.takeWhile (fun c => !isSeparator c) = [] := by simpa using eq
    cases path with
    | nil => rfl
    | cons c path => simpa using nothing
  · rintro ⟨whole, ends⟩
    rw [Url.takeWhile_append_of_isUndivided (Url.isUndivided_append.mpr ⟨whole, undivided⟩)]
    cases path with
    | nil => simp
    | cons c path =>
      have separator : isSeparator c = true := ends
      simp [separator]

/-- Between the texts of a list, slashes are put. -/
theorem exists_lead_of_list (host next : String) (more : List String) :
    ∃ rest, (lead (some (.list (host :: next :: more)))).toList = host.toList ++ '/' :: rest := by
  refine ⟨("/".intercalate (next :: more) ++ ".").toList, ?_⟩
  rw [lead, Option.map_some, Option.getD_some, ArgValue.joined,
    String.intercalate_cons_of_ne_nil (by simp)]
  simp

/-- The authority of a URL that a built router generates. It consists of the subdomain, the site and
what the path has before its first separator, unless the subdomain has a separator, which then ends
it. So it is the site with the subdomain in front if and only if the subdomain has no separator and
the path is empty or begins with one, which it does unless the path of the route begins with `/?`.
Of a list of subdomains, the first alone is the authority. -/
theorem authority_of_url {config : Option Config} {start : Router}
    (begun : begin? config = .ok start) (calls : List Call) {name : String} {args : Args}
    {u : String} (made : (start.afterCalls calls).url name args = .ok u) :
    ∃ route path, (start.afterCalls calls).named? name = some route ∧
      route.expand (args.erase subdomainKey) = .ok path ∧
      let sub := lead (args.get? subdomainKey)
      (Url.authority u).toList =
          (if isUndivided sub.toList then
            sub.toList ++ (site start.base).toList ++ path.toList.takeWhile fun c => !isSeparator c
          else sub.toList.takeWhile fun c => !isSeparator c) ∧
        (Url.authority u = sub ++ site start.base ↔
          isUndivided sub.toList = true ∧ path.toList.head?.all isSeparator = true) ∧
        (isUndivided sub.toList = true → ¬['/', '?'] <+: route.path.toList →
          Under (site start.base) (Url.authority u)) ∧
        ∀ host next more, args.get? subdomainKey = some (.list (host :: next :: more)) →
          isUndivided host.toList = true → Url.authority u = host := by
  obtain ⟨colon, plain⟩ := apart_of_begin? begun
  obtain ⟨route, path, named, expanded, rfl⟩ := exists_of_url made
  obtain ⟨source, spec, created⟩ := exists_create_of_named? begun named
  rw [base_afterCalls] at made ⊢
  have text := Url.authority_append colon (lead (args.get? subdomainKey) ++ site start.base ++ path)
  rw [String.toList_append, String.toList_append] at text
  have whole : Url.authority (start.base.scheme ++ "://" ++
        (lead (args.get? subdomainKey) ++ site start.base ++ path)) =
      lead (args.get? subdomainKey) ++ site start.base ↔
        isUndivided (lead (args.get? subdomainKey)).toList = true ∧
          path.toList.head?.all isSeparator = true := by
    rw [← takeWhile_eq_iff (isUndivided_site plain), ← text, ← String.toList_append,
      String.toList_inj]
  refine ⟨route, path, named, expanded, ?_, whole, ?_, ?_⟩
  · rw [text]
    split
    · next undivided =>
      exact Url.takeWhile_append_of_isUndivided
        (Url.isUndivided_append.mpr ⟨undivided, isUndivided_site plain⟩) path.toList
    · next divided =>
      rw [List.append_assoc]
      exact Url.takeWhile_append_of_divided (Bool.eq_false_of_not_eq_true divided) _
  · intro undivided unmarked
    have slash := Route.head?_of_expand created unmarked expanded
    rw [whole.mpr ⟨undivided, by rw [slash]; rfl⟩]
    exact under_append ..
  · intro host next more given undivided
    obtain ⟨rest, list⟩ := exists_lead_of_list host next more
    rw [← String.toList_inj, text, given, list, List.append_assoc, List.append_assoc,
      Url.takeWhile_append_of_isUndivided undivided]
    simp [isSeparator]

/-- The URL of a book in a shop. -/
theorem authority_of_url_shop :
    let handler : Endpoint := .handler fun env => (.notFound, env)
    let book : Call :=
      ⟨[], .route "get" "/books/:id" { destination := .endpoint handler, name := some "book" }⟩
    let config : Config := { baseUrl := "http://elif.rs" }
    let start := blank config ⟨"http", "elif.rs", some 80⟩
    let args : Args := ⟨[("id", .single "7"), ("subdomain", .single "shop")]⟩
    begin? (some config) = .ok start ∧
      (start.afterCalls [book]).url "book" args = .ok "http://shop.elif.rs/books/7" ∧
      Under (site start.base) (Url.authority "http://shop.elif.rs/books/7") := by
  intro handler book config start args
  let route : Route :=
    ⟨"/books/:id", ⟨"/books/:id", [.literal "/books/", .capture "id" none], ["id"]⟩,
      .endpoint handler, some "book"⟩
  have parsed : config.base = .ok ⟨"http", "elif.rs", some 80⟩ := by decide +kernel
  have begun : begin? (some config) = .ok start := by
    rw [begin?, Option.map_some, Option.getD_some, withConfig, parsed]
    rfl
  have added : book.added? = some (.route route, [.get]) := rfl
  have pushed : start.afterCalls [book] = start.push (.route route) [.get] := by
    rw [afterCalls_cons, afterCalls_nil, attempt_eq, added]
  have made : (start.afterCalls [book]).url "book" args = .ok "http://shop.elif.rs/books/7" := by
    rw [pushed]
    rfl
  have known : (start.afterCalls [book]).named? "book" = some route := by
    rw [pushed]
    rfl
  obtain ⟨found, path, named, -, -, -, under, -⟩ := authority_of_url begun [book] made
  obtain rfl : route = found := Option.some.inj (known.symm.trans named)
  exact ⟨begun, made, under (by decide) (by decide)⟩

/-- A list of subdomains leads to its first text, and so does the argument of a path without a slash
of its own to what it adds to the site. -/
theorem url_leaves_site :
    let handler : Endpoint := .handler fun env => (.notFound, env)
    let login : Call :=
      ⟨[], .route "get" "/login" { destination := .endpoint handler, name := some "login" }⟩
    let page : Call :=
      ⟨[], .route "get" "/?:page" { destination := .endpoint handler, name := some "page" }⟩
    let config : Config := { baseUrl := "http://elif.rs" }
    let start := blank config ⟨"http", "elif.rs", some 80⟩
    let r := start.afterCalls [login, page]
    begin? (some config) = .ok start ∧
      r.url "login" ⟨[("subdomain", .list ["evil.com", "x"])]⟩ =
        .ok "http://evil.com/x.elif.rs/login" ∧
      Url.authority "http://evil.com/x.elif.rs/login" = "evil.com" ∧
      ¬Under (site r.base) "evil.com" ∧
      r.url "page" ⟨[("page", .single ".evil.com")]⟩ = .ok "http://elif.rs.evil.com" ∧
      Url.authority "http://elif.rs.evil.com" = "elif.rs.evil.com" ∧
      ¬Under (site r.base) "elif.rs.evil.com" := by
  intro handler login page config start r
  let loginRoute : Route :=
    ⟨"/login", ⟨"/login", [.literal "/login"], []⟩, .endpoint handler, some "login"⟩
  let pageRoute : Route :=
    ⟨"/?:page", ⟨"/?:page", [.optional [.literal "/"], .capture "page" none], ["page"]⟩,
      .endpoint handler, some "page"⟩
  have first : login.added? = some (.route loginRoute, [.get]) := rfl
  have second : page.added? = some (.route pageRoute, [.get]) := rfl
  have pushed : r = (start.push (.route loginRoute) [.get]).push (.route pageRoute) [.get] := by
    simp only [r, afterCalls_cons, afterCalls_nil, attempt_eq, first, second]
  have base : site r.base = "elif.rs" := by
    rw [base_afterCalls]
    decide
  have parsed : config.base = .ok ⟨"http", "elif.rs", some 80⟩ := by decide +kernel
  have begun : begin? (some config) = .ok start := by
    rw [begin?, Option.map_some, Option.getD_some, withConfig, parsed]
    rfl
  refine ⟨begun, ?_, by decide, by rw [base]; decide, ?_, by decide, by rw [base]; decide⟩
  · rw [pushed]
    rfl
  · rw [pushed]
    rfl

end PathRouting.Router

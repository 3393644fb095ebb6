import PathRouting.Proofs.Router.Authority
import PathRouting.Proofs.Template.LiveGroups

/-!
Absolute URLs beside the paths of the same routes.

A URL is generated from the arguments without the subdomain, so a route that asks for a value of
that name has a path but no URL. Main statements: `isGiven_erase_iff` (what is lacking once an
argument is taken out), `exists_expand_iff` (when a template expands) and `url_agrees` (when there
is a URL, and what it is where no subdomain is given).
-/

namespace PathRouting

open Template (Segment)

namespace Template

open Segment

/-- Without one of the arguments, a segment is given what it was unless it takes this one. -/
theorem Segment.isGiven_erase_iff {args : Args} (distinct : args.keys.Nodup) {key : String}
    {s : Segment} : s.IsGiven (args.erase key) ↔ s.IsGiven args ∧ s.name? ≠ some key := by
  cases s with
  | literal text => simp [IsGiven]
  | capture name constraint =>
    simp only [IsGiven, OrderedMap.get?_erase distinct, name?_capture]
    split <;> simp_all
  | splat name constraint =>
    simp only [IsGiven, OrderedMap.mem_keys_iff, OrderedMap.get?_erase distinct, name?_splat]
    split <;> simp_all
  | optional inner => simp [IsGiven]

/-- A template expands if every capture and splat outside groups is given. -/
theorem exists_expand_iff {t : Template} {args : Args} :
    (∃ e, t.expand args = .ok e) ↔ ∀ s ∈ t.segments, s.IsGiven args := by
  constructor
  · rintro ⟨e, expanded⟩
    exact missing_eq_nil_iff.mp (of_expand expanded).1
  · intro given
    exact ⟨_, expand_of_given given⟩

/-- What a template that expands lacks without one of the arguments is this argument. -/
theorem expand_erase_eq_error {t : Template} {args : Args} (distinct : args.keys.Nodup)
    {key : String} (given : ∀ s ∈ t.segments, s.IsGiven args)
    (lacks : ¬∀ s ∈ t.segments, s.IsGiven (args.erase key)) :
    ∃ missing, t.expand (args.erase key) =
        .error (.expansion t.source (args.erase key).keys missing) ∧
      key ∈ missing ∧ ∀ lacking ∈ missing, lacking = key := by
  have named : ∀ s ∈ t.segments, ¬s.IsGiven (args.erase key) → s.name? = some key := by
    intro s mem lacking
    by_contra other
    exact lacking ((isGiven_erase_iff distinct).mpr ⟨given s mem, other⟩)
  refine ⟨_, expand_of_not_given lacks, ?_, ?_⟩
  · push Not at lacks
    obtain ⟨s, mem, lacking⟩ := lacks
    exact List.mem_filterMap.mpr
      ⟨s, List.mem_filter.mpr ⟨mem, decide_eq_true lacking⟩, named s mem lacking⟩
  · intro other mem
    obtain ⟨s, inside, name⟩ := List.mem_filterMap.mp mem
    obtain ⟨mem, lacking⟩ := List.mem_filter.mp inside
    exact Option.some.inj (name.symm.trans (named s mem (of_decide_eq_true lacking)))

end Template

namespace Router

open Template.Segment (isGiven_erase_iff)

variable {r : Router} {name : String} {args : Args}

theorem path_of_named {route : Route} (named : r.named? name = some route) :
    r.path name args = route.expand args := by
  rw [path, named]

theorem path_of_not_named (unknown : r.named? name = none) :
    r.path name args = .error (.nameNotFound name) := by
  rw [path, unknown]

/-- A route generates a path if its template expands. -/
theorem exists_path_iff {route : Route} (named : r.named? name = some route) :
    (∃ p, r.path name args = .ok p) ↔ ∀ s ∈ route.template.segments, s.IsGiven args := by
  rw [path_of_named named, ← Template.exists_expand_iff, Route.expand, Template.expandWithQuery]
  cases route.template.expand args with
  | error e =>
    constructor
    · rintro ⟨p, ⟨⟩⟩
    · rintro ⟨expansion, ⟨⟩⟩
  | ok e =>
    constructor
    · intro _
      exact ⟨e, rfl⟩
    · intro _
      exact ⟨e.url, rfl⟩

/-- A URL is generated where there is a path without the subdomain. -/
theorem exists_url_iff :
    (∃ u, r.url name args = .ok u) ↔ ∃ p, r.path name (args.erase subdomainKey) = .ok p := by
  rw [url]
  cases r.path name (args.erase subdomainKey) with
  | error e =>
    constructor
    · rintro ⟨u, ⟨⟩⟩
    · rintro ⟨p, ⟨⟩⟩
  | ok p =>
    constructor
    · intro _
      exact ⟨p, rfl⟩
    · intro _
      exact ⟨_, rfl⟩

/-- Without the subdomain, a route lacks what it lacks with it, and the subdomain if it asks for
that. -/
theorem exists_path_erase_iff (distinct : args.keys.Nodup) :
    (∃ p, r.path name (args.erase subdomainKey) = .ok p) ↔
      (∃ p, r.path name args = .ok p) ∧
        ∀ route, r.named? name = some route →
          ∀ s ∈ route.template.segments, s.name? ≠ some subdomainKey := by
  cases named : r.named? name with
  | none =>
    rw [path_of_not_named named, path_of_not_named named]
    constructor
    · rintro ⟨p, clash⟩
      cases clash
    · rintro ⟨⟨p, clash⟩, -⟩
      cases clash
  | some route =>
    rw [exists_path_iff named, exists_path_iff named]
    constructor
    · intro given
      have each s mem := (isGiven_erase_iff distinct).mp (given s mem)
      refine ⟨fun s mem => (each s mem).1, ?_⟩
      rintro found same s mem
      obtain rfl := Option.some.inj same
      exact (each s mem).2
    · rintro ⟨given, other⟩ s mem
      exact (isGiven_erase_iff distinct).mpr ⟨given s mem, other route rfl s mem⟩

/-- What a route that has a path lacks without the subdomain is the subdomain. -/
theorem path_erase_eq_error (distinct : args.keys.Nodup) {p : String}
    (made : r.path name args = .ok p)
    (lacks : ¬∃ p, r.path name (args.erase subdomainKey) = .ok p) :
    ∃ source given missing,
      r.path name (args.erase subdomainKey) = .error (.expansion source given missing) ∧
        subdomainKey ∈ missing ∧ ∀ lacking ∈ missing, lacking = subdomainKey := by
  cases named : r.named? name with
  | none =>
    rw [path_of_not_named named] at made
    cases made
  | some route =>
    have given := (exists_path_iff named).mp ⟨p, made⟩
    rw [exists_path_iff named] at lacks
    obtain ⟨missing, failed, told⟩ := Template.expand_erase_eq_error distinct given lacks
    refine ⟨route.template.source, (args.erase subdomainKey).keys, missing, ?_, told⟩
    rw [path_of_named named, Route.expand, Template.expandWithQuery, failed]
    rfl

/-- A route has a URL for some arguments, whose keys are distinct, exactly if it has a path for them
and does not ask for a subdomain outside of its groups, as the subdomain is taken for the host. A
route that has only a path for this reason is told to lack the subdomain and nothing else. Where no
subdomain is given, the URL is the scheme and the site followed by the path, or the error is the
same. -/
theorem url_agrees (r : Router) (name : String) {args : Args} (distinct : args.keys.Nodup) :
    ((∃ u, r.url name args = .ok u) ↔
        (∃ p, r.path name args = .ok p) ∧
          ∀ route, r.named? name = some route →
            ∀ s ∈ route.template.segments, s.name? ≠ some subdomainKey) ∧
      ((∃ p, r.path name args = .ok p) → (¬∃ u, r.url name args = .ok u) →
        ∃ source given missing, r.url name args = .error (.expansion source given missing) ∧
          subdomainKey ∈ missing ∧ ∀ lacking ∈ missing, lacking = subdomainKey) ∧
      (subdomainKey ∉ args.keys →
        r.url name args =
          (r.path name args).map fun p => r.base.scheme ++ "://" ++ site r.base ++ p) := by
  refine ⟨exists_url_iff.trans (exists_path_erase_iff distinct), ?_, ?_⟩
  · rintro ⟨p, made⟩ lacks
    rw [exists_url_iff] at lacks
    obtain ⟨source, given, missing, failed, told⟩ := path_erase_eq_error distinct made lacks
    refine ⟨source, given, missing, ?_, told⟩
    rw [url, failed]
    rfl
  · intro absent
    have noSubdomain : args.get? subdomainKey = none :=
      OrderedMap.lookup_eq_none_of_notMem absent
    rw [url, OrderedMap.erase_of_notMem absent, noSubdomain, origin_eq]
    simp [lead, String.append_assoc]

/-- A page of a book may name a subdomain in a group, and a route of its own asks for one. -/
theorem url_agrees_tenant :
    let handler : Endpoint := .handler fun env => (.notFound, env)
    let book : Call :=
      ⟨[], .route "get" "/:id(/:subdomain)"
        { destination := .endpoint handler, name := some "book" }⟩
    let tenant : Call :=
      ⟨[], .route "get" "/:subdomain" { destination := .endpoint handler, name := some "tenant" }⟩
    let r := (blank {} ⟨"http", "localhost", some 9292⟩).afterCalls [book, tenant]
    let args : Args := ⟨[("id", .single "7"), ("subdomain", .single "shop")]⟩
    let plain : Args := ⟨[("id", .single "7")]⟩
    args.keys.Nodup ∧ plain.keys.Nodup ∧ r.path "book" args = .ok "/7/shop" ∧
      (∃ u, r.url "book" args = .ok u) ∧ r.path "tenant" args = .ok "/shop?id=7" ∧
      (∃ source given missing, r.url "tenant" args = .error (.expansion source given missing) ∧
        subdomainKey ∈ missing ∧ ∀ lacking ∈ missing, lacking = subdomainKey) ∧
      subdomainKey ∉ plain.keys ∧ r.url "book" plain = .ok "http://localhost:9292/7" := by
  intro handler book tenant r args plain
  let bookRoute : Route :=
    ⟨"/:id(/:subdomain)", ⟨"/:id(/:subdomain)",
      [.literal "/", .capture "id" none,
        .optional [.literal "/", .capture "subdomain" none]], ["id", "subdomain"]⟩,
      .endpoint handler, some "book"⟩
  let tenantRoute : Route :=
    ⟨"/:subdomain", ⟨"/:subdomain", [.literal "/", .capture "subdomain" none], ["subdomain"]⟩,
      .endpoint handler, some "tenant"⟩
  have first : book.added? = some (.route bookRoute, [.get]) := rfl
  have second : tenant.added? = some (.route tenantRoute, [.get]) := rfl
  have pushed : r = ((blank {} ⟨"http", "localhost", some 9292⟩).push (.route bookRoute)
      [.get]).push (.route tenantRoute) [.get] := by
    simp only [r, afterCalls_cons, afterCalls_nil, attempt_eq, first, second]
  have distinct : args.keys.Nodup := by decide
  have plainDistinct : plain.keys.Nodup := by decide
  have absent : subdomainKey ∉ plain.keys := by decide
  have bookNamed : r.named? "book" = some bookRoute := by rw [pushed]; rfl
  have tenantNamed : r.named? "tenant" = some tenantRoute := by rw [pushed]; rfl
  have bookPath : r.path "book" args = .ok "/7/shop" := by rw [path_of_named bookNamed]; rfl
  have plainPath : r.path "book" plain = .ok "/7" := by rw [path_of_named bookNamed]; rfl
  have tenantPath : r.path "tenant" args = .ok "/shop?id=7" := by
    rw [path_of_named tenantNamed]
    rfl
  have asks : ¬∀ route, r.named? "tenant" = some route →
      ∀ s ∈ route.template.segments, s.name? ≠ some subdomainKey := by
    intro other
    exact other tenantRoute tenantNamed (.capture "subdomain" none) (by simp [tenantRoute]) rfl
  refine ⟨distinct, plainDistinct, bookPath, ?_, tenantPath, ?_, absent, ?_⟩
  · refine (url_agrees r "book" distinct).1.mpr ⟨⟨_, bookPath⟩, ?_⟩
    intro route named s mem
    obtain rfl := Option.some.inj (bookNamed.symm.trans named)
    have each : ∀ s ∈ bookRoute.template.segments, s.name? ≠ some subdomainKey := by decide
    exact each s mem
  · exact (url_agrees r "tenant" distinct).2.1 ⟨_, tenantPath⟩ fun made =>
      asks ((url_agrees r "tenant" distinct).1.mp made).2
  · rw [(url_agrees r "book" plainDistinct).2.2 absent, plainPath, pushed]
    rfl

/-- A route that asks for a subdomain in its path has no URL with it. -/
theorem path_without_url :
    let handler : Endpoint := .handler fun env => (.notFound, env)
    let tenant : Call :=
      ⟨[], .route "get" "/:subdomain" { destination := .endpoint handler, name := some "tenant" }⟩
    let r := (blank {} ⟨"http", "localhost", some 9292⟩).afterCalls [tenant]
    let args : Args := ⟨[("subdomain", .single "shop")]⟩
    r.path "tenant" args = .ok "/shop" ∧
      r.url "tenant" args = .error (.expansion "/:subdomain" [] ["subdomain"]) ∧
      ¬((∃ u, r.url "tenant" args = .ok u) ↔ ∃ p, r.path "tenant" args = .ok p) := by
  intro handler tenant r args
  let route : Route :=
    ⟨"/:subdomain", ⟨"/:subdomain", [.literal "/", .capture "subdomain" none], ["subdomain"]⟩,
      .endpoint handler, some "tenant"⟩
  have added : tenant.added? = some (.route route, [.get]) := rfl
  have pushed : r = (blank {} ⟨"http", "localhost", some 9292⟩).push (.route route) [.get] := by
    simp only [r, afterCalls_cons, afterCalls_nil, attempt_eq, added]
  have made : r.path "tenant" args = .ok "/shop" := by rw [pushed]; rfl
  have failed : r.url "tenant" args = .error (.expansion "/:subdomain" [] ["subdomain"]) := by
    rw [pushed]
    rfl
  refine ⟨made, failed, ?_⟩
  rw [failed, made]
  intro agree
  obtain ⟨u, clash⟩ := agree.mpr ⟨_, rfl⟩
  cases clash

end Router

end PathRouting

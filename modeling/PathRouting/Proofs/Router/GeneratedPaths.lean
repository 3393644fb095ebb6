import PathRouting.Proofs.Router.Indices
import PathRouting.Proofs.Template.Rendering
import PathRouting.Router.Dispatch
import PathRouting.Router.Generation

/-!
Paths that a router generates are recognized by the same router.

The route that a name belongs to matches what it generates, so some entry does that stands no later.
Main statements: `recognize_eq_findSome?` (recognizing is a search through positions) and
`exists_first_of_mem` (an ascending search stops no later than at a hit).
-/

namespace PathRouting.Router

open Template (ConsumedValid Expansion)

/-! ### Recognizing as a search through positions -/

/-- What a request is recognized as by the entry at a position alone. -/
def answerAt (r : Router) (env : Env) (position : Nat) : Option Match :=
  r.entries[position]?.bind fun entry =>
    (entry.match? env r.config.trustForwardedHost).map (⟨entry, ·⟩)

theorem recognize_eq_findSome? (r : Router) {env : Env} {verb : Verb}
    (method : env.method = verb.method) :
    r.recognize env = (r.positions verb).findSome? (r.answerAt env) := by
  rw [recognize, method, candidates_method]
  rw [firstMatch, ← List.head?_filterMap, List.filterMap_filterMap, List.head?_filterMap]
  rfl

/-- A search through ascending positions stops at the first hit, which is no later than any other
one. -/
theorem exists_first_of_mem {α : Type} {positions : List Nat}
    (ascending : positions.Pairwise (· < ·)) {f : Nat → Option α} {position : Nat}
    (mem : position ∈ positions) (hit : (f position).isSome) :
    ∃ first ∈ positions, first ≤ position ∧ (f first).isSome ∧
      positions.findSome? f = f first ∧ ∀ before ∈ positions, before < first → f before = none := by
  have found : (positions.findSome? f).isSome :=
    List.findSome?_isSome_iff.mpr ⟨position, mem, hit⟩
  obtain ⟨a, eq⟩ := Option.isSome_iff_exists.mp found
  obtain ⟨before, first, after, rfl, here, missedBefore⟩ := List.findSome?_eq_some_iff.mp eq
  obtain ⟨-, ascendingLater, apart⟩ := List.pairwise_append.mp ascending
  obtain ⟨laterThan, -⟩ := List.pairwise_cons.mp ascendingLater
  refine ⟨first, by simp, ?_, by simp [here], by rw [eq, here], ?_⟩
  · rcases List.mem_append.mp mem with earlier | later
    · rw [missedBefore position earlier] at hit
      cases hit
    · rcases List.mem_cons.mp later with rfl | later
      · exact le_rfl
      · exact (laterThan position later).le
  · intro p member less
    rcases List.mem_append.mp member with earlier | later
    · exact missedBefore p earlier
    · rcases List.mem_cons.mp later with rfl | later
      · exact absurd less (lt_irrefl _)
      · exact absurd less (laterThan p later).asymm

/-! ### Generated paths -/

/-- The path that a name gives is the one that its route gives. -/
theorem path_of_holder {r : Router} {name : String} {position : Nat} {route : Route}
    (holder : r.named.get? (Naming.routeName name) = some position)
    (stored : r.entries[position]? = some (.route route)) {args : Args} {e : Expansion}
    (expanded : route.template.expand args = .ok e) : r.path name args = .ok e.url := by
  have named : r.named? name = some route := by
    simp [named?, holder, stored, Entry.toRoute]
  simp [path, named, Route.expand, Template.expandWithQuery, expanded, Except.map]

/-- A route matches every path that it generates from values that satisfy its constraints. -/
theorem isSome_answerAt {r : Router} {position : Nat} {route : Route}
    (stored : r.entries[position]? = some (.route route)) {args : Args} {e : Expansion}
    (expanded : route.template.expand args = .ok e)
    (valid : ConsumedValid route.template args e) {env : Env} (path : env.path = e.path) :
    (r.answerAt env position).isSome := by
  have matched : route.template.match? env.path ≠ none := by
    rw [path]
    intro unmatched
    exact (Template.match?_eq_none_iff route.template e.path).mp unmatched
      ⟨_, Template.consumes_path_of_expand expanded valid⟩
  rw [answerAt, stored, Option.bind_some, Option.isSome_map, Entry.match?_route]
  exact Option.isSome_iff_ne_none.mpr matched

/-- Whatever calls are made on a new router, a path that the holder of a name generates from values
that satisfy its constraints is recognized for the verb of the holder, whatever the environment says
of the host. It is recognized as the first entry for the verb that matches, and that one was
registered no later than the holder. -/
theorem recognize_of_holder {r : Router} {config : Config} {base : Url.Base} {calls : List Call}
    (built : r = (blank config base).afterCalls calls) {name : String} {position : Nat}
    {route : Route} (holder : r.named.get? (Naming.routeName name) = some position)
    (stored : r.entries[position]? = some (.route route)) {verb : Verb}
    (registered : position ∈ r.positions verb) {args : Args} {e : Expansion}
    (expanded : route.template.expand args = .ok e)
    (valid : ConsumedValid route.template args e) {env : Env} (method : env.method = verb.method)
    (path : env.path = e.path) :
    r.path name args = .ok e.url ∧
      ∃ first ∈ r.positions verb, first ≤ position ∧ ∃ entry params,
        r.entries[first]? = some entry ∧ r.recognize env = some ⟨entry, params⟩ ∧
        entry.match? env r.config.trustForwardedHost = some params ∧
        ∀ before ∈ r.positions verb, before < first →
          ∀ other, r.entries[before]? = some other →
            other.match? env r.config.trustForwardedHost = none := by
  have indexed : r.WellIndexed := by
    rw [built]
    exact wellIndexed_of_recorded (recorded_afterCalls config base calls)
      fun _ mem => addable_of_mem_record mem
  obtain ⟨first, mem, earlier, hit, search, missed⟩ := exists_first_of_mem
    (indexed.ascending verb) registered (isSome_answerAt stored expanded valid path)
  obtain ⟨found, answered⟩ := Option.isSome_iff_exists.mp hit
  obtain ⟨entry, entryAt, matched⟩ := Option.bind_eq_some_iff.mp answered
  obtain ⟨params, given, rfl⟩ := Option.map_eq_some_iff.mp matched
  refine ⟨path_of_holder holder stored expanded, first, mem, earlier, entry, params, entryAt, ?_,
    given, ?_⟩
  · rw [recognize_eq_findSome? r method, search, answered]
  · intro before member less other otherAt
    have unmatched := missed before member less
    rwa [answerAt, otherAt, Option.bind_some, Option.map_eq_none_iff] at unmatched

/-- The path for a book called `new` is that of the form for new books, which was registered
before. The name belonged to another route first. -/
theorem recognize_of_holder_new :
    let handler : Endpoint := .handler fun env => (.notFound, env)
    let form : Call := ⟨[], .route "get" "/books/new" { destination := .endpoint handler }⟩
    let old : Call :=
      ⟨[], .route "get" "/:id" { destination := .endpoint handler, name := some "book" }⟩
    let book : Call :=
      ⟨[{ path := some "books" }],
        .route "get" "/:id" { destination := .endpoint handler, name := some "Book" }⟩
    let r := (blank {} ⟨"http", "localhost", none⟩).afterCalls [form, old, book]
    let args : Args := ⟨[("page", .single "2"), ("id", .single "new")]⟩
    let env : Env := { Env.get "/books/new" with host := some "example.com" }
    r.named.get? (Naming.routeName "book") = some 2 ∧ 2 ∈ r.positions .get ∧
      r.path "book" args = .ok "/books/new?page=2" ∧
      ∃ first ≤ 2, ∃ entry params, r.entries[first]? = some entry ∧
        r.recognize env = some ⟨entry, params⟩ := by
  intro handler form old book r args env
  let formRoute : Route :=
    ⟨"/books/new", ⟨"/books/new", [.literal "/books/new"], []⟩, .endpoint handler, none⟩
  let oldRoute : Route :=
    ⟨"/:id", ⟨"/:id", [.literal "/", .capture "id" none], ["id"]⟩, .endpoint handler, some "book"⟩
  let route : Route :=
    ⟨"/books/:id", ⟨"/books/:id", [.literal "/books/", .capture "id" none], ["id"]⟩,
      .endpoint handler, some "book"⟩
  let e : Expansion := ⟨"/books/new", ⟨[("page", .single "2")]⟩⟩
  have first : form.added? = some (.route formRoute, [.get]) := rfl
  have second : old.added? = some (.route oldRoute, [.get]) := rfl
  have third : book.added? = some (.route route, [.get]) := rfl
  have pushed : r = (((blank {} ⟨"http", "localhost", none⟩).push (.route formRoute) [.get]).push
      (.route oldRoute) [.get]).push (.route route) [.get] := by
    simp only [r, afterCalls_cons, afterCalls_nil, attempt_eq, first, second, third]
  have holder : r.named.get? (Naming.routeName "book") = some 2 := by
    rw [pushed]
    rfl
  have stored : r.entries[2]? = some (.route route) := by
    rw [pushed]
    rfl
  have registered : 2 ∈ r.positions .get := by
    rw [pushed]
    decide
  have expanded : route.template.expand args = .ok e := rfl
  have valid : ConsumedValid route.template args e := of_decide_eq_true rfl
  have url : e.url = "/books/new?page=2" := rfl
  have method : env.method = Verb.get.method := rfl
  obtain ⟨path, found, -, earlier, entry, params, entryAt, recognized, -⟩ :=
    recognize_of_holder rfl holder stored registered expanded valid method rfl
  exact ⟨holder, registered, url ▸ path, found, earlier, entry, params, entryAt, recognized⟩

end PathRouting.Router

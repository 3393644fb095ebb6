import PathRouting.Proofs.Router.Scan
import PathRouting.Router.Generation

/-!
What the answers of a router depend on, of all that was registered before.

A request is recognized by what was added for its verb alone, in order, and a name stands for what
was added last under it. Positions are not seen. Main statements: `recognize_afterCalls` and
`named?_afterCalls`.
-/

namespace PathRouting.Router

/-! ### What is added for a verb and under a name -/

/-- The entries that some calls add for a verb, in order. -/
def addedFor (verb : Verb) (calls : List Call) : List Entry :=
  ((record calls).filter fun added => decide (verb ∈ added.2)).map Prod.fst

/-- The entries that some calls add under a name, in order. The name may be given in any
spelling. -/
def addedUnder (name : String) (calls : List Call) : List Entry :=
  ((record calls).filter fun added =>
    decide (added.1.toRoute.name = some (Naming.routeName name))).map Prod.fst

theorem record_append (calls more : List Call) :
    record (calls ++ more) = record calls ++ record more :=
  List.filterMap_append

theorem addedFor_append (verb : Verb) (calls more : List Call) :
    addedFor verb (calls ++ more) = addedFor verb calls ++ addedFor verb more := by
  unfold addedFor
  rw [record_append, List.filter_append, List.map_append]

theorem addedUnder_append (name : String) (calls more : List Call) :
    addedUnder name (calls ++ more) = addedUnder name calls ++ addedUnder name more := by
  unfold addedUnder
  rw [record_append, List.filter_append, List.map_append]

/-! ### Recognizing -/

/-- The first match of the longer list is that of the shorter one, where that has a match. -/
theorem firstMatch_append {trustForwarded : Bool} {env : Env} {entries : List Entry}
    {found : Match} (h : firstMatch trustForwarded env entries = some found)
    (more : List Entry) : firstMatch trustForwarded env (entries ++ more) = some found := by
  unfold firstMatch at h ⊢
  rw [List.findSome?_append, h, Option.some_or]

/-- A request is recognized as the first match of what was added for its verb. -/
theorem recognize_afterCalls (config : Config) (base : Url.Base) (calls : List Call) (env : Env) :
    ((blank config base).afterCalls calls).recognize env =
      match Verb.ofMethod env.method with
      | .ok verb => firstMatch config.trustForwardedHost env (addedFor verb calls)
      | .error _ => none := by
  have settings : ((blank config base).afterCalls calls).config = config :=
    config_afterCalls _ calls
  unfold recognize candidates
  rw [settings]
  cases Verb.ofMethod env.method with
  | error e => rfl
  | ok verb =>
    dsimp only
    rw [(recorded_afterCalls config base calls).entries_positions]
    rfl

/-! ### Names -/

/-- The last position of an element leads to the last of these elements. -/
theorem getLast?_findIdxs_bind {α : Type} (xs : List α) (p : α → Bool) :
    (xs.findIdxs p).getLast?.bind (xs[·]?) = (xs.filter p).getLast? := by
  induction xs using List.reverseRecOn with
  | nil => rfl
  | append_singleton xs a ih =>
    rw [List.findIdxs_append, List.filter_append]
    cases holds : p a with
    | true => simp [holds]
    | false =>
      rw [show [a].filter p = [] by simp [holds], List.append_nil, ← ih]
      rw [show [a].findIdxs p (0 + xs.length) = [] by simp [holds], List.append_nil]
      refine Option.bind_congr ?_
      intro i last
      have inside : i ∈ xs.findIdxs p := List.mem_of_getLast? last
      exact List.getElem?_append_left (by simpa using List.lt_add_of_mem_findIdxs i inside)

/-- A name stands for the route that was added last under it. -/
theorem named?_afterCalls (config : Config) (base : Url.Base) (calls : List Call)
    (name : String) :
    ((blank config base).afterCalls calls).named? name =
      (addedUnder name calls).getLast?.map Entry.toRoute := by
  have recorded := recorded_afterCalls config base calls
  have last := getLast?_findIdxs_bind (record calls) fun added =>
    decide (added.1.toRoute.name = some (Naming.routeName name))
  unfold named? addedUnder
  rw [recorded.named, List.getLast?_map, ← last]
  simp only [recorded.getElem?_entries, positionsOf]
  cases List.getLast? _ with
  | none => rfl
  | some position =>
    cases found : (record calls)[position]? with
    | none => simp [found]
    | some added => simp [found]

/-- Routers that have the same route for a name and the same base generate the same for it. -/
theorem generated_congr {r s : Router} {name : String} (named : r.named? name = s.named? name)
    (base : r.base = s.base) (args : Args) :
    r.path name args = s.path name args ∧ r.url name args = s.url name args := by
  have paths : ∀ args, r.path name args = s.path name args := by
    intro args
    unfold path
    rw [named]
  refine ⟨paths args, ?_⟩
  unfold url
  rw [paths, base]

/-! ### Locality -/

/-- Whatever calls are made on new routers with the same settings, two of them recognize the
requests for a verb alike if what was added for this verb is the same, whatever was added for other
verbs and in between. A request that is recognized stays recognized as the same entry with the same
parameters, whatever is added later. And two of them generate the same for a name, path or URL, if
the last entry that was added under it is the same; so calls that add nothing under the name change
nothing, wherever they are put in between. -/
theorem answers_local (config : Config) (base : Url.Base) (calls others : List Call) :
    let r := (blank config base).afterCalls calls
    let s := (blank config base).afterCalls others
    (∀ verb, addedFor verb calls = addedFor verb others →
      ∀ env, Verb.ofMethod env.method = .ok verb → r.recognize env = s.recognize env) ∧
      (∀ more env found, r.recognize env = some found →
        (r.afterCalls more).recognize env = some found) ∧
      (∀ name, (addedUnder name calls).getLast? = (addedUnder name others).getLast? →
        ∀ args, r.path name args = s.path name args ∧ r.url name args = s.url name args) ∧
      ∀ name front more back, calls = front ++ back → others = front ++ more ++ back →
        addedUnder name more = [] →
          ∀ args, r.path name args = s.path name args ∧ r.url name args = s.url name args := by
  intro r s
  have byLast : ∀ name, (addedUnder name calls).getLast? = (addedUnder name others).getLast? →
      ∀ args, r.path name args = s.path name args ∧ r.url name args = s.url name args := by
    intro name last args
    have named : r.named? name = s.named? name := by
      rw [named?_afterCalls, named?_afterCalls, last]
    exact generated_congr named ((base_afterCalls _ calls).trans (base_afterCalls _ others).symm)
      args
  refine ⟨?_, ?_, byLast, ?_⟩
  · intro verb same env method
    rw [recognize_afterCalls, recognize_afterCalls, method]
    exact congrArg _ same
  · intro more env found recognized
    rw [recognize_afterCalls] at recognized
    rw [← afterCalls_append, recognize_afterCalls]
    cases method : Verb.ofMethod env.method with
    | error e =>
      rw [method] at recognized
      cases recognized
    | ok verb =>
      rw [method] at recognized
      dsimp only at recognized ⊢
      rw [addedFor_append]
      exact firstMatch_append recognized _
  · rintro name front more back rfl rfl nothing args
    refine byLast name ?_ args
    rw [addedUnder_append, addedUnder_append, addedUnder_append, nothing, List.append_nil]

/-- A form is posted somewhere between the pages that are read. The page that is asked for comes
after a mount, and its name belonged to another page before. -/
theorem answers_local_login :
    let handler : Endpoint := .handler fun env => (.notFound, env)
    let old : Call :=
      ⟨[], .route "get" "/:id" { destination := .endpoint handler, name := some "book" }⟩
    let login : Call :=
      ⟨[], .route "post" "/login" { destination := .endpoint handler, name := some "login" }⟩
    let admin : Call := ⟨[], .mount "/admin" handler none⟩
    let book : Call :=
      ⟨[{ path := some "books" }],
        .route "get" "/:id" { destination := .endpoint handler, name := some "Book" }⟩
    let calls := [old, admin, book]
    let others := [old, login, admin, book]
    let r := (blank {} ⟨"http", "localhost", none⟩).afterCalls calls
    let s := (blank {} ⟨"http", "localhost", none⟩).afterCalls others
    let env := Env.get "/books/7"
    addedFor .get calls = addedFor .get others ∧ Verb.ofMethod env.method = .ok .get ∧
      r.recognize env = s.recognize env ∧
      (∃ found, r.recognize env = some found ∧ (r.afterCalls [login]).recognize env = some found) ∧
      (addedUnder "book" calls).getLast? = (addedUnder "book" others).getLast? ∧
      addedUnder "book" [login] = [] ∧
      r.path "book" ⟨[("id", .single "7")]⟩ = s.path "book" ⟨[("id", .single "7")]⟩ ∧
      r.url "book" ⟨[("id", .single "7")]⟩ = s.url "book" ⟨[("id", .single "7")]⟩ := by
  intro handler old login admin book calls others r s env
  let oldRoute : Route :=
    ⟨"/:id", ⟨"/:id", [.literal "/", .capture "id" none], ["id"]⟩, .endpoint handler, some "book"⟩
  let loginRoute : Route :=
    ⟨"/login", ⟨"/login", [.literal "/login"], []⟩, .endpoint handler, some "login"⟩
  let adminMount : Mount :=
    ⟨⟨"/admin", ⟨"/admin", [.literal "/admin"], []⟩, .endpoint handler, none⟩, none⟩
  let bookRoute : Route :=
    ⟨"/books/:id", ⟨"/books/:id", [.literal "/books/", .capture "id" none], ["id"]⟩,
      .endpoint handler, some "book"⟩
  have first : old.added? = some (.route oldRoute, [.get]) := rfl
  have second : login.added? = some (.route loginRoute, [.post]) := rfl
  have third : admin.added? = some (.mount adminMount, Verb.all) := rfl
  have fourth : book.added? = some (.route bookRoute, [.get]) := rfl
  have recorded : record calls =
      [(.route oldRoute, [.get]), (.mount adminMount, Verb.all), (.route bookRoute, [.get])] := by
    simp [record, calls, first, third, fourth]
  have recordedOthers : record others =
      [(.route oldRoute, [.get]), (.route loginRoute, [.post]), (.mount adminMount, Verb.all),
        (.route bookRoute, [.get])] := by
    simp [record, others, first, second, third, fourth]
  have recordedLogin : record [login] = [(.route loginRoute, [.post])] := by
    simp [record, second]
  have alike : addedFor .get calls = addedFor .get others := by
    unfold addedFor
    rw [recorded, recordedOthers]
    rfl
  have method : Verb.ofMethod env.method = .ok .get := by decide +kernel
  have spelled : Naming.routeName "book" = "book" := rfl
  have last : (addedUnder "book" calls).getLast? = (addedUnder "book" others).getLast? := by
    unfold addedUnder
    rw [recorded, recordedOthers, spelled]
    rfl
  have nothing : addedUnder "book" [login] = [] := by
    unfold addedUnder
    rw [recordedLogin, spelled]
    rfl
  have oldMisses : (Entry.route oldRoute).match? env true = none := by decide +kernel
  have adminMisses : (Entry.mount adminMount).match? env true = none := by decide +kernel
  have bookMatches : (Entry.route bookRoute).match? env true = some ⟨[("id", some "7")]⟩ := by
    decide +kernel
  have recognized : r.recognize env =
      some ⟨.route bookRoute, ⟨[("id", some "7")]⟩⟩ := by
    rw [recognize_afterCalls, method]
    dsimp only
    unfold addedFor
    rw [recorded]
    change firstMatch true env [.route oldRoute, .mount adminMount, .route bookRoute] = _
    simp only [firstMatch, List.findSome?_cons, oldMisses, adminMisses, bookMatches,
      Option.map_none, Option.map_some]
  obtain ⟨byVerb, stays, byName, between⟩ :=
    answers_local {} ⟨"http", "localhost", none⟩ calls others
  have generated := between "book" [old] [login] [admin, book] rfl rfl nothing
    ⟨[("id", .single "7")]⟩
  exact ⟨alike, method, byVerb .get alike env method,
    ⟨_, recognized, stays [login] env _ recognized⟩, last,
    nothing, (byName "book" last _).1, generated.2⟩

end PathRouting.Router

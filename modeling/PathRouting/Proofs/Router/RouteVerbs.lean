import PathRouting.Proofs.Router.Record
import PathRouting.Proofs.VerbSpelling

/-!
What becomes of a route under any text for its verb.

`TakenByLetters` is what is asked of a text: it is taken just if it names a verb in any case of its
ASCII letters. Main statement: `register_route_iff` (the text is taken just if its ASCII form names
a verb, which is more where it holds other characters).
-/

namespace PathRouting.Router

open Unicode

/-- What it is for a step to add a route for a verb: the route is reported and stands behind the
entries before, its position is listed for this verb alone, and nothing else has changed. -/
structure AddsFor (verb : Verb) (route : Route) (w : Workspace) (done : Report × Workspace) :
    Prop where
  reported : done.1 = .entry (.route route) none
  pushed : done.2 = { w with router := w.router.push (.route route) [verb] }
  entries : done.2.router.entries.toList = w.router.entries.toList ++ [.route route]
  positions : ∀ other, done.2.router.positions other =
    w.router.positions other ++ if other = verb then [w.router.size] else []

/-- What it is for a step to refuse a verb: an error reports it, and nothing has changed. -/
def RefusesVerb (w : Workspace) (done : Report × Workspace) : Prop :=
  ∃ named, done = (.refused (.unsupportedVerb named), w)

/-- What is asked of a text for the verb of a route: that a route is added for the verb that the
text names, where only the case of ASCII letters does not count, and that any other text is
refused. -/
structure TakenByLetters (text : String) (route : Route) (w : Workspace)
    (done : Report × Workspace) : Prop where
  taken : ∀ verb : Verb, verb.Names text.toList → AddsFor verb route w done
  refused : (∀ verb : Verb, ¬verb.Names text.toList) → RefusesVerb w done

theorem run_register_route (text path : String) (spec : RouteSpec) {route : Route}
    (valid : Route.create path spec = .ok route) (w : Workspace) :
    (Step.register (.route text path spec)).run [] w =
      match Verb.parse text with
      | .ok verb =>
        (.entry (.route route) none, { w with router := w.router.push (.route route) [verb] })
      | .error e => (.refused e, w) := by
  have entry : (Registration.route text path spec).entry =
      (Verb.parse text).map fun verb => (.route route, [verb]) := by
    rw [Registration.entry, valid]
    cases Verb.parse text <;> rfl
  rw [Step.run, Workspace.register, registerWithin, List.foldl_nil, register, entry]
  cases Verb.parse text <;> rfl

theorem addsFor_push (verb : Verb) (route : Route) (w : Workspace) :
    AddsFor verb route w
      (.entry (.route route) none, { w with router := w.router.push (.route route) [verb] }) where
  reported := rfl
  pushed := rfl
  entries := entries_push ..
  positions := by
    intro other
    simpa using positions_push w.router (.route route) (List.nodup_singleton verb) other

/-- A route is added for one verb only. -/
theorem AddsFor.unique {verb other : Verb} {route route' : Route} {w : Workspace}
    {done : Report × Workspace} (h : AddsFor verb route w done)
    (h' : AddsFor other route' w done) : verb = other := by
  by_contra different
  have same := (h.positions verb).symm.trans (h'.positions verb)
  simp [different] at same

/-- A step that adds a route refuses no verb. -/
theorem AddsFor.not_refuses {verb : Verb} {route : Route} {w : Workspace}
    {done : Report × Workspace} (h : AddsFor verb route w done) : ¬RefusesVerb w done := by
  rintro ⟨named, rfl⟩
  cases h.reported

section Registered

variable {path : String} {spec : RouteSpec} {route : Route}

theorem addsFor_iff (valid : Route.create path spec = .ok route) (text : String) (w : Workspace)
    (verb : Verb) :
    AddsFor verb route w ((Step.register (.route text path spec)).run [] w) ↔
      verb.Names (asciiText text.toList) := by
  rw [run_register_route text path spec valid, ← Verb.parse_eq_ok_iff]
  cases Verb.parse text with
  | error e =>
    constructor
    · intro added
      cases added.reported
    · intro parsed
      cases parsed
  | ok other =>
    constructor
    · intro added
      rw [added.unique (addsFor_push other route w)]
    · intro same
      obtain rfl := Except.ok.inj same
      exact addsFor_push other route w

theorem run_of_not_names (valid : Route.create path spec = .ok route) {text : String}
    (unnamed : ∀ verb : Verb, ¬verb.Names (asciiText text.toList)) (w : Workspace) :
    (Step.register (.route text path spec)).run [] w =
      (.refused (.unsupportedVerb (String.ofList (upperText text.toList))), w) := by
  rw [run_register_route text path spec valid, Verb.parse_eq_error_of unnamed]

end Registered

/-- A valid route is added for the verb that the ASCII form of the text names, and for no other
verb; if it names none, the text is refused in upper case. This is what letters ask for just if the
text is in ASCII or its ASCII form names no verb. -/
theorem register_route_iff {path : String} {spec : RouteSpec} {route : Route}
    (valid : Route.create path spec = .ok route) (text : String) (w : Workspace) :
    let done := (Step.register (.route text path spec)).run [] w
    (∀ verb, AddsFor verb route w done ↔ verb.Names (asciiText text.toList)) ∧
      ((∀ verb : Verb, ¬verb.Names (asciiText text.toList)) →
        done = (.refused (.unsupportedVerb (String.ofList (upperText text.toList))), w)) ∧
      (TakenByLetters text route w done ↔
        (∀ c ∈ text.toList, isAscii c = true) ∨
          ∀ verb : Verb, ¬verb.Names (asciiText text.toList)) := by
  intro done
  have adds := addsFor_iff valid text w
  refine ⟨adds, fun unnamed => run_of_not_names valid unnamed w, ?_, ?_⟩
  · intro good
    by_contra! both
    obtain ⟨⟨c, mem, foreign⟩, verb, names⟩ := both
    have unnamed : ∀ other : Verb, ¬other.Names text.toList := by
      intro other named
      exact foreign (Verb.isAscii_of_names named c mem)
    exact ((adds verb).mpr names).not_refuses (good.refused unnamed)
  · rintro (ascii | unnamed)
    · have same := asciiText_of_isAscii ascii
      refine ⟨fun verb names => (adds verb).mpr (same.symm ▸ names), ?_⟩
      intro noName
      rw [← same] at noName
      exact ⟨_, run_of_not_names valid noName w⟩
    · refine ⟨fun verb names => ?_, fun _ => ⟨_, run_of_not_names valid unnamed w⟩⟩
      have same := asciiText_of_isAscii (Verb.isAscii_of_names names)
      exact absurd (same.symm ▸ names) (unnamed verb)

theorem create_books :
    Route.create "/books" { destination := .reference "books#index" } =
      .ok ⟨"/books", ⟨"/books", [.literal "/books"], []⟩, .ofReference "books#index", none⟩ := by
  have cleaned : Naming.cleanPath "/books" = "/books" := rfl
  have compiled : Template.compile "/books" [] = .ok ⟨"/books", [.literal "/books"], []⟩ := rfl
  rw [Route.create_eq_ok, cleaned]
  exact ⟨_, compiled, rfl⟩

/-- A verb of which only the first letter is a capital. -/
theorem register_route_iff_patch :
    let spec : RouteSpec := { destination := .reference "books#index" }
    let route : Route :=
      ⟨"/books", ⟨"/books", [.literal "/books"], []⟩, .ofReference "books#index", none⟩
    let done := (Step.register (.route "Patch" "/books" spec)).run [] ⟨{}, {}⟩
    Route.create "/books" spec = .ok route ∧ AddsFor .patch route ⟨{}, {}⟩ done ∧
      TakenByLetters "Patch" route ⟨{}, {}⟩ done := by
  intro spec route done
  have valid : Route.create "/books" spec = .ok route := create_books
  have patch : Verb.patch.Names (asciiText "Patch".toList) := by decide
  have ascii : ∀ c ∈ "Patch".toList, isAscii c = true := List.all_eq_true.mp (by decide)
  obtain ⟨adds, -, good⟩ := register_route_iff valid "Patch" ⟨{}, {}⟩
  exact ⟨valid, (adds .patch).mpr patch, good.mpr (.inl ascii)⟩

/-- With a dotless i a text is taken as a verb all the same, though by its letters it is none. -/
theorem options_with_dotless_i_taken :
    let spec : RouteSpec := { destination := .reference "books#index" }
    let route : Route :=
      ⟨"/books", ⟨"/books", [.literal "/books"], []⟩, .ofReference "books#index", none⟩
    let done := (Step.register (.route "optıons" "/books" spec)).run [] ⟨{}, {}⟩
    Route.create "/books" spec = .ok route ∧ (∀ verb : Verb, ¬verb.Names "optıons".toList) ∧
      AddsFor .options route ⟨{}, {}⟩ done ∧ ¬TakenByLetters "optıons" route ⟨{}, {}⟩ done := by
  intro spec route done
  have valid : Route.create "/books" spec = .ok route := create_books
  have unnamed : ∀ verb : Verb, ¬verb.Names "optıons".toList := by
    intro verb
    cases verb <;> decide
  have options : Verb.options.Names (asciiText "optıons".toList) := by decide
  have added : AddsFor .options route ⟨{}, {}⟩ done :=
    (addsFor_iff valid "optıons" ⟨{}, {}⟩ .options).mpr options
  exact ⟨valid, unnamed, added, fun good => added.not_refuses (good.refused unnamed)⟩

end PathRouting.Router

import Mathlib.Control.Monad.Basic
import PathRouting.Proofs.LateBinding
import PathRouting.Proofs.Template.Compilation
import PathRouting.Proofs.Template.Delimited

/-!
The slash at the beginning of generated paths.

The path of a route is cleaned before it is compiled, so its text begins with a slash. What the
route generates does as well, unless a question mark makes this very slash optional. Main
statements: `Reads.startsWithSlash` (segments begin with a slash if their tokens keep it),
`startsWithSlash_of_compile` and `compile_of_marked_slash` (the two kinds of templates).
-/

namespace PathRouting.Template

open Segment

/-! ### Tokens -/

/-- Tokens that begin with a slash which no question mark makes optional. -/
def KeepsSlash (tokens : List Token) : Prop :=
  ∃ text others, tokens = .literal (String.ofList ('/' :: text)) :: others ∧
    (text = [] → others.head? ≠ some .optional)

theorem readText_slash (cs : List Char) :
    readText ('/' :: cs) = ('/' :: (readText cs).1, (readText cs).2) := rfl

/-- Where no plain text is read, nothing is passed over. -/
theorem readText_of_fst_eq_nil {cs : List Char} (h : (readText cs).1 = []) :
    (readText cs).2 = cs := by
  cases cs with
  | nil => rfl
  | cons c cs =>
    cases special : isSpecial c with
    | false => exact absurd h (readText_ne_nil special)
    | true =>
      unfold readText
      split
      · next eq => cases eq
      · next eq =>
        obtain ⟨rfl, -⟩ := List.cons.inj eq
        cases special
      · next eq =>
        obtain ⟨rfl, rfl⟩ := List.cons.inj eq
        rw [if_pos special]

namespace Lexed

theorem exists_slash {cs : List Char} {tokens : List Token} (h : Lexed ('/' :: cs) tokens) :
    ∃ others, tokens = .literal (String.ofList ('/' :: (readText cs).1)) :: others ∧
      Lexed (readText cs).2 others := by
  cases h with
  | cons takes later =>
    have first : readToken? ('/' :: cs) = _ := readToken?_of_plain rfl
    rw [readToken?_eq_some_iff.mpr takes, readText_slash] at first
    obtain ⟨rfl, rfl⟩ := Prod.mk.inj (Option.some.inj first)
    exact ⟨_, rfl, later⟩

theorem exists_mark {cs : List Char} {tokens : List Token} (h : Lexed ('?' :: cs) tokens) :
    ∃ others, tokens = .optional :: others ∧ Lexed cs others := by
  cases h with
  | cons takes later =>
    have first : readToken? ('?' :: cs) = some (.optional, cs) := rfl
    rw [readToken?_eq_some_iff.mpr takes] at first
    obtain ⟨rfl, rfl⟩ := Prod.mk.inj (Option.some.inj first)
    exact ⟨_, rfl, later⟩

theorem head?_of_mark {cs : List Char} {tokens : List Token} (h : Lexed cs tokens)
    (mark : tokens.head? = some .optional) : cs.head? = some '?' := by
  cases h with
  | nil => cases mark
  | cons takes later =>
    obtain rfl := Option.some.inj mark
    cases takes
    rfl

/-- A slash is kept where no question mark follows it. -/
theorem keepsSlash {cs : List Char} {tokens : List Token} (h : Lexed ('/' :: cs) tokens)
    (unmarked : cs.head? ≠ some '?') : KeepsSlash tokens := by
  obtain ⟨others, rfl, later⟩ := h.exists_slash
  refine ⟨_, others, rfl, ?_⟩
  intro alone mark
  rw [readText_of_fst_eq_nil alone] at later
  exact unmarked (later.head?_of_mark mark)

end Lexed

theorem KeepsSlash.of_append {tokens more : List Token} (h : KeepsSlash (tokens ++ more))
    (nonempty : tokens ≠ []) : KeepsSlash tokens := by
  obtain ⟨text, others, eq, unmarked⟩ := h
  obtain ⟨first, rest, rfl⟩ := List.exists_cons_of_ne_nil nonempty
  rw [List.cons_append] at eq
  obtain ⟨rfl, rfl⟩ := List.cons.inj eq
  refine ⟨text, rest, rfl, ?_⟩
  intro alone mark
  refine unmarked alone ?_
  rw [List.head?_append, mark]
  rfl

theorem KeepsSlash.not_of_slot {token : Token} {segment : Segment} {more : List Token}
    (slot : token.slot? = some segment) : ¬KeepsSlash (token :: more) := by
  rintro ⟨text, others, eq, -⟩
  rw [(List.cons.inj eq).1] at slot
  cases slot

theorem KeepsSlash.not_of_group {more : List Token} : ¬KeepsSlash (.groupOpen :: more) := by
  rintro ⟨text, others, eq, -⟩
  cases eq

/-! ### Segments -/

theorem startsWithSlash_append {segments : List Segment} (h : startsWithSlash segments = true)
    (more : List Segment) : startsWithSlash (segments ++ more) = true := by
  unfold startsWithSlash at h
  split at h
  · exact h
  · cases h

theorem startsWithSlash_constrainAll {segments : List Segment}
    (h : startsWithSlash segments = true) (key : String) (constraint : Constraint) :
    startsWithSlash (constrainAll key constraint segments) = true := by
  unfold startsWithSlash at h
  split at h
  · exact h
  · cases h

/-- Tokens that keep a slash are read as segments that begin with it. A reading grows at its end, so
its beginning is decided when the first token is read. -/
theorem Reads.startsWithSlash {tokens : List Token} {segments : List Segment}
    (h : Reads tokens segments) (keeps : KeepsSlash tokens) :
    startsWithSlash segments = true := by
  induction h with
  | nil =>
    obtain ⟨text, others, eq, -⟩ := keeps
    cases eq
  | @literal tokens segments text reads ih =>
    by_cases first : tokens = []
    · subst first
      obtain rfl := reads.eq_nil
      obtain ⟨rest, others, eq, -⟩ := keeps
      obtain rfl := Token.literal.inj (List.cons.inj eq).1
      simp [Template.startsWithSlash]
    · exact startsWithSlash_append (ih (keeps.of_append first)) _
  | @lastCharacter tokens segments front c reads ih =>
    rw [List.append_assoc]
    by_cases first : tokens = []
    · subst first
      obtain rfl := reads.eq_nil
      obtain ⟨text, others, eq, unmarked⟩ := keeps
      obtain ⟨same, rfl⟩ := List.cons.inj eq
      have chars : front ++ [c] = '/' :: text := String.ofList_injective (Token.literal.inj same)
      cases front with
      | nil =>
        -- The slash is all of the text, and the question mark is the next token.
        obtain ⟨-, rfl⟩ := List.cons.inj chars
        exact absurd rfl (unmarked rfl)
      | cons slash front =>
        obtain ⟨rfl, -⟩ := List.cons.inj chars
        simp [Template.startsWithSlash, plainText]
    · exact startsWithSlash_append (ih (keeps.of_append first)) _
  | @slot tokens segments token segment slot reads ih =>
    by_cases first : tokens = []
    · subst first
      exact absurd keeps (KeepsSlash.not_of_slot slot)
    · exact startsWithSlash_append (ih (keeps.of_append first)) _
  | @optionalSlot tokens segments token segment slot reads ih =>
    by_cases first : tokens = []
    · subst first
      exact absurd keeps (KeepsSlash.not_of_slot slot)
    · exact startsWithSlash_append (ih (keeps.of_append first)) _
  | @group tokens segments inner content reads _ ih _ =>
    rw [List.append_assoc] at keeps
    by_cases first : tokens = []
    · subst first
      exact absurd keeps KeepsSlash.not_of_group
    · exact startsWithSlash_append (ih (keeps.of_append first)) _
  | @optionalGroup tokens segments inner content reads _ ih _ =>
    rw [List.append_assoc] at keeps
    by_cases first : tokens = []
    · subst first
      exact absurd keeps KeepsSlash.not_of_group
    · exact startsWithSlash_append (ih (keeps.of_append first)) _

/-! ### Templates -/

/-- A template begins with a slash if its source does and no question mark follows. -/
theorem startsWithSlash_of_compile {cs : List Char} {constraints : List (String × String)}
    {t : Template} (compiled : compile (String.ofList ('/' :: cs)) constraints = .ok t)
    (unmarked : cs.head? ≠ some '?') : startsWithSlash t.segments = true := by
  obtain ⟨segments, written, attached, -⟩ := exists_segmentsOf_of_compile compiled
  rcases segmentsOf_agrees (legible_tokenize (String.ofList ('/' :: cs))) with
    ⟨found, same, -, reading⟩ | ⟨fault, failed, -, -⟩
  · rw [written] at same
    obtain ⟨rfl, -⟩ := Prod.mk.inj (Except.ok.inj same)
    have lexed := lexed_tokenize (String.ofList ('/' :: cs))
    rw [String.toList_ofList] at lexed
    have starts := ((reading segments).mpr rfl).startsWithSlash (lexed.keepsSlash unmarked)
    refine foldlM_keeps (P := fun s => Template.startsWithSlash s = true) ?_ starts attached
    intro s hs entry _ changed step
    obtain ⟨constraint, rfl⟩ := eq_constrainAll_of_attach step
    exact startsWithSlash_constrainAll hs entry.1 constraint
  · rw [written] at failed
    cases failed

theorem compile_of_attached {source : String} {constraints : List (String × String)}
    {segments constrained : List Segment} {names : List String}
    (written : segmentsOf (tokenize source) = .ok (segments, names))
    (attached : constraints.foldlM (attach names) segments = .ok constrained) :
    compile source constraints = .ok ⟨source, constrained, names⟩ := by
  rw [compile, compileOrFault, written]
  simp only [bind, Except.bind, attached]
  rfl

section

variable {s : Segment} (fixed : ∀ key constraint, s.constrain key constraint = s)

include fixed

/-- A segment that takes no constraint stays in front of those that do. -/
theorem attach_cons (names : List String) (segments : List Segment) (entry : String × String) :
    attach names (s :: segments) entry = (attach names segments entry).map (s :: ·) := by
  unfold attach
  split
  · rfl
  · split
    · rw [constrainAll, fixed]
      rfl
    · rfl

theorem foldlM_attach_cons (names : List String) (segments : List Segment)
    (constraints : List (String × String)) :
    constraints.foldlM (attach names) (s :: segments) =
      (constraints.foldlM (attach names) segments).map (s :: ·) := by
  induction constraints generalizing segments with
  | nil => rfl
  | cons entry rest ih =>
    rw [List.foldlM_cons, List.foldlM_cons, attach_cons fixed]
    cases attach names segments entry with
    | error fault => rfl
    | ok changed => exact ih changed

end

/-- The rules hold for what follows a text and a question mark if they hold for all of it. -/
theorem WellFormed.of_marked {text : String} {tokens : List Token}
    (h : WellFormed (.literal text :: .optional :: tokens)) : WellFormed tokens where
  balanced := by
    refine ⟨fun n => ?_, ?_⟩
    · simpa using h.balanced.closes_le (n + 2)
    · simpa using h.balanced.count_eq
  named := by
    intro mem
    exact h.named (by simp [mem])
  distinct := by simpa [Token.name?] using h.distinct
  placed := by
    rintro before after rfl
    have placed := h.placed (.literal text :: .optional :: before) after rfl
    cases before with
    | nil => cases placed
    | cons first rest => simpa [List.getLast?_cons_cons] using placed

/-- A source that begins with an optional slash is compiled as an optional part and what the rest of
the source is compiled to. -/
theorem compile_of_marked_slash {cs : List Char} {constraints : List (String × String)}
    {t : Template} (compiled : compile (String.ofList ('/' :: '?' :: cs)) constraints = .ok t) :
    ∃ rest, compile (String.ofList cs) constraints = .ok ⟨String.ofList cs, rest, t.names⟩ ∧
      t.segments = .optional [.literal "/"] :: rest := by
  obtain ⟨segments, written, attached, -⟩ := exists_segmentsOf_of_compile compiled
  have lexed := lexed_tokenize (String.ofList ('/' :: '?' :: cs))
  have lexedRest := lexed_tokenize (String.ofList cs)
  rw [String.toList_ofList] at lexed lexedRest
  obtain ⟨others, tokens, later⟩ := lexed.exists_slash
  obtain ⟨after, rfl, lexedAfter⟩ := Lexed.exists_mark later
  obtain rfl := lexedAfter.unique lexedRest
  rcases segmentsOf_agrees (legible_tokenize (String.ofList ('/' :: '?' :: cs))) with
    ⟨found, same, wellFormed, reading⟩ | ⟨fault, failed, -, -⟩
  · rw [written] at same
    obtain ⟨rfl, names⟩ := Prod.mk.inj (Except.ok.inj same)
    rw [tokens] at wellFormed reading names
    rcases segmentsOf_agrees (legible_tokenize (String.ofList cs)) with
      ⟨rest, writtenRest, -, readingRest⟩ | ⟨fault, -, broken, -⟩
    · have slash : Reads [.literal "/", .optional] [.optional [.literal "/"]] :=
        .lastCharacter [] '/' .nil
      obtain rfl := (reading _).mp (slash.append ((readingRest rest).mpr rfl))
      rw [List.singleton_append, foldlM_attach_cons fun _ _ => rfl] at attached
      have declares : declared ((tokenize (String.ofList cs)).map Lexeme.token) = t.names := by
        rw [names]
        rfl
      rw [declares] at writtenRest
      cases attachedRest : constraints.foldlM (attach t.names) rest with
      | error fault =>
        rw [attachedRest] at attached
        cases attached
      | ok constrained =>
        rw [attachedRest] at attached
        exact ⟨constrained, compile_of_attached writtenRest attachedRest,
          (Except.ok.inj attached).symm⟩
    · exact absurd wellFormed.of_marked broken
  · rw [written] at failed
    cases failed

/-- An optional part without captures is never written. -/
theorem renderAll_optional_literal (args : Args) (text : String) (rest : List Segment) :
    renderAll args (.optional [.literal text] :: rest) = renderAll args rest := by
  rw [renderAll_cons, render_optional]
  simp [isWritten, Rendering.append]

/-- The URL begins as the path does. -/
theorem head?_url {e : Expansion} {c : Char} (h : e.path.toList.head? = some c) :
    e.url.toList.head? = some c := by
  unfold Expansion.url
  cases e.unused.query? with
  | none => exact h
  | some query => simp [h]

theorem head?_of_expandWithQuery {t : Template} (starts : startsWithSlash t.segments = true)
    {args : Args} {u : String} (h : t.expandWithQuery args = .ok u) :
    u.toList.head? = some '/' := by
  unfold expandWithQuery at h
  cases expanded : t.expand args with
  | error e =>
    rw [expanded] at h
    cases h
  | ok e =>
    rw [expanded] at h
    obtain rfl := Except.ok.inj h
    refine head?_url ?_
    rw [(of_expand expanded).2.1]
    exact head?_text_of_startsWithSlash starts

end PathRouting.Template

/-! ### Routes -/

namespace PathRouting.Route

open Template

/-- What a route generates begins with a slash, if no question mark makes the slash of its path
optional. -/
theorem head?_of_expand {path : String} {spec : RouteSpec} {route : Route}
    (created : Route.create path spec = .ok route)
    (unmarked : ¬['/', '?'] <+: route.path.toList) {args : Args} {u : String}
    (expanded : route.expand args = .ok u) : u.toList.head? = some '/' := by
  obtain ⟨template, compiled, rfl⟩ := Route.create_eq_ok.mp created
  dsimp only at unmarked
  have slash : ∃ cs, Naming.cleanPath path = String.ofList ('/' :: cs) := ⟨_, rfl⟩
  obtain ⟨cs, cleaned⟩ := slash
  rw [cleaned] at compiled unmarked
  have noMark : cs.head? ≠ some '?' := by
    intro mark
    obtain ⟨rest, rfl⟩ := List.head?_eq_some_iff.mp mark
    exact unmarked ⟨rest, by simp⟩
  exact head?_of_expandWithQuery (startsWithSlash_of_compile compiled noMark) expanded

/-- What a route generates begins with a slash, unless its cleaned path begins with `/?`. There the
slash is an optional part by itself, which is never written: the route generates exactly what the
rest of its path does, compiled with the same constraints. -/
theorem expand_begins_with_slash {path : String} {spec : RouteSpec} {route : Route}
    (created : Route.create path spec = .ok route) :
    (¬['/', '?'] <+: (Naming.cleanPath path).toList →
      ∀ args u, route.expand args = .ok u → u.toList.head? = some '/') ∧
      ∀ rest, Naming.cleanPath path = String.ofList ('/' :: '?' :: rest) →
        ∃ t, Template.compile (String.ofList rest) spec.constraints = .ok t ∧
          t.names = route.template.names ∧
          ∀ args u, route.expand args = .ok u ↔ t.expandWithQuery args = .ok u := by
  obtain ⟨template, compiled, rfl⟩ := Route.create_eq_ok.mp created
  constructor
  · intro unmarked args u expanded
    exact head?_of_expand created unmarked expanded
  · intro rest cleaned
    rw [cleaned] at compiled
    obtain ⟨segments, compiledRest, eq⟩ := compile_of_marked_slash compiled
    refine ⟨_, compiledRest, rfl, ?_⟩
    intro args u
    unfold Route.expand expandWithQuery Template.expand
    dsimp only
    rw [eq, renderAll_optional_literal]
    split
    · rfl
    · simp [Except.map]

/-- A path of books in need of cleaning, and one whose slash is optional. -/
theorem expand_begins_with_slash_books :
    let handler : Endpoint := .handler fun env => (.notFound, env)
    let spec : RouteSpec := { destination := .endpoint handler, constraints := [("id", "int")] }
    let args : Args := ⟨[("id", .single "7"), ("page", .single "2")]⟩
    (∃ route, Route.create "books//:id(.:format)?/" spec = .ok route ∧
      ¬['/', '?'] <+: (Naming.cleanPath "books//:id(.:format)?/").toList ∧
      route.expand args = .ok "/books/7?page=2" ∧
      "/books/7?page=2".toList.head? = some '/') ∧
      ∃ route, Route.create "?books/:id" spec = .ok route ∧
        Naming.cleanPath "?books/:id" = String.ofList ('/' :: '?' :: "books/:id".toList) ∧
        ∃ t, Template.compile "books/:id" spec.constraints = .ok t ∧
          route.expand args = .ok "books/7?page=2" ∧
          t.expandWithQuery args = .ok "books/7?page=2" := by
  intro handler spec args
  have cleaned : Naming.cleanPath "books//:id(.:format)?/" = "/books/:id(.:format)?" := rfl
  have cleaned' : Naming.cleanPath "?books/:id" = "/?books/:id" := rfl
  have compiled : Template.compile "/books/:id(.:format)?" spec.constraints =
      .ok ⟨"/books/:id(.:format)?", [.literal "/books/", .capture "id" (some .int),
        .optional [.literal ".", .capture "format" none]], ["id", "format"]⟩ := by decide +kernel
  have compiled' : Template.compile "/?books/:id" spec.constraints =
      .ok ⟨"/?books/:id", [.optional [.literal "/"], .literal "books/", .capture "id" (some .int)],
        ["id"]⟩ := by decide +kernel
  have created : Route.create "books//:id(.:format)?/" spec = .ok _ :=
    Route.create_eq_ok.mpr ⟨_, by rw [cleaned]; exact compiled, rfl⟩
  have created' : Route.create "?books/:id" spec = .ok _ :=
    Route.create_eq_ok.mpr ⟨_, by rw [cleaned']; exact compiled', rfl⟩
  have unmarked : ¬['/', '?'] <+: (Naming.cleanPath "books//:id(.:format)?/").toList := by
    rw [cleaned]
    decide
  obtain ⟨t, compiledRest, -, same⟩ := (expand_begins_with_slash created').2 "books/:id".toList
    (by rw [cleaned']; rfl)
  rw [String.ofList_toList] at compiledRest
  refine ⟨⟨_, created, unmarked, by decide +kernel, ?_⟩, _, created', by rw [cleaned']; rfl, t,
    compiledRest, ?_, ?_⟩
  · exact (expand_begins_with_slash created).1 unmarked args _ (by decide +kernel)
  · decide +kernel
  · exact (same args _).mp (by decide +kernel)

/-- An optional slash at the beginning is left out. -/
theorem expand_begins_without_slash :
    let handler : Endpoint := .handler fun env => (.notFound, env)
    ∃ route, Route.create "/?books" { destination := .endpoint handler } = .ok route ∧
      route.expand {} = .ok "books" ∧ "books".toList.head? ≠ some '/' := by
  intro handler
  have cleaned : Naming.cleanPath "/?books" = "/?books" := rfl
  have compiled : Template.compile "/?books" [] =
      .ok ⟨"/?books", [.optional [.literal "/"], .literal "books"], []⟩ := rfl
  have created : Route.create "/?books" { destination := .endpoint handler } = .ok _ :=
    Route.create_eq_ok.mpr ⟨_, by rw [cleaned]; exact compiled, rfl⟩
  exact ⟨_, created, by decide +kernel, by decide⟩

end PathRouting.Route

import PathRouting.Template.Expand

/-!
What the query of a generated path says.

`Spelled` lists what arguments say: one pair for each text, with the key of its argument, in the
order of the arguments. Main statements: `query_spelled` (a query is read back as just these pairs)
and `marksQuery_iff` (when a question mark stands behind a path without need).
-/

namespace PathRouting.Template

open Text

/-- What arguments say in pairs of a key and a text. The key of a list has brackets behind it, and
comes once for each text of the list. -/
inductive Spelled : List (String × ArgValue) → List (String × String) → Prop
  | nothing : Spelled [] []
  | single (key text : String) {rest : List (String × ArgValue)} {pairs : List (String × String)}
      (later : Spelled rest pairs) : Spelled ((key, .single text) :: rest) ((key, text) :: pairs)
  | list (key : String) (texts : List String) {rest : List (String × ArgValue)}
      {pairs : List (String × String)} (later : Spelled rest pairs) :
      Spelled ((key, .list texts) :: rest)
        (texts.map (fun text => (key ++ "[]", text)) ++ pairs)

/-- Arguments say one thing, and that is what is put into a query. -/
theorem spelled_iff {args : Args} {pairs : List (String × String)} :
    Spelled args.entries pairs ↔ pairs = args.pairs := by
  obtain ⟨entries⟩ := args
  constructor
  · intro spelled
    dsimp only at spelled
    induction spelled with
    | nothing => rfl
    | single key text _ ih => rw [ih]; rfl
    | list key texts _ ih => rw [ih]; rfl
  · rintro rfl
    induction entries with
    | nil => exact .nothing
    | cons e rest ih =>
      obtain ⟨key, value⟩ := e
      cases value with
      | single text => exact .single key text ih
      | list texts => exact .list key texts ih

/-- The pairs of a query, if it is in form coding. Without a query there are none. -/
def queryPairs? : Option String → Option (List (String × String))
  | none => some []
  | some query => Form.decode? query

theorem queryPairs?_query? (args : Args) : queryPairs? args.query? = some args.pairs := by
  unfold Args.query?
  split
  · next empty =>
    have noArgs : args.entries = [] := List.isEmpty_iff.mp empty
    simp [queryPairs?, Args.pairs, noArgs]
  · exact Form.decode?_encode args.pairs

theorem query?_eq_none_iff {args : Args} : args.query? = none ↔ args.entries = [] := by
  simp [Args.query?, OrderedMap.isEmpty]

/-- The query of arguments is read back as what they say, and as nothing else. A generated path has
no query if all arguments are used, and else one that says what the others say. -/
theorem query_spelled :
    (∀ args : Args, ∃ pairs, queryPairs? args.query? = some pairs ∧
        ∀ said, Spelled args.entries said ↔ said = pairs) ∧
      ∀ e : Expansion,
        (e.unused.entries = [] ∧ e.url = e.path) ∨
          ∃ query pairs, e.url = e.path ++ "?" ++ query ∧ Form.decode? query = some pairs ∧
            ∀ said, Spelled e.unused.entries said ↔ said = pairs := by
  constructor
  · intro args
    exact ⟨args.pairs, queryPairs?_query? args, fun _ => spelled_iff⟩
  · intro e
    have read := queryPairs?_query? e.unused
    cases found : e.unused.query? with
    | none =>
      left
      refine ⟨query?_eq_none_iff.mp found, ?_⟩
      rw [Expansion.url, found]
    | some query =>
      right
      rw [found] at read
      refine ⟨query, e.unused.pairs, ?_, read, fun _ => spelled_iff⟩
      rw [Expansion.url, found]

/-! ### The question mark -/

/-- What it is for a URL to have a query just where there is something to say: a question mark
stands behind the path if the arguments left over say at least one pair, and only then, and the URL
does not end with it. -/
structure MarksQuery (e : Expansion) (url : String) : Prop where
  marked_iff : (∃ query, url = e.path ++ "?" ++ query) ↔
    ∃ pair pairs, Spelled e.unused.entries (pair :: pairs)
  filled : ∀ query, url = e.path ++ "?" ++ query → query ≠ ""

theorem encode_eq_empty_iff {pairs : List (String × String)} :
    Form.encode pairs = "" ↔ pairs = [] := by
  cases pairs with
  | nil => exact iff_of_true rfl rfl
  | cons pair more =>
    have filled : ∀ piece ∈ (pair :: more).map Form.encodePair, piece ≠ [] := by
      intro piece mem
      obtain ⟨written, -, rfl⟩ := List.mem_map.mp mem
      exact Form.encodePair_ne_nil written
    have text := @joinPieces_ne_nil ['&'] _ (by simp) filled
    rw [Form.encode_eq, String.ofList_eq_empty_iff]
    exact iff_of_false text (by simp)

/-- Only empty lists say nothing. -/
theorem pairs_eq_nil_iff {args : Args} :
    args.pairs = [] ↔ ∀ arg ∈ args.entries, arg.2 = .list [] := by
  have one (key : String) (value : ArgValue) : value.pairs key = [] ↔ value = .list [] := by
    cases value with
    | single text => simp [ArgValue.pairs]
    | list texts => simp [ArgValue.pairs]
  simp only [Args.pairs, List.flatMap_eq_nil_iff, one]

theorem exists_spelled_cons_iff {args : Args} :
    (∃ pair pairs, Spelled args.entries (pair :: pairs)) ↔ args.pairs ≠ [] := by
  simp only [spelled_iff, List.ne_nil_iff_exists_cons, eq_comm]

theorem ne_append_mark (path query : String) : path ≠ path ++ "?" ++ query := by
  intro same
  have length := congrArg String.length same
  simp only [String.length_append] at length
  have mark : "?".length = 1 := rfl
  omega

/-- A question mark stands behind the path if any arguments are left over, also if they say nothing
at all. So it is out of place just if there are such arguments and all of them are empty lists: then
it ends the URL. -/
theorem marksQuery_iff {t : Template} {args : Args} {e : Expansion}
    (expanded : t.expand args = .ok e) :
    ∃ url, t.expandWithQuery args = .ok url ∧
      (e.unused.entries = [] ∧ url = e.path ∨
        e.unused.entries ≠ [] ∧ ∃ query, url = e.path ++ "?" ++ query ∧
          (query = "" ↔ ∀ arg ∈ e.unused.entries, arg.2 = .list [])) ∧
      (MarksQuery e url ↔
        e.unused.entries = [] ∨ ∃ arg ∈ e.unused.entries, arg.2 ≠ .list []) := by
  have spelledUrl : t.expandWithQuery args = .ok e.url := by
    rw [expandWithQuery, expanded]
    rfl
  refine ⟨e.url, spelledUrl, ?_⟩
  by_cases allUsed : e.unused.entries = []
  · have same : e.url = e.path := by
      rw [Expansion.url, query?_eq_none_iff.mpr allUsed]
    refine ⟨.inl ⟨allUsed, same⟩, ⟨fun _ => .inl allUsed, fun _ => ⟨?_, ?_⟩⟩⟩
    · rw [same, exists_spelled_cons_iff, Args.pairs, allUsed]
      simpa using ne_append_mark e.path
    · intro query marked
      exact absurd (same ▸ marked) (ne_append_mark e.path query)
  · have marked : e.url = e.path ++ "?" ++ Form.encode e.unused.pairs := by
      simp [Expansion.url, Args.query?, OrderedMap.isEmpty, allUsed]
    have ends : Form.encode e.unused.pairs = "" ↔ ∀ arg ∈ e.unused.entries, arg.2 = .list [] :=
      encode_eq_empty_iff.trans pairs_eq_nil_iff
    refine ⟨.inr ⟨allUsed, _, marked, ends⟩, ?_⟩
    constructor
    · intro good
      right
      have said : e.unused.pairs ≠ [] :=
        exists_spelled_cons_iff.mp (good.marked_iff.mp ⟨_, marked⟩)
      simpa [pairs_eq_nil_iff] using said
    · rintro (empty | ⟨arg, mem, filled⟩)
      · exact absurd empty allUsed
      · have said : e.unused.pairs ≠ [] :=
          fun nothing => filled (pairs_eq_nil_iff.mp nothing arg mem)
        refine ⟨⟨fun _ => exists_spelled_cons_iff.mpr said, fun _ => ⟨_, marked⟩⟩, ?_⟩
        rintro query other rfl
        rw [marked] at other
        have blank : Form.encode e.unused.pairs = "" := by simpa using other
        exact said (encode_eq_empty_iff.mp blank)

/-- An empty list next to a text that is not used. -/
theorem marksQuery_iff_sorted :
    let t : Template := ⟨"/tags/:id", [.literal "/tags/", .capture "id" none], ["id"]⟩
    let args : Args := ⟨[("tags", .list []), ("id", .single "7"), ("sort", .single "")]⟩
    let e : Expansion := ⟨"/tags/7", ⟨[("tags", .list []), ("sort", .single "")]⟩⟩
    compile "/tags/:id" [] = .ok t ∧ t.expand args = .ok e ∧
      t.expandWithQuery args = .ok "/tags/7?sort=" ∧ MarksQuery e "/tags/7?sort=" := by
  intro t args e
  have compiled : compile "/tags/:id" [] = .ok t := rfl
  have expanded : t.expand args = .ok e := rfl
  have written : t.expandWithQuery args = .ok "/tags/7?sort=" := rfl
  obtain ⟨url, written', -, marks⟩ := marksQuery_iff expanded
  obtain rfl := Except.ok.inj (written.symm.trans written')
  refine ⟨compiled, expanded, written, marks.mpr (.inr ⟨("sort", .single ""), ?_, ?_⟩)⟩
  · simp [e]
  · simp

/-- One empty list, which says nothing, puts a question mark at the end of a URL. -/
theorem empty_list_marks_query :
    let t : Template := ⟨"/search", [.literal "/search"], []⟩
    let args : Args := ⟨[("tags", .list [])]⟩
    compile "/search" [] = .ok t ∧ t.expand args = .ok ⟨"/search", args⟩ ∧
      t.expandWithQuery args = .ok "/search?" ∧ ¬MarksQuery ⟨"/search", args⟩ "/search?" := by
  intro t args
  have compiled : compile "/search" [] = .ok t := rfl
  have expanded : t.expand args = .ok ⟨"/search", args⟩ := rfl
  have written : t.expandWithQuery args = .ok "/search?" := rfl
  exact ⟨compiled, expanded, written, fun marks => marks.filled "" rfl rfl⟩

end PathRouting.Template

/-!
Cutting a text at a separator character and putting the pieces together again.

Main statements: `joinPieces_pieces` (joining the pieces gives the text back) and
`pieces_joinPieces` (cutting gives the pieces back, where there is at least one and none holds the
separator).
-/

namespace PathRouting.Text

/-- The pieces between the separators, empty ones included: one more than there are separators. -/
def pieces (sep : Char) : List Char → List (List Char)
  | [] => [[]]
  | c :: rest =>
    if c = sep then [] :: pieces sep rest
    else
      match pieces sep rest with
      | [] => [[c]]
      | piece :: more => (c :: piece) :: more

/-- The pieces with the separator between each two neighbours. -/
def joinPieces (sep : List Char) : List (List Char) → List Char
  | [] => []
  | [piece] => piece
  | piece :: more => piece ++ sep ++ joinPieces sep more

/-- What follows the given beginning, if the text has it. -/
def dropLeading? : List Char → List Char → Option (List Char)
  | [], cs => some cs
  | _ :: _, [] => none
  | d :: ds, c :: cs => if d = c then dropLeading? ds cs else none

/-- What precedes the given end, if the text has it. -/
def dropTrailing? (ending cs : List Char) : Option (List Char) :=
  (dropLeading? ending.reverse cs.reverse).map List.reverse

/-! ### Laws -/

theorem map_eq_self {α : Type} {f : α → α} {xs : List α} (fixed : ∀ x ∈ xs, f x = x) :
    xs.map f = xs :=
  (List.map_congr_left fixed).trans (List.map_id' xs)

theorem pieces_ne_nil (sep : Char) (cs : List Char) : pieces sep cs ≠ [] := by
  cases cs with
  | nil => simp [pieces]
  | cons c rest =>
    unfold pieces
    split
    · simp
    · split <;> simp

theorem joinPieces_cons {sep piece : List Char} {more : List (List Char)} (h : more ≠ []) :
    joinPieces sep (piece :: more) = piece ++ sep ++ joinPieces sep more := by
  cases more with
  | nil => exact absurd rfl h
  | cons next rest => rfl

theorem joinPieces_pieces (sep : Char) (cs : List Char) :
    joinPieces [sep] (pieces sep cs) = cs := by
  induction cs with
  | nil => rfl
  | cons c rest ih =>
    unfold pieces
    split
    · next h => rw [joinPieces_cons (pieces_ne_nil sep rest), ih]; simp [h]
    · split
      · next h => exact absurd h (pieces_ne_nil sep rest)
      · next piece more h =>
        rw [h] at ih
        rw [← ih]
        cases more <;> simp [joinPieces]

theorem pieces_of_notMem {sep : Char} {cs : List Char} (h : sep ∉ cs) : pieces sep cs = [cs] := by
  induction cs with
  | nil => rfl
  | cons c rest ih =>
    simp only [List.mem_cons, not_or] at h
    simp [pieces, Ne.symm h.1, ih h.2]

theorem pieces_append_cons {sep : Char} {cs : List Char} (h : sep ∉ cs) (rest : List Char) :
    pieces sep (cs ++ sep :: rest) = cs :: pieces sep rest := by
  induction cs with
  | nil => simp [pieces]
  | cons c tail ih =>
    simp only [List.mem_cons, not_or] at h
    simp [pieces, Ne.symm h.1, ih h.2]

/-- The pieces on both sides of a separator, wherever it stands. -/
theorem pieces_append (sep : Char) (cs rest : List Char) :
    pieces sep (cs ++ sep :: rest) = pieces sep cs ++ pieces sep rest := by
  induction cs with
  | nil => simp [pieces]
  | cons c tail ih =>
    by_cases same : c = sep
    · simp [pieces, same, ih]
    · obtain ⟨piece, more, eq⟩ := List.exists_cons_of_ne_nil (pieces_ne_nil sep tail)
      simp [pieces, same, ih, eq]

theorem joinPieces_append {sep : List Char} {ps qs : List (List Char)} (left : ps ≠ [])
    (right : qs ≠ []) :
    joinPieces sep (ps ++ qs) = joinPieces sep ps ++ sep ++ joinPieces sep qs := by
  induction ps with
  | nil => exact absurd rfl left
  | cons p more ih =>
    by_cases last : more = []
    · subst last
      exact joinPieces_cons right
    · rw [List.cons_append, joinPieces_cons (by simp [last]), ih last, joinPieces_cons last]
      simp

theorem pieces_joinPieces {sep : Char} {ps : List (List Char)} (nonempty : ps ≠ [])
    (free : ∀ p ∈ ps, sep ∉ p) : pieces sep (joinPieces [sep] ps) = ps := by
  induction ps with
  | nil => exact absurd rfl nonempty
  | cons p more ih =>
    cases more with
    | nil => simpa [joinPieces] using pieces_of_notMem (free p (by simp))
    | cons q rest =>
      rw [joinPieces_cons (by simp), List.append_assoc, List.singleton_append,
        pieces_append_cons (free p (by simp)), ih (by simp) fun r hr => free r (by simp [hr])]

theorem notMem_of_mem_pieces {sep : Char} {cs p : List Char} (h : p ∈ pieces sep cs) : sep ∉ p := by
  induction cs generalizing p with
  | nil => simp_all [pieces]
  | cons c rest ih =>
    unfold pieces at h
    split at h
    · rcases List.mem_cons.mp h with rfl | h
      · simp
      · exact ih h
    · next hc =>
      split at h
      · next he => exact absurd he (pieces_ne_nil sep rest)
      · next piece more he =>
        rcases List.mem_cons.mp h with rfl | h
        · have := ih (p := piece) (by simp [he])
          simp [Ne.symm hc, this]
        · exact ih (by simp [he, h])

theorem mem_joinPieces {sep : List Char} {ps : List (List Char)} {c : Char}
    (h : c ∈ joinPieces sep ps) : c ∈ sep ∨ ∃ p ∈ ps, c ∈ p := by
  fun_induction joinPieces sep ps with
  | case1 => cases h
  | case2 p => exact Or.inr ⟨p, by simp, h⟩
  | case3 p more _ ih =>
    simp only [List.mem_append] at h
    rcases h with (first | between) | later
    · exact Or.inr ⟨p, by simp, first⟩
    · exact Or.inl between
    · rcases ih later with between | ⟨q, member, inside⟩
      · exact Or.inl between
      · exact Or.inr ⟨q, List.mem_cons_of_mem p member, inside⟩

theorem joinPieces_eq_intercalate (sep : List Char) (ps : List (List Char)) :
    joinPieces sep ps = sep.intercalate ps := by
  fun_induction joinPieces sep ps with
  | case1 => rfl
  | case2 p => simp
  | case3 p more many ih => rw [ih, List.intercalate_cons_of_ne_nil many]

theorem flatMap_joinPieces (f : Char → List Char) (sep : List Char) (ps : List (List Char)) :
    (joinPieces sep ps).flatMap f = joinPieces (sep.flatMap f) (ps.map fun p => p.flatMap f) := by
  fun_induction joinPieces sep ps with
  | case1 => rfl
  | case2 p => rfl
  | case3 p more many ih =>
    rw [List.map_cons, joinPieces_cons (by simpa using many), List.flatMap_append,
      List.flatMap_append, ih]

theorem mem_intercalate {sep : String} {parts : List String} {c : Char}
    (h : c ∈ (sep.intercalate parts).toList) :
    c ∈ sep.toList ∨ ∃ part ∈ parts, c ∈ part.toList := by
  rw [String.toList_intercalate, ← joinPieces_eq_intercalate] at h
  rcases mem_joinPieces h with between | ⟨p, member, inside⟩
  · exact .inl between
  · obtain ⟨part, given, rfl⟩ := List.mem_map.mp member
    exact .inr ⟨part, given, inside⟩

theorem infix_joinPieces {sep p : List Char} {ps : List (List Char)} (h : p ∈ ps) :
    p <:+: joinPieces sep ps := by
  fun_induction joinPieces sep ps with
  | case1 => cases h
  | case2 q =>
    cases List.mem_singleton.mp h
    exact List.infix_rfl
  | case3 q more _ ih =>
    rcases List.mem_cons.mp h with rfl | later
    · rw [List.append_assoc]
      exact (List.prefix_append p _).isInfix
    · exact (ih later).trans (List.suffix_append _ _).isInfix

theorem joinPieces_ne_nil {sep : List Char} {ps : List (List Char)} (nonempty : ps ≠ [])
    (filled : ∀ p ∈ ps, p ≠ []) : joinPieces sep ps ≠ [] := by
  cases ps with
  | nil => exact absurd rfl nonempty
  | cons p more =>
    intro empty
    have part : p <:+: joinPieces sep (p :: more) := infix_joinPieces List.mem_cons_self
    rw [empty] at part
    exact filled p List.mem_cons_self (List.eq_nil_of_infix_nil part)

/-- Every piece of a text is a part of it. -/
theorem infix_of_mem_pieces {sep : Char} {p cs : List Char} (h : p ∈ pieces sep cs) :
    p <:+: cs := by
  have part : p <:+: joinPieces [sep] (pieces sep cs) := infix_joinPieces h
  rwa [joinPieces_pieces] at part

theorem dropLeading?_eq_some_iff {lead cs rest : List Char} :
    dropLeading? lead cs = some rest ↔ cs = lead ++ rest := by
  fun_induction dropLeading? lead cs with
  | case1 cs => simp [eq_comm]
  | case2 => simp
  | case3 ds c cs ih => simp [ih]
  | case4 d ds c cs h => simp [Ne.symm h]

end PathRouting.Text

import PathRouting.Proofs.Template.Ways

/-!
The walk over a path finds the first way that its segments and its chain can take, and cuts the path
between characters only.

A walk that fails leaves the stack of captures as it was, so what each attempt comes to can be said
without the stack: `outcomeOf` puts the two together. `firstArrival?` is what the walk looks for:
where the first way ends that may end there, and the captures on it.

Main statements: `tryEnds_eq` (counting down bytes visits the runs, longest first) and `arrives`
(the walk is a search through the ways), which has one lemma for each kind of segment.
-/

namespace PathRouting.Template

open Text (dropLeading? dropLeading?_eq_some_iff)

/-! ### Outcomes -/

/-- What comes of a stack of captures when a search finds where to end and what to put on the stack,
or when it fails. -/
def outcomeOf (captures : List Capture) : Option (Nat × List Capture) → Outcome
  | some (stop, added) => .ok (some stop, captures ++ added)
  | none => .ok (none, captures)

/-- What a search has found behind a capture, with this capture. -/
def withCapture (c : Capture) (found : Option (Nat × List Capture)) : Option (Nat × List Capture) :=
  found.map fun (stop, added) => (stop, c :: added)

/-- What an attempt comes to that captures a text behind the front, if this is found behind the
text. -/
def capturing (name : String) (constraint : Option Constraint) (front text : List Char)
    (found : Option (Nat × List Capture)) : Option (Nat × List Capture) :=
  if accepts constraint text = true then
    withCapture ⟨name, byteSize front, byteSize (front ++ text)⟩ found
  else none

/-! ### One end -/

section Attempts

variable {path : List Char} {name : String} {constraint : Option Constraint}
  {next : Nat → List Capture → Outcome}

theorem tryEnd_of_not_boundary {start stop : Nat} {captures : List Capture}
    (inside : isBoundary path stop = false) :
    tryEnd path name constraint next start stop captures = outcomeOf captures none := by
  rw [tryEnd, inside]
  rfl

/-- An attempt to end between two characters puts its capture in front of what is found behind. -/
theorem tryEnd_eq {front text back : List Char} (eq : path = front ++ (text ++ back))
    {found : Option (Nat × List Capture)}
    (next_eq : ∀ captures, next (byteSize (front ++ text)) captures = outcomeOf captures found)
    (captures : List Capture) :
    tryEnd path name constraint next (byteSize front) (byteSize (front ++ text)) captures =
      outcomeOf captures (capturing name constraint front text found) := by
  have boundary : isBoundary path (byteSize (front ++ text)) = true :=
    isBoundary_iff.mpr ⟨front ++ text, back, by rw [eq, List.append_assoc], rfl⟩
  have cut : textBetween path (byteSize front) (byteSize (front ++ text)) = .ok text := by
    rw [eq, byteSize_append]
    exact textBetween_append front text back
  rw [tryEnd, if_pos boundary, cut, capturing]
  by_cases ok : accepts constraint text = true
  · simp only [bind, Except.bind, ok, if_true, next_eq]
    cases found with
    | none => simp [outcomeOf, withCapture, pure, Except.pure]
    | some arrival => simp [outcomeOf, withCapture, pure, Except.pure]
  · simp only [bind, Except.bind, ok]
    rfl

/-! ### All ends -/

variable {attempt : Nat → List Capture → Outcome} {shortest : Nat}

theorem tryEnds_of_lt {stop : Nat} (short : stop < shortest) (captures : List Capture) :
    tryEnds attempt shortest stop captures = outcomeOf captures none := by
  rw [tryEnds, if_neg (Nat.not_le.mpr short)]
  rfl

theorem tryEnds_succ {n : Nat} (long : shortest ≤ n + 1) {found : Option (Nat × List Capture)}
    {captures : List Capture} (result : attempt (n + 1) captures = outcomeOf captures found) :
    tryEnds attempt shortest (n + 1) captures =
      if found.isSome then outcomeOf captures found
      else tryEnds attempt shortest n captures := by
  rw [tryEnds, if_pos long, result]
  cases found <;> rfl

theorem tryEnds_self {stop : Nat} {found : Option (Nat × List Capture)} {captures : List Capture}
    (result : attempt stop captures = outcomeOf captures found) :
    tryEnds attempt stop stop captures = outcomeOf captures found := by
  cases stop with
  | zero =>
    rw [tryEnds, if_pos (Nat.le_refl 0), result]
    cases found <;> rfl
  | succ n =>
    rw [tryEnds_succ (Nat.le_refl _) result, tryEnds_of_lt (Nat.lt_succ_self n)]
    cases found <;> rfl

/-- Positions at which every attempt fails are passed over. -/
theorem tryEnds_skip {start n : Nat} {captures : List Capture} (low : shortest ≤ start + 1)
    (fails : ∀ k, 0 < k → k ≤ n → attempt (start + k) captures = outcomeOf captures none) :
    tryEnds attempt shortest (start + n) captures = tryEnds attempt shortest start captures := by
  induction n with
  | zero => rfl
  | succ n ih =>
    have long : shortest ≤ start + n + 1 := by omega
    have here : attempt (start + n + 1) captures = outcomeOf captures none :=
      fails (n + 1) (Nat.succ_pos n) (Nat.le_refl _)
    rw [← Nat.add_assoc, tryEnds_succ long here]
    exact ih fun k pos le => fails k pos (Nat.le_succ_of_le le)

/-- Behind a character all of its bytes are passed over if the attempt fails there. -/
theorem tryEnds_char {start : Nat} {c : Char} {captures : List Capture}
    (low : shortest ≤ start + 1)
    (fails : ∀ k, 0 < k → k < c.utf8Size → attempt (start + k) captures = outcomeOf captures none)
    {found : Option (Nat × List Capture)}
    (result : attempt (start + c.utf8Size) captures = outcomeOf captures found) :
    tryEnds attempt shortest (start + c.utf8Size) captures =
      if found.isSome then outcomeOf captures found
      else tryEnds attempt shortest start captures := by
  obtain ⟨n, size⟩ : ∃ n, c.utf8Size = n + 1 := Nat.exists_eq_add_one.mpr c.utf8Size_pos
  rw [size] at result fails ⊢
  have here : attempt (start + n + 1) captures = outcomeOf captures found := result
  have long : shortest ≤ start + n + 1 := by omega
  rw [← Nat.add_assoc, tryEnds_succ long here,
    tryEnds_skip low fun k pos le => fails k pos (Nat.lt_succ_of_le le)]

theorem byteSize_take_succ (front : List Char) {rest back : List Char} {c : Char} {n : Nat}
    (split : rest.drop n = c :: back) :
    byteSize (front ++ rest.take (n + 1)) = byteSize (front ++ rest.take n) + c.utf8Size := by
  have longer : rest.take (n + 1) = rest.take n ++ [c] := by
    rw [List.take_add_one, ← List.head?_drop, split]
    rfl
  rw [longer, ← List.append_assoc, byteSize_append, byteSize_cons, byteSize_nil, Nat.add_zero]

/-- Counting down from the end of `n` characters visits the runs of at most `n` characters, longest
first. -/
theorem tryEnds_eq {front rest : List Char} (eq : path = front ++ rest)
    (low : byteSize front ≤ shortest) (high : shortest ≤ byteSize front + 1)
    {answer : List Char → Option (Nat × List Capture)}
    (next_eq : ∀ text back, rest = text ++ back → ∀ captures,
      next (byteSize (front ++ text)) captures = outcomeOf captures (answer text))
    {n : Nat} (le : n ≤ rest.length) (captures : List Capture) :
    tryEnds (tryEnd path name constraint next (byteSize front)) shortest
        (byteSize (front ++ rest.take n)) captures =
      outcomeOf captures ((List.range (n + 1)).reverse.findSome? fun k =>
        if shortest ≤ byteSize (front ++ rest.take k) then
          capturing name constraint front (rest.take k) (answer (rest.take k))
        else none) := by
  have attempt_eq (k : Nat) : tryEnd path name constraint next (byteSize front)
      (byteSize (front ++ rest.take k)) captures =
        outcomeOf captures (capturing name constraint front (rest.take k) (answer (rest.take k))) :=
    tryEnd_eq (eq.trans (by rw [List.take_append_drop k rest]))
      (next_eq (rest.take k) (rest.drop k) (List.take_append_drop k rest).symm) captures
  induction n with
  | zero =>
    have result := attempt_eq 0
    rw [List.take_zero, List.append_nil] at result ⊢
    by_cases same : shortest = byteSize front
    · subst same
      rw [tryEnds_self result]
      simp
    · have short : byteSize front < shortest := by omega
      rw [tryEnds_of_lt short]
      simp [Nat.not_le.mpr short]
  | succ n ih =>
    obtain ⟨c, back, split⟩ : ∃ c back, rest.drop n = c :: back :=
      List.exists_cons_of_ne_nil (by simpa using Nat.lt_of_succ_le le)
    have size := byteSize_take_succ front split
    have whole : path = (front ++ rest.take n) ++ c :: back := by
      rw [eq, List.append_assoc, ← split, List.take_append_drop]
    have below := le_byteSize_append front (rest.take n)
    have long : shortest ≤ byteSize (front ++ rest.take (n + 1)) := by
      have := c.utf8Size_pos
      omega
    have result := attempt_eq (n + 1)
    rw [size] at result
    have near : shortest ≤ byteSize (front ++ rest.take n) + 1 := by omega
    have down := tryEnds_char near
      (fun k pos lt => tryEnd_of_not_boundary (by rw [whole]; exact isBoundary_inside pos lt))
      result
    rw [← size] at down
    have longest : (List.range (n + 1 + 1)).reverse = (n + 1) :: (List.range (n + 1)).reverse := by
      rw [List.range_succ, List.reverse_append]
      rfl
    rw [down, ih (Nat.le_of_succ_le le), longest, List.findSome?_cons, if_pos long]
    cases capturing name constraint front (rest.take (n + 1)) (answer (rest.take (n + 1))) <;> rfl

end Attempts

/-! ### Ways by positions -/

/-- The captures that pieces make from a position on, in order. -/
def capturesFrom (pos : Nat) : List Piece → List Capture
  | [] => []
  | .text taken :: more => capturesFrom (pos + byteSize taken) more
  | .run name taken :: more =>
    ⟨name, pos, pos + byteSize taken⟩ :: capturesFrom (pos + byteSize taken) more
  | .skipped _ :: more => capturesFrom pos more

theorem capturesFrom_text (front taken : List Char) (more : List Piece) :
    capturesFrom (byteSize front) (.text taken :: more) =
      capturesFrom (byteSize (front ++ taken)) more := by
  rw [capturesFrom, byteSize_append]

theorem capturesFrom_run (front : List Char) (name : String) (taken : List Char)
    (more : List Piece) :
    capturesFrom (byteSize front) (.run name taken :: more) =
      ⟨name, byteSize front, byteSize (front ++ taken)⟩ ::
        capturesFrom (byteSize (front ++ taken)) more := by
  rw [capturesFrom, byteSize_append]

/-- Whether the anchor allows an end in front of what is left of a path. -/
def Anchor.admits : Anchor → List Char → Bool
  | .wholePath, left => left.isEmpty
  | .beginning, _ => true

/-- Where a way that starts at a position ends, and the captures on it, if it may end there. -/
def Way.arrive? (anchor : Anchor) (pos : Nat) (w : Way) : Option (Nat × List Capture) :=
  if anchor.admits w.rest then
    some (pos + byteSize (w.pieces.flatMap Piece.taken), capturesFrom pos w.pieces)
  else none

/-- Where the first way of the segments ends that may end there, and the captures on it. -/
def firstArrival? (anchor : Anchor) (segments : List Segment) (pos : Nat) (path : List Char) :
    Option (Nat × List Capture) :=
  (ways segments path).findSome? (Way.arrive? anchor pos)

theorem finish?_append (anchor : Anchor) (front rest : List Char) :
    anchor.finish? (front ++ rest) (byteSize front) =
      if anchor.admits rest then some (byteSize front) else none := by
  cases anchor with
  | beginning => rfl
  | wholePath =>
    cases rest with
    | nil => simp [Anchor.finish?, Anchor.admits]
    | cons c rest =>
      have := c.utf8Size_pos
      have other : byteSize front ≠ byteSize (front ++ c :: rest) := by
        rw [byteSize_append, byteSize_cons]
        omega
      simp [Anchor.finish?, Anchor.admits, other]

namespace Way

variable (anchor : Anchor) (pos : Nat) (w : Way)

theorem arrive?_after_text (taken : List Char) :
    (w.after (.text taken)).arrive? anchor pos = w.arrive? anchor (pos + byteSize taken) := by
  simp [arrive?, capturesFrom, Piece.taken, byteSize_append, Nat.add_assoc]

theorem arrive?_after_run (name : String) (taken : List Char) :
    (w.after (.run name taken)).arrive? anchor pos =
      withCapture ⟨name, pos, pos + byteSize taken⟩ (w.arrive? anchor (pos + byteSize taken)) := by
  unfold arrive? withCapture
  by_cases ends : anchor.admits w.rest = true
  · simp [ends, capturesFrom, Piece.taken, byteSize_append, Nat.add_assoc]
  · simp [ends]

theorem arrive?_after_skipped (names : List String) :
    (w.after (.skipped names)).arrive? anchor pos = w.arrive? anchor pos := by
  simp [arrive?, capturesFrom, Piece.taken]

end Way

/-- The first way that may end where it does is searched for, and then told by positions. -/
theorem firstArrival?_eq_map_find? (anchor : Anchor) (segments : List Segment) (pos : Nat)
    (path : List Char) :
    firstArrival? anchor segments pos path =
      ((ways segments path).find? fun w => anchor.admits w.rest).map fun w =>
        (pos + byteSize (w.pieces.flatMap Piece.taken), capturesFrom pos w.pieces) := by
  rw [firstArrival?]
  induction ways segments path with
  | nil => rfl
  | cons w others ih =>
    rw [List.findSome?_cons, List.find?_cons, Way.arrive?]
    by_cases ends : anchor.admits w.rest = true
    · simp [ends]
    · simp [ends, ih]

section Arrivals

variable {anchor : Anchor} {pos : Nat} {path : List Char} {rest : List Segment}

theorem firstArrival?_nil (front : List Char) :
    firstArrival? anchor [] (byteSize front) path =
      (anchor.finish? (front ++ path) (byteSize front)).map fun stop => (stop, []) := by
  rw [firstArrival?, ways, finish?_append]
  by_cases ends : anchor.admits path = true
  · simp [Way.arrive?, ends, capturesFrom, byteSize_nil]
  · simp [Way.arrive?, ends]

theorem firstArrival?_literal (text : String) :
    firstArrival? anchor (.literal text :: rest) pos path =
      (dropLeading? text.toList path).bind fun left =>
        firstArrival? anchor rest (pos + byteSize text.toList) left := by
  rw [firstArrival?, ways]
  cases dropLeading? text.toList path with
  | none => rfl
  | some left =>
    dsimp only [Option.bind_some]
    rw [List.findSome?_map]
    exact findSome?_congr fun w _ => w.arrive?_after_text anchor pos text.toList

/-- Behind each run of a list, the rest is searched. -/
theorem findSome?_flatMap_run (front : List Char) (name : String)
    (found : List (List Char × List Char)) :
    (found.flatMap fun r => (ways rest r.2).map (Way.after (.run name r.1))).findSome?
        (Way.arrive? anchor (byteSize front)) =
      found.findSome? fun r => withCapture ⟨name, byteSize front, byteSize (front ++ r.1)⟩
        (firstArrival? anchor rest (byteSize (front ++ r.1)) r.2) := by
  rw [findSome?_flatMap]
  refine findSome?_congr fun r _ => ?_
  rw [List.findSome?_map, firstArrival?, withCapture, List.map_findSome?, byteSize_append]
  exact findSome?_congr fun w _ => w.arrive?_after_run anchor (byteSize front) name r.1

/-- To take at least one byte is to take a character. -/
theorem succ_le_byteSize_iff (front run : List Char) :
    byteSize front + 1 ≤ byteSize (front ++ run) ↔ (!run.isEmpty) = true := by
  rw [byteSize_append]
  cases run with
  | nil => simp [byteSize_nil]
  | cons c run =>
    have := byteSize_pos (List.cons_ne_nil c run)
    simp only [List.isEmpty_cons, Bool.not_false, iff_true]
    omega

theorem firstArrival?_capture (front : List Char) (name : String) (constraint : Option Constraint) :
    firstArrival? anchor (.capture name constraint :: rest) (byteSize front) path =
      (runs (· ≠ '/') path).findSome? fun r =>
        if byteSize front + 1 ≤ byteSize (front ++ r.1) then
          capturing name constraint front r.1
            (firstArrival? anchor rest (byteSize (front ++ r.1)) r.2)
        else none := by
  rw [firstArrival?, ways, findSome?_flatMap_run, captureRuns, findSome?_filter]
  refine findSome?_congr fun r _ => ?_
  simp only [succ_le_byteSize_iff, Bool.and_eq_true, ite_and, capturing]

theorem firstArrival?_splat (front : List Char) (name : String) (constraint : Option Constraint) :
    firstArrival? anchor (.splat name constraint :: rest) (byteSize front) path =
      (runs (fun _ => true) path).findSome? fun r =>
        if byteSize front ≤ byteSize (front ++ r.1) then
          capturing name constraint front r.1
            (firstArrival? anchor rest (byteSize (front ++ r.1)) r.2)
        else none := by
  rw [firstArrival?, ways, findSome?_flatMap_run, splatRuns, findSome?_filter]
  refine findSome?_congr fun r _ => ?_
  rw [if_pos (le_byteSize_append front r.1), capturing]

theorem firstArrival?_optional (inner : List Segment) :
    firstArrival? anchor (.optional inner :: rest) pos path =
      (firstArrival? anchor (inner ++ rest) pos path).or (firstArrival? anchor rest pos path) := by
  rw [firstArrival?, ways, List.findSome?_append, List.findSome?_map]
  exact congrArg _ (findSome?_congr fun w _ => w.arrive?_after_skipped anchor pos _)

end Arrivals

/-! ### The walk -/

section Runs

variable {path front rest : List Char} {shortest : Nat} {name : String}
  {constraint : Option Constraint} {next : Nat → List Capture → Outcome}
  {answer : List Char → List Char → Option (Nat × List Capture)}

/-- Counting down from the end of the longest run of allowed characters visits all their runs. -/
theorem tryEnds_takeWhile (eq : path = front ++ rest) (low : byteSize front ≤ shortest)
    (high : shortest ≤ byteSize front + 1) (allowed : Char → Bool)
    (next_eq : ∀ text back, rest = text ++ back → ∀ captures,
      next (byteSize (front ++ text)) captures = outcomeOf captures (answer text back))
    (captures : List Capture) :
    tryEnds (tryEnd path name constraint next (byteSize front)) shortest
        (byteSize (front ++ rest.takeWhile allowed)) captures =
      outcomeOf captures ((runs allowed rest).findSome? fun r =>
        if shortest ≤ byteSize (front ++ r.1) then
          capturing name constraint front r.1 (answer r.1 r.2)
        else none) := by
  have longest := List.prefix_iff_eq_take.mp (List.takeWhile_prefix (p := allowed) (l := rest))
  have inPath := (List.takeWhile_prefix (p := allowed) (l := rest)).length_le
  have byLength : ∀ text back, rest = text ++ back → ∀ captures,
      next (byteSize (front ++ text)) captures =
        outcomeOf captures (answer text (rest.drop text.length)) := by
    intro text back split captures
    rw [next_eq text back split, split, List.drop_left]
  rw [longest, tryEnds_eq eq low high byLength inPath, runs_eq_map_range, List.findSome?_map]
  congr 1
  refine findSome?_congr fun k hk => ?_
  have inRun : k < (rest.takeWhile allowed).length + 1 :=
    List.mem_range.mp (List.mem_reverse.mp hk)
  have length : (rest.take k).length = k := by
    rw [List.length_take]
    omega
  simp only [Function.comp, length]

end Runs

/-- What it is for a walk to end where the first way of the segments and the chain ends that the
anchor admits, with the captures on this way put on the stack, or to leave the stack as it is if
there is no such way. -/
def Arrives (path : List Char) (anchor : Anchor) (segments : List Segment)
    (chain : List (List Segment)) (pos : Nat) (captures : List Capture) : Prop :=
  ∀ front rest, path = front ++ rest → byteSize front = pos →
    walk path anchor segments chain pos captures =
      outcomeOf captures (firstArrival? anchor (segments ++ chain.flatten) pos rest)

section Steps

variable {path : List Char} {anchor : Anchor} {segments : List Segment}
  {chain : List (List Segment)} {pos : Nat} {captures : List Capture}

theorem arrives_nil : Arrives path anchor [] [] pos captures := by
  rintro front rest rfl rfl
  rw [walk, List.nil_append, List.flatten_nil, firstArrival?_nil front]
  cases anchor.finish? (front ++ rest) (byteSize front) with
  | none => rfl
  | some stop => simp [outcomeOf, pure, Except.pure]

theorem arrives_chain (behind : Arrives path anchor segments chain pos captures) :
    Arrives path anchor [] (segments :: chain) pos captures := by
  intro front rest eq start
  rw [walk, behind front rest eq start, List.nil_append, List.flatten_cons]

theorem isPrefixOf_eq_false {text rest : List Char} (other : dropLeading? text rest = none) :
    text.isPrefixOf rest = false := by
  rw [Bool.eq_false_iff]
  intro leads
  obtain ⟨left, split⟩ := List.isPrefixOf_iff_prefix.mp leads
  rw [dropLeading?_eq_some_iff.mpr split.symm] at other
  cases other

theorem arrives_literal {text : String}
    (behind : Arrives path anchor segments chain (pos + byteSize text.toList) captures) :
    Arrives path anchor (.literal text :: segments) chain pos captures := by
  rintro front rest rfl rfl
  rw [walk, textFrom_append, List.cons_append, firstArrival?_literal]
  cases found : dropLeading? text.toList rest with
  | none =>
    simp only [bind, Except.bind, isPrefixOf_eq_false found]
    rfl
  | some left =>
    obtain rfl := dropLeading?_eq_some_iff.mp found
    have leads : text.toList.isPrefixOf (text.toList ++ left) = true :=
      List.isPrefixOf_iff_prefix.mpr (List.prefix_append _ _)
    simp only [bind, Except.bind, leads, if_true, Option.bind_some]
    exact behind (front ++ text.toList) left (List.append_assoc _ _ _).symm (byteSize_append _ _)

/-- Behind a text that is taken, the walk goes on with what is left. -/
theorem walk_behind {front rest : List Char} (eq : path = front ++ rest)
    (behind : ∀ stop captures, Arrives path anchor segments chain stop captures)
    (text back : List Char) (split : rest = text ++ back) (captures : List Capture) :
    walk path anchor segments chain (byteSize (front ++ text)) captures =
      outcomeOf captures
        (firstArrival? anchor (segments ++ chain.flatten) (byteSize (front ++ text)) back) :=
  behind _ captures (front ++ text) back (by rw [eq, split, List.append_assoc]) rfl

/-- A capture may end in front of the next slash, or where the path ends. -/
theorem limit_eq (front rest : List Char) :
    ((findChar? '/' rest).map (byteSize front + ·)).getD (byteSize (front ++ rest)) =
      byteSize (front ++ rest.takeWhile (· ≠ '/')) := by
  rw [byteSize_append, byteSize_append, ← findChar?_getD]
  cases findChar? '/' rest <;> rfl

theorem arrives_capture {name : String} {constraint : Option Constraint}
    (behind : ∀ stop captures, Arrives path anchor segments chain stop captures) :
    Arrives path anchor (.capture name constraint :: segments) chain pos captures := by
  rintro front rest rfl rfl
  rw [walk, textFrom_append]
  simp only [bind, Except.bind]
  rw [limit_eq, tryEnds_takeWhile rfl (Nat.le_succ _) (Nat.le_refl _) _ (walk_behind rfl behind),
    List.cons_append, firstArrival?_capture]

theorem arrives_splat {name : String} {constraint : Option Constraint}
    (behind : ∀ stop captures, Arrives path anchor segments chain stop captures) :
    Arrives path anchor (.splat name constraint :: segments) chain pos captures := by
  rintro front rest rfl rfl
  have whole : byteSize (front ++ rest) = byteSize (front ++ rest.takeWhile fun _ => true) := by
    rw [List.takeWhile_eq_self_iff.mpr fun _ _ => rfl]
  rw [walk, whole, tryEnds_takeWhile rfl (Nat.le_refl _) (Nat.le_succ _) _ (walk_behind rfl behind),
    List.cons_append, firstArrival?_splat]

theorem arrives_optional {inner : List Segment}
    (present : Arrives path anchor inner (segments :: chain) pos captures)
    (absent : Arrives path anchor segments chain pos captures) :
    Arrives path anchor (.optional inner :: segments) chain pos captures := by
  intro front rest eq start
  rw [walk, present front rest eq start, List.flatten_cons, List.cons_append,
    firstArrival?_optional]
  cases firstArrival? anchor (inner ++ (segments ++ chain.flatten)) pos rest with
  | some arrival => rfl
  | none =>
    simp only [outcomeOf, bind, Except.bind, List.take_length, Option.none_or]
    exact absent front rest eq start

end Steps

/-- Every walk ends where the first way of the segments and the chain ends that the anchor
admits. -/
theorem arrives (path : List Char) (anchor : Anchor) (segments : List Segment)
    (chain : List (List Segment)) (pos : Nat) (captures : List Capture) :
    Arrives path anchor segments chain pos captures := by
  induction segments, chain, pos, captures using walk.induct path anchor with
  | case1 pos captures => exact arrives_nil
  | case2 pos captures next chain ih => exact arrives_chain ih
  | case3 chain pos captures text rest ih => exact arrives_literal ih
  | case4 chain pos captures name constraint rest ih => exact arrives_capture ih
  | case5 chain pos captures name constraint rest ih => exact arrives_splat ih
  | case6 chain pos captures inner rest present absent =>
    have kept := absent captures
    rw [List.take_length] at kept
    exact arrives_optional present kept

end PathRouting.Template

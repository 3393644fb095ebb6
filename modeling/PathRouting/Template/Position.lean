import PathRouting.Template.Token

/-!
Positions in a path, counted in bytes.

A path can only be cut where a character begins or where the path ends, and nothing comes before its
first position. What asks for more is a fault.

Main statements: `splitBytes?_eq_some_iff` (where a text can be cut), `textFrom_append` and
`textBetween_append` (what cuts between characters give).
-/

namespace PathRouting.Template

/-- What can go wrong with positions: a cut that lies outside of the path, that ends before it
begins or that divides a character; or a step back from the first position. -/
inductive PositionFault where
  | cut (start stop : Nat)
  | noneBefore
  deriving DecidableEq, Repr

/-- The first `n` bytes of a text and what follows them, if a character ends there. -/
def splitBytes? : Nat → List Char → Option (List Char × List Char)
  | 0, cs => some ([], cs)
  | _ + 1, [] => none
  | n + 1, c :: cs =>
    if c.utf8Size ≤ n + 1 then
      (splitBytes? (n + 1 - c.utf8Size) cs).map fun split => (c :: split.1, split.2)
    else none

/-- Whether a character of the path begins at the position, or the path ends there. -/
def isBoundary (path : List Char) (pos : Nat) : Bool :=
  (splitBytes? pos path).isSome

/-- The part of a path from a position on. -/
def textFrom (path : List Char) (start : Nat) : Except PositionFault (List Char) :=
  match splitBytes? start path with
  | some (_, text) => .ok text
  | none => .error (.cut start (byteSize path))

/-- The part of a path between two positions. -/
def textBetween (path : List Char) (start stop : Nat) : Except PositionFault (List Char) :=
  match splitBytes? stop path with
  | some (before, _) =>
    match splitBytes? start before with
    | some (_, text) => .ok text
    | none => .error (.cut start stop)
  | none => .error (.cut start stop)

/-- The position before a position. -/
def positionBefore : Nat → Except PositionFault Nat
  | 0 => .error .noneBefore
  | n + 1 => .ok n

/-- The position in a text at which a character is found first. -/
def findChar? (sought : Char) : List Char → Option Nat
  | [] => none
  | c :: cs => if c = sought then some 0 else (findChar? sought cs).map (c.utf8Size + ·)

/-! ### Cuts between characters -/

theorem splitBytes?_append (front back : List Char) :
    splitBytes? (byteSize front) (front ++ back) = some (front, back) := by
  induction front with
  | nil => rw [byteSize_nil, List.nil_append, splitBytes?]
  | cons c rest ih =>
    obtain ⟨n, size⟩ : ∃ n, byteSize (c :: rest) = n + 1 :=
      Nat.exists_eq_add_one.mpr (byteSize_pos (List.cons_ne_nil c rest))
    have parts : n + 1 = c.utf8Size + byteSize rest := by rw [← size, byteSize_cons]
    have fits : c.utf8Size ≤ n + 1 := by omega
    have behind : n + 1 - c.utf8Size = byteSize rest := by omega
    rw [size, List.cons_append, splitBytes?, if_pos fits, behind, ih]
    rfl

theorem eq_of_splitBytes? {n : Nat} {cs front back : List Char}
    (split : splitBytes? n cs = some (front, back)) : cs = front ++ back ∧ byteSize front = n := by
  fun_induction splitBytes? n cs generalizing front with
  | case1 cs =>
    obtain ⟨rfl, rfl⟩ := Prod.mk.inj (Option.some.inj split)
    exact ⟨rfl, rfl⟩
  | case2 n => cases split
  | case3 n c cs fits ih =>
    obtain ⟨⟨front', back'⟩, split', same⟩ := Option.map_eq_some_iff.mp split
    obtain ⟨rfl, rfl⟩ : c :: front' = front ∧ back' = back := Prod.mk.inj same
    obtain ⟨rfl, size⟩ := ih split'
    refine ⟨rfl, ?_⟩
    rw [byteSize_cons]
    omega
  | case4 n c cs large => cases split

/-- A text is cut just where characters take as many bytes. -/
theorem splitBytes?_eq_some_iff {n : Nat} {cs front back : List Char} :
    splitBytes? n cs = some (front, back) ↔ cs = front ++ back ∧ byteSize front = n := by
  refine ⟨eq_of_splitBytes?, ?_⟩
  rintro ⟨rfl, rfl⟩
  exact splitBytes?_append front back

theorem isBoundary_iff {path : List Char} {pos : Nat} :
    isBoundary path pos = true ↔ ∃ front back, path = front ++ back ∧ byteSize front = pos := by
  simp [isBoundary, Option.isSome_iff_exists, splitBytes?_eq_some_iff]

/-- Inside of a character there is no boundary. -/
theorem isBoundary_inside {front back : List Char} {c : Char} {n : Nat} (low : 0 < n)
    (high : n < c.utf8Size) : isBoundary (front ++ c :: back) (byteSize front + n) = false := by
  rw [Bool.eq_false_iff]
  intro boundary
  obtain ⟨before, after, eq, size⟩ := isBoundary_iff.mp boundary
  rcases List.append_eq_append_iff.mp eq with ⟨more, rfl, tail⟩ | ⟨more, rfl, -⟩
  · rw [byteSize_append] at size
    cases more with
    | nil =>
      rw [byteSize_nil] at size
      omega
    | cons d more =>
      obtain ⟨rfl, -⟩ := List.cons.inj tail
      rw [byteSize_cons] at size
      omega
  · rw [byteSize_append] at size
    omega

theorem textFrom_append (front back : List Char) :
    textFrom (front ++ back) (byteSize front) = .ok back := by
  rw [textFrom, splitBytes?_append]

theorem textBetween_append (front text back : List Char) :
    textBetween (front ++ (text ++ back)) (byteSize front) (byteSize front + byteSize text) =
      .ok text := by
  rw [textBetween, ← byteSize_append, ← List.append_assoc, splitBytes?_append]
  simp only [splitBytes?_append]

/-- A character is found behind the longest beginning without it. -/
theorem findChar?_getD (sought : Char) (cs : List Char) :
    (findChar? sought cs).getD (byteSize cs) = byteSize (cs.takeWhile (· ≠ sought)) := by
  induction cs with
  | nil => rfl
  | cons c cs ih =>
    rw [findChar?]
    split
    · next here => simp [here, byteSize_nil]
    · next other =>
      rw [List.takeWhile_cons_of_pos (by simpa using other), byteSize_cons, byteSize_cons, ← ih]
      cases findChar? sought cs <;> rfl

end PathRouting.Template

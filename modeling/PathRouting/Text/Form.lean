import PathRouting.Text.Percent

/-!
Pairs of texts in the form coding of query strings: `key=value` pairs joined with `&`. Letters,
digits and `*-._` stand for themselves, a space is `+`, and every other byte of the UTF-8 form is
escaped as in percent coding.

`encode` writes a list of pairs and `decode?` reads one. Main statements: `decodeText?_encodeText`
and `decode?_encode` (the two agree on every key, value and list of pairs).
-/

namespace PathRouting.Text.Form

open Percent

/-- Letters, digits and `*-._`. -/
def isKept (b : UInt8) : Bool :=
  let n := b.toNat
  (48 ≤ n && n ≤ 57) || (65 ≤ n && n ≤ 90) || (97 ≤ n && n ≤ 122) ||
    n == 42 || n == 45 || n == 46 || n == 95

/-- One byte: itself, `+` for a space, or an escape. -/
def encodeByte (b : UInt8) : List Char :=
  if isKept b then [Char.ofNat b.toNat] else if b = 32 then ['+'] else escape b

/-- A key or a value in form coding. -/
def encodeText (s : String) : List Char :=
  (utf8 s).flatMap encodeByte

/-- The pairs in order. -/
def encode (pairs : List (String × String)) : String :=
  String.ofList (joinPieces ['&'] (pairs.map fun p => encodeText p.1 ++ '=' :: encodeText p.2))

/-- The key or value that a piece of a form stands for, if its bytes are UTF-8. -/
def decodeText? (cs : List Char) : Option String :=
  ofUtf8? (decodeBytes (utf8 (String.ofList (cs.map fun c => if c = '+' then ' ' else c))))

/-- The pair written by one piece: without `=` the value is empty. -/
def decodePair? (piece : List Char) : Option (String × String) := do
  let key := piece.takeWhile (· ≠ '=')
  let value := (piece.dropWhile (· ≠ '=')).drop 1
  return (← decodeText? key, ← decodeText? value)

/-- The pairs that a form writes, empty pieces passed over. -/
def decode? (s : String) : Option (List (String × String)) :=
  ((pieces '&' s.toList).filter fun piece => !piece.isEmpty).mapM decodePair?

/-! ### Keys and values -/

/-- Whether the character may stand in a key or a value in form coding. -/
def isFormChar (c : Char) : Bool :=
  isCoded c || c = '*' || c = '+'

theorem isKept_ascii {b : UInt8} (h : isKept b = true) : b.toNat < 128 := by
  simp [isKept] at h
  omega

theorem isFormChar_ofNat {b : UInt8} (h : isKept b = true) :
    isFormChar (Char.ofNat b.toNat) = true ∧ Char.ofNat b.toNat ≠ '+' := by
  have byte : ∀ n < 128, isKept (UInt8.ofNat n) = true →
      isFormChar (Char.ofNat n) = true ∧ Char.ofNat n ≠ '+' := by decide
  exact byte b.toNat (isKept_ascii h) (by simpa using h)

theorem isFormChar_of_mem_encodeText {s : String} {c : Char} (h : c ∈ encodeText s) :
    isFormChar c = true := by
  obtain ⟨b, -, mem⟩ := List.mem_flatMap.mp h
  unfold encodeByte at mem
  split at mem
  · next kept =>
    obtain rfl := List.mem_singleton.mp mem
    exact (isFormChar_ofNat kept).1
  · split at mem
    · obtain rfl := List.mem_singleton.mp mem
      decide
    · simp [isFormChar, isCoded_of_mem_escape mem]

theorem notMem_encodeText {s : String} {c : Char} (h : isFormChar c = false) :
    c ∉ encodeText s := by
  intro mem
  rw [isFormChar_of_mem_encodeText mem] at h
  cases h

/-- Where `+` is read as a space, a byte is in percent coding that keeps spaces. -/
theorem map_plus_encodeByte (b : UInt8) :
    (encodeByte b).map (fun c => if c = '+' then ' ' else c) =
      if isKept b || b = 32 then [Char.ofNat b.toNat] else escape b := by
  unfold encodeByte
  by_cases kept : isKept b = true
  · have plain := (isFormChar_ofNat kept).2
    simp [kept, plain]
  · by_cases space : b = 32
    · subst space
      decide
    · have plain : ∀ c ∈ escape b, (if c = '+' then ' ' else c) = c := by
        intro c mem
        refine if_neg ?_
        rintro rfl
        exact absurd (isCoded_of_mem_escape mem) (by decide)
      simp only [kept, space, Bool.false_eq_true, if_false, decide_false, Bool.or_false]
      exact map_eq_self plain

theorem map_plus_encodeText (s : String) :
    (encodeText s).map (fun c => if c = '+' then ' ' else c) =
      encodeBytes (fun b => isKept b || b = 32) (utf8 s) := by
  rw [encodeText, encodeBytes, List.map_flatMap]
  simp only [map_plus_encodeByte]

/-- A key or value is read as it was written. -/
theorem decodeText?_encodeText (s : String) : decodeText? (encodeText s) = some s := by
  have ascii : ∀ b, (isKept b || decide (b = 32)) = true → b.toNat < 128 ∧ b ≠ 37 := by
    intro b kept
    rcases (Bool.or_eq_true _ _).mp kept with kept | space
    · refine ⟨isKept_ascii kept, ?_⟩
      rintro rfl
      exact absurd kept (by decide)
    · rw [of_decide_eq_true space]
      decide
  have bytes := decodeBytes_encodeBytes ascii (utf8 s) []
  rw [List.append_nil, decodeBytes, List.append_nil] at bytes
  rw [decodeText?, map_plus_encodeText, utf8_ofList, bytes, ofUtf8?_utf8]

/-! ### Pairs -/

/-- One piece of a form. -/
def encodePair (p : String × String) : List Char :=
  encodeText p.1 ++ '=' :: encodeText p.2

theorem encode_eq (pairs : List (String × String)) :
    encode pairs = String.ofList (joinPieces ['&'] (pairs.map encodePair)) := rfl

theorem decodePair?_encodePair (p : String × String) : decodePair? (encodePair p) = some p := by
  have key : ∀ c ∈ encodeText p.1, decide (c ≠ '=') = true := by
    intro c mem
    refine decide_eq_true ?_
    rintro rfl
    exact notMem_encodeText (by decide) mem
  unfold decodePair? encodePair
  rw [List.takeWhile_append_of_pos key, List.dropWhile_append_of_pos key]
  simp [decodeText?_encodeText]

theorem notMem_encodePair (p : String × String) : '&' ∉ encodePair p := by
  have free : ∀ s, '&' ∉ encodeText s := fun s => notMem_encodeText (by decide)
  simp [encodePair, free]

theorem encodePair_ne_nil (p : String × String) : encodePair p ≠ [] := by
  simp [encodePair]

/-- Reading a form gives the pairs that it was written with, in order. -/
theorem decode?_encode (pairs : List (String × String)) : decode? (encode pairs) = some pairs := by
  have free : ∀ piece ∈ pairs.map encodePair, '&' ∉ piece := by
    intro piece mem
    obtain ⟨p, -, rfl⟩ := List.mem_map.mp mem
    exact notMem_encodePair p
  have filled : ∀ piece ∈ pairs.map encodePair, (!piece.isEmpty) = true := by
    intro piece mem
    obtain ⟨p, -, rfl⟩ := List.mem_map.mp mem
    simpa using encodePair_ne_nil p
  have read : (pairs.map encodePair).mapM decodePair? = some pairs := by
    clear free filled
    induction pairs with
    | nil => rfl
    | cons p more ih => simp [decodePair?_encodePair, ih]
  rw [decode?, encode_eq, String.toList_ofList]
  by_cases noPairs : pairs = []
  · subst noPairs
    rfl
  · rw [pieces_joinPieces (by simpa using noPairs) free, List.filter_eq_self.mpr filled, read]

end PathRouting.Text.Form

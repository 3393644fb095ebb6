import PathRouting.Text.Pieces

/-!
Percent coding of path pieces. Letters, digits and `-_.~` stand for themselves; every other byte of
the UTF-8 form is written as `%` and two capital hexadecimal digits.

Main statements: `decodeBytes_encodeBytes` and, on texts, `decode_encode` and `decode_encodePieces`
(decoding undoes encoding); `decode_ne_empty` and `eq_nil_of_decode_append` (decoding loses no
text); `isCoded_of_mem_encode` (which characters an encoded text may hold).
-/

namespace PathRouting.Text.Percent

/-! ### Bytes -/

/-- The capital hexadecimal digit of a number below sixteen. -/
def hexDigit (n : Nat) : Char :=
  if n < 10 then Char.ofNat (48 + n) else Char.ofNat (55 + n)

/-- The value of a byte read as a hexadecimal digit of either case. -/
def hexValue? (b : UInt8) : Option Nat :=
  let n := b.toNat
  if 48 ≤ n ∧ n ≤ 57 then some (n - 48)
  else if 65 ≤ n ∧ n ≤ 70 then some (n - 55)
  else if 97 ≤ n ∧ n ≤ 102 then some (n - 87)
  else none

/-- A byte written as `%` and two hexadecimal digits. -/
def escape (b : UInt8) : List Char :=
  ['%', hexDigit (b.toNat / 16), hexDigit (b.toNat % 16)]

/-- The bytes in order, those that are `kept` as the character they are and the others escaped. -/
def encodeBytes (kept : UInt8 → Bool) (bytes : List UInt8) : List Char :=
  bytes.flatMap fun b => if kept b then [Char.ofNat b.toNat] else escape b

/-- The bytes with each escape replaced by its byte. A `%` that no two digits follow stays. -/
def decodeBytes : List UInt8 → List UInt8
  | 37 :: hi :: lo :: rest =>
    match hexValue? hi, hexValue? lo with
    | some h, some l => UInt8.ofNat (16 * h + l) :: decodeBytes rest
    | _, _ => 37 :: decodeBytes (hi :: lo :: rest)
  | b :: rest => b :: decodeBytes rest
  | [] => []

/-! ### Texts -/

/-- The bytes of the UTF-8 form. -/
def utf8 (s : String) : List UInt8 :=
  s.toUTF8.data.toList

/-- The text with the given UTF-8 form, if it is one. -/
def ofUtf8? (bytes : List UInt8) : Option String :=
  String.fromUTF8? ⟨bytes.toArray⟩

/-- Letters, digits and `-_.~`. -/
def isUnreserved (b : UInt8) : Bool :=
  let n := b.toNat
  (48 ≤ n && n ≤ 57) || (65 ≤ n && n ≤ 90) || (97 ≤ n && n ≤ 122) ||
    n == 45 || n == 46 || n == 95 || n == 126

/-- The text with every byte escaped that is not unreserved. -/
def encode (s : String) : String :=
  String.ofList (encodeBytes isUnreserved (utf8 s))

/-- The text with its escapes undone, or as it stands if the result is not UTF-8. -/
def decode (s : String) : String :=
  (ofUtf8? (decodeBytes (utf8 s))).getD s

/-- A text that may hold slashes: its pieces are encoded and the slashes stay. -/
def encodePieces (s : String) : String :=
  String.ofList (joinPieces ['/']
    ((pieces '/' s.toList).map fun piece => (encode (String.ofList piece)).toList))

/-! ### Decoding undoes encoding -/

@[simp] theorem utf8_ofList (cs : List Char) :
    utf8 (String.ofList cs) = cs.flatMap String.utf8EncodeChar := by
  simp [utf8, List.utf8Encode]

@[simp] theorem ofUtf8?_utf8 (s : String) : ofUtf8? (utf8 s) = some s := by
  have bytes : (⟨(utf8 s).toArray⟩ : ByteArray) = s.toByteArray := by
    simp [utf8]
  unfold ofUtf8? String.fromUTF8?
  rw [bytes, dif_pos s.isValidUTF8]
  rfl

theorem utf8EncodeChar_ofNat {n : Nat} (h : n < 128) :
    String.utf8EncodeChar (Char.ofNat n) = [UInt8.ofNat n] := by
  have size : ∀ m < 128, String.utf8EncodeChar (Char.ofNat m) = [UInt8.ofNat m] := by decide
  exact size n h

theorem utf8EncodeChar_hexDigit {n : Nat} (h : n < 16) :
    ∃ b, String.utf8EncodeChar (hexDigit n) = [b] ∧ hexValue? b = some n := by
  have digit : ∀ m < 16, String.utf8EncodeChar (hexDigit m) = [UInt8.ofNat (hexDigit m).toNat] ∧
      hexValue? (UInt8.ofNat (hexDigit m).toNat) = some m := by decide
  exact ⟨_, digit n h⟩

theorem decodeBytes_cons {b : UInt8} (h : b ≠ 37) (rest : List UInt8) :
    decodeBytes (b :: rest) = b :: decodeBytes rest := by
  rw [decodeBytes.eq_def]
  split
  · next eq => simp at eq; exact absurd eq.1 h
  · next eq => simp at eq; simp [eq]
  · next eq => simp at eq

theorem decodeBytes_escape (b : UInt8) (rest : List UInt8) :
    decodeBytes ((escape b).flatMap String.utf8EncodeChar ++ rest) = b :: decodeBytes rest := by
  have small := b.toNat_lt
  obtain ⟨hi, hiEncoded, hiValue⟩ := utf8EncodeChar_hexDigit (n := b.toNat / 16) (by omega)
  obtain ⟨lo, loEncoded, loValue⟩ := utf8EncodeChar_hexDigit (n := b.toNat % 16) (by omega)
  have percent : String.utf8EncodeChar '%' = [37] := by decide
  have whole : 16 * (b.toNat / 16) + b.toNat % 16 = b.toNat := by omega
  simp [escape, hiEncoded, loEncoded, percent, decodeBytes, hiValue, loValue, whole]

/-- Decoding gives the bytes back whenever `%` is escaped and so is every byte that is no character
by itself, whatever follows. -/
theorem decodeBytes_encodeBytes {kept : UInt8 → Bool}
    (ascii : ∀ b, kept b = true → b.toNat < 128 ∧ b ≠ 37) (bytes rest : List UInt8) :
    decodeBytes ((encodeBytes kept bytes).flatMap String.utf8EncodeChar ++ rest) =
      bytes ++ decodeBytes rest := by
  induction bytes with
  | nil => rfl
  | cons b more ih =>
    rw [encodeBytes, List.flatMap_cons, List.flatMap_append]
    rw [encodeBytes] at ih
    by_cases h : kept b = true
    · have plain := ascii b h
      simp only [h, if_true, List.flatMap_cons, List.flatMap_nil, List.append_nil,
        utf8EncodeChar_ofNat plain.1, UInt8.ofNat_toNat, List.cons_append, List.nil_append]
      rw [decodeBytes_cons plain.2, ih]
    · simp only [h, if_false, Bool.false_eq_true, List.append_assoc]
      rw [decodeBytes_escape, ih, List.cons_append]

theorem isUnreserved_ascii (b : UInt8) (h : isUnreserved b = true) :
    b.toNat < 128 ∧ b ≠ 37 := by
  refine ⟨?_, fun eq => ?_⟩
  · simp [isUnreserved] at h
    omega
  · subst eq
    exact absurd h (by decide)

theorem decodeBytes_utf8_encode (s : String) (rest : List UInt8) :
    decodeBytes ((encode s).toList.flatMap String.utf8EncodeChar ++ rest) =
      utf8 s ++ decodeBytes rest := by
  rw [encode, String.toList_ofList, decodeBytes_encodeBytes isUnreserved_ascii]

theorem decode_encode (s : String) : decode (encode s) = s := by
  have bytes := decodeBytes_utf8_encode s []
  rw [List.append_nil, ← utf8_ofList, String.ofList_toList, decodeBytes, List.append_nil] at bytes
  rw [decode, bytes, ofUtf8?_utf8, Option.getD_some]

theorem decodeBytes_joinPieces (ps : List (List Char)) (rest : List UInt8) :
    decodeBytes ((joinPieces ['/'] (ps.map fun p => (encode (String.ofList p)).toList)).flatMap
      String.utf8EncodeChar ++ rest) =
      (joinPieces ['/'] ps).flatMap String.utf8EncodeChar ++ decodeBytes rest := by
  have slash : String.utf8EncodeChar '/' = [47] := by decide
  induction ps with
  | nil => rfl
  | cons p more ih =>
    have piece := decodeBytes_utf8_encode (String.ofList p)
    rw [utf8_ofList] at piece
    cases more with
    | nil => simpa [joinPieces] using piece rest
    | cons q others =>
      rw [List.map_cons, joinPieces_cons (by simp), joinPieces_cons (by simp)]
      simp only [List.flatMap_append, List.append_assoc, List.flatMap_cons, slash,
        List.singleton_append]
      rw [piece, List.cons_append, decodeBytes_cons (by decide), ih, List.cons_append]

theorem decodeBytes_utf8_encodePieces (s : String) (rest : List UInt8) :
    decodeBytes ((encodePieces s).toList.flatMap String.utf8EncodeChar ++ rest) =
      utf8 s ++ decodeBytes rest := by
  rw [encodePieces, String.toList_ofList, decodeBytes_joinPieces, joinPieces_pieces, ← utf8_ofList,
    String.ofList_toList]

theorem decode_encodePieces (s : String) : decode (encodePieces s) = s := by
  have bytes := decodeBytes_utf8_encodePieces s []
  rw [List.append_nil, ← utf8_ofList, String.ofList_toList, decodeBytes, List.append_nil] at bytes
  rw [decode, bytes, ofUtf8?_utf8, Option.getD_some]

/-! ### Decoding loses no text -/

theorem utf8_of_ofUtf8? {bytes : List UInt8} {s : String} (h : ofUtf8? bytes = some s) :
    utf8 s = bytes := by
  unfold ofUtf8? String.fromUTF8? at h
  split at h
  · obtain rfl := Option.some.inj h
    rfl
  · cases h

theorem utf8_eq_nil_iff {s : String} : utf8 s = [] ↔ s = "" := by
  constructor
  · intro empty
    have back := ofUtf8?_utf8 s
    rw [empty] at back
    exact (Option.some.inj (back.symm.trans (ofUtf8?_utf8 "")))
  · rintro rfl
    rfl

theorem decodeBytes_eq_nil_iff {bytes : List UInt8} : decodeBytes bytes = [] ↔ bytes = [] := by
  fun_cases decodeBytes bytes with
  | case1 => simp
  | case2 => simp
  | case3 => simp
  | case4 => simp

theorem length_decodeBytes_le (bytes : List UInt8) :
    (decodeBytes bytes).length ≤ bytes.length := by
  fun_induction decodeBytes bytes with
  | case1 hi lo rest h _ l _ ih =>
    simp only [List.length_cons]
    omega
  | case2 hi lo rest _ ih => simpa using ih
  | case3 b rest _ ih => simpa using ih
  | case4 => exact Nat.le_refl _

/-- Only the empty text is decoded to the empty text. -/
theorem decode_ne_empty {s : String} (h : s ≠ "") : decode s ≠ "" := by
  unfold decode
  cases decoded : ofUtf8? (decodeBytes (utf8 s)) with
  | none => exact h
  | some text =>
    rw [Option.getD_some, ne_eq, ← utf8_eq_nil_iff, utf8_of_ofUtf8? decoded,
      decodeBytes_eq_nil_iff, utf8_eq_nil_iff]
    exact h

/-- A code with more text behind it stands for another text: whatever follows is decoded to at least
one byte. -/
theorem eq_nil_of_decode_append {code s : String} {more : List Char}
    (codes : ∀ rest, decodeBytes (code.toList.flatMap String.utf8EncodeChar ++ rest) =
      utf8 s ++ decodeBytes rest)
    (same : decode (String.ofList (code.toList ++ more)) = s) : more = [] := by
  have bytes := codes (more.flatMap String.utf8EncodeChar)
  rw [← List.flatMap_append, ← utf8_ofList] at bytes
  have nothing : decodeBytes (more.flatMap String.utf8EncodeChar) = [] := by
    unfold decode at same
    cases decoded : ofUtf8? (decodeBytes (utf8 (String.ofList (code.toList ++ more)))) with
    | some text =>
      rw [decoded, Option.getD_some] at same
      have whole := utf8_of_ofUtf8? decoded
      rw [same, bytes] at whole
      exact List.self_eq_append_right.mp whole
    | none =>
      rw [decoded, Option.getD_none] at same
      have shorter := length_decodeBytes_le (utf8 (String.ofList (code.toList ++ more)))
      rw [bytes, same, List.length_append] at shorter
      exact List.length_eq_zero_iff.mp (by omega)
  rw [decodeBytes_eq_nil_iff, ← utf8_ofList, utf8_eq_nil_iff] at nothing
  exact String.ofList_eq_empty_iff.mp nothing

/-! ### Encoded texts -/

/-- Whether the character may stand in an encoded text. -/
def isCoded (c : Char) : Bool :=
  c.isAlphanum || c = '-' || c = '.' || c = '_' || c = '~' || c = '%'

theorem isCoded_hexDigit {n : Nat} (h : n < 16) : isCoded (hexDigit n) = true := by
  have digit : ∀ m < 16, isCoded (hexDigit m) = true := by decide
  exact digit n h

theorem isCoded_ofNat {b : UInt8} (h : isUnreserved b = true) :
    isCoded (Char.ofNat b.toNat) = true := by
  have byte : ∀ n < 128, isUnreserved (UInt8.ofNat n) = true →
      isCoded (Char.ofNat n) = true := by decide
  exact byte b.toNat (isUnreserved_ascii b h).1 (by simpa using h)

theorem isCoded_of_mem_escape {b : UInt8} {c : Char} (h : c ∈ escape b) : isCoded c = true := by
  have small := b.toNat_lt
  simp only [escape, List.mem_cons, List.not_mem_nil, or_false] at h
  rcases h with rfl | rfl | rfl
  · decide
  · exact isCoded_hexDigit (by omega)
  · exact isCoded_hexDigit (by omega)

theorem isCoded_of_mem_encode {s : String} {c : Char} (h : c ∈ (encode s).toList) :
    isCoded c = true := by
  rw [encode, String.toList_ofList, encodeBytes, List.mem_flatMap] at h
  obtain ⟨b, -, mem⟩ := h
  split at mem
  · next plain =>
    obtain rfl := List.mem_singleton.mp mem
    exact isCoded_ofNat plain
  · exact isCoded_of_mem_escape mem

theorem notMem_encode {s : String} {c : Char} (h : isCoded c = false) : c ∉ (encode s).toList := by
  intro mem
  rw [isCoded_of_mem_encode mem] at h
  cases h

/-- Only the empty text has an empty code. -/
theorem encode_ne_nil {s : String} (h : s ≠ "") : (encode s).toList ≠ [] := by
  intro empty
  have back := decode_encode s
  rw [String.toList_eq_nil_iff.mp empty] at back
  exact h (back.symm.trans (decode_encode ""))

end PathRouting.Text.Percent

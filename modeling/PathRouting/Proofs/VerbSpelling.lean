import PathRouting.Proofs.Naming.LowerCase
import PathRouting.Verb

/-!
Which texts are taken as verbs.

A verb may be written in any case, and a text is put into upper case before it is compared. Some
characters outside of ASCII have an upper case in ASCII: the long s, the dotless i, the sharp s and
the Latin ligatures. `asciiForm` reads them as the ASCII letters they are capitalised with, and so a
text is taken just if its ASCII form names a verb.

Main statements: `upperChar_eq_or_foreign` (what the upper case of a character consists of),
`upperText_eq_iff` (when upper case gives a text in ASCII), `Verb.parse_eq_ok_iff` and
`Verb.foreign_of_names` (what else than ASCII is taken).
-/

namespace PathRouting.Unicode

/-! ### ASCII forms -/

/-- The characters outside of ASCII whose upper case is in ASCII, and small letters with the same
upper case. -/
def asciiForms : List (Char × String) := [
  ('ß', "ss"), ('ı', "i"), ('ſ', "s"), ('ﬀ', "ff"), ('ﬁ', "fi"), ('ﬂ', "fl"), ('ﬃ', "ffi"),
  ('ﬄ', "ffl"), ('ﬅ', "st"), ('ﬆ', "st")]

/-- The ASCII letters that a character is capitalised with, or else the character. -/
def asciiForm (c : Char) : List Char :=
  match asciiForms.lookup c with
  | some letters => letters.toList
  | none => [c]

/-- Whether the character is in ASCII. -/
def isAscii (c : Char) : Bool :=
  decide (c.toNat < 128)

theorem toUpper_of_not_isAscii {c : Char} (foreign : isAscii c = false) : c.toUpper = c := by
  have high : 128 ≤ c.toNat := not_lt.mp (of_decide_eq_false foreign)
  unfold Char.toUpper
  rw [dif_neg]
  rintro ⟨-, small⟩
  have low : c.toNat ≤ 0x7a := small
  omega

/-! ### ASCII characters -/

/-- The small letters of ASCII, moved to the capitals. -/
def smallLetters : CodeRun :=
  ⟨0x61, 0x7a, 1, 0x41⟩

/-- The tables of upper case list no ASCII characters but the small letters. -/
theorem upperTables_above :
    (upperExpansions.all fun entry => Nat.ble 128 entry.1) = true ∧
      (upperRuns.tail.all fun run => Nat.ble 128 run.first) = true := by
  decide +kernel

theorem lookup_upperExpansions {n : Nat} (below : n < 128) : upperExpansions.lookup n = none := by
  refine List.lookup_eq_none_iff.mpr ?_
  intro entry mem
  have above := Nat.ble_eq.mp (List.all_eq_true.mp upperTables_above.1 entry mem)
  exact bne_iff_ne.mpr (by omega)

theorem mapByRuns_upperRuns {n : Nat} (below : n < 128) :
    mapByRuns upperRuns n = smallLetters.image? n := by
  have later : mapByRuns upperRuns.tail n = none := by
    refine mapByRuns_eq_none ?_
    intro run mem
    have above := Nat.ble_eq.mp (List.all_eq_true.mp upperTables_above.2 run mem)
    have outside : ¬run.first ≤ n := by omega
    simp [CodeRun.covers, outside]
  have first : upperRuns = smallLetters :: upperRuns.tail := rfl
  rw [mapByRuns, first, List.findSome?_cons]
  cases smallLetters.image? n with
  | none => exact later
  | some m => rfl

theorem toUpper_eq_image? {c : Char} (below : c.toNat < 128) :
    c.toUpper = ((smallLetters.image? c.toNat).map Char.ofNat).getD c :=
  char_of_table (P := fun c => c.toUpper = ((smallLetters.image? c.toNat).map Char.ofNat).getD c)
    (by decide +kernel) below

/-- The upper case of an ASCII character is the capital of ASCII. -/
theorem upperChar_of_isAscii {c : Char} (ascii : isAscii c = true) : upperChar c = [c.toUpper] := by
  have below : c.toNat < 128 := of_decide_eq_true ascii
  rw [toUpper_eq_image? below, upperChar, lookup_upperExpansions below, mapByRuns_upperRuns below]
  cases smallLetters.image? c.toNat <;> rfl

/-! ### Characters -/

theorem mem_of_lookup {α β : Type} [DecidableEq α] {entries : List (α × β)} {key : α} {value : β}
    (found : entries.lookup key = some value) : (key, value) ∈ entries := by
  obtain ⟨before, after, rfl, -⟩ := List.lookup_eq_some_iff.mp found
  exact List.mem_append_right before List.mem_cons_self

/-- The characters with an ASCII form are not in ASCII, and have its capitals as upper case. -/
theorem asciiForms_upper :
    ∀ entry ∈ asciiForms, isAscii entry.1 = false ∧
      upperChar entry.1 = entry.2.toList.map Char.toUpper := by
  decide +kernel

theorem asciiForm_of_isAscii {c : Char} (ascii : isAscii c = true) : asciiForm c = [c] := by
  unfold asciiForm
  cases form : asciiForms.lookup c with
  | none => rfl
  | some letters =>
    have foreign := (asciiForms_upper _ (mem_of_lookup form)).1
    rw [ascii] at foreign
    cases foreign

/-- Every character whose upper case has several characters has one outside of ASCII among them, or
else an ASCII form. -/
theorem upperExpansions_foreign :
    ∀ entry ∈ upperExpansions,
      (∃ n ∈ entry.2, isAscii (Char.ofNat n) = false) ∨
        (asciiForms.lookup (Char.ofNat entry.1)).isSome = true := by
  decide +kernel

/-- A run from outside of ASCII leads out of ASCII, or is one character that has an ASCII form. -/
def CodeRun.staysForeign (run : CodeRun) : Bool :=
  Nat.blt run.last 128 ||
    Nat.ble 128 run.target &&
      (Nat.blt (run.target + (run.last - run.first)) 0xd800 ||
        Nat.ble 0xe000 run.target &&
          Nat.blt (run.target + (run.last - run.first)) 0x110000) ||
    Nat.beq run.first run.last && (asciiForms.lookup (Char.ofNat run.first)).isSome

theorem upperRuns_foreign : (upperRuns.all CodeRun.staysForeign) = true := by
  decide +kernel

/-- What a run makes of a code point outside of ASCII without an ASCII form is outside of ASCII. -/
theorem isAscii_of_mapByRuns {c : Char} {n : Nat} (foreign : isAscii c = false)
    (formless : asciiForms.lookup c = none) (image : mapByRuns upperRuns c.toNat = some n) :
    isAscii (Char.ofNat n) = false := by
  have high : 128 ≤ c.toNat := not_lt.mp (of_decide_eq_false foreign)
  obtain ⟨run, mem, image⟩ := exists_image_of_mapByRuns image
  have stays := List.all_eq_true.mp upperRuns_foreign run mem
  obtain ⟨covered, rfl⟩ := CodeRun.image?_eq_some_iff.mp image
  simp only [CodeRun.covers, Bool.and_eq_true, decide_eq_true_eq] at covered
  obtain ⟨⟨first, last⟩, -⟩ := covered
  simp only [CodeRun.staysForeign, Bool.or_eq_true, Bool.and_eq_true, Nat.blt_eq, Nat.ble_eq,
    Nat.beq_eq] at stays
  rcases stays with (below | ⟨above, bound⟩) | ⟨single, form⟩
  · omega
  · have valid : (run.target + (c.toNat - run.first)).isValidChar := by
      unfold Nat.isValidChar
      omega
    have code : (Char.ofNat (run.target + (c.toNat - run.first))).toNat =
        run.target + (c.toNat - run.first) := by
      rw [Char.ofNat, dif_pos valid]
      rfl
    rw [isAscii, code, decide_eq_false_iff_not]
    omega
  · have here : run.first = c.toNat := by omega
    rw [here, Char.ofNat_toNat, formless] at form
    cases form

/-- The upper case of a character consists of the capitals of its ASCII form, or else the character
is none of ASCII, has no ASCII form, and has an upper case that is not in ASCII. -/
theorem upperChar_eq_or_foreign (c : Char) :
    upperChar c = (asciiForm c).map Char.toUpper ∨
      isAscii c = false ∧ asciiForm c = [c] ∧ ∃ d ∈ upperChar c, isAscii d = false := by
  cases ascii : isAscii c with
  | true =>
    left
    rw [upperChar_of_isAscii ascii, asciiForm_of_isAscii ascii]
    rfl
  | false =>
    cases form : asciiForms.lookup c with
    | some letters =>
      left
      have same : asciiForm c = letters.toList := by rw [asciiForm, form]
      rw [same]
      exact (asciiForms_upper _ (mem_of_lookup form)).2
    | none =>
      refine .inr ⟨rfl, by rw [asciiForm, form], ?_⟩
      unfold upperChar
      cases expansion : upperExpansions.lookup c.toNat with
      | some ns =>
        rcases upperExpansions_foreign _ (mem_of_lookup expansion) with
          ⟨n, mem, out⟩ | formed
        · exact ⟨_, List.mem_map_of_mem mem, out⟩
        · rw [Char.ofNat_toNat, form] at formed
          cases formed
      | none =>
        cases image : mapByRuns upperRuns c.toNat with
        | some n => exact ⟨_, List.mem_singleton_self _, isAscii_of_mapByRuns ascii form image⟩
        | none => exact ⟨c, List.mem_singleton_self c, ascii⟩

/-! ### Texts -/

/-- A text with every character in its ASCII form. -/
def asciiText (cs : List Char) : List Char :=
  cs.flatMap asciiForm

theorem asciiText_of_isAscii {cs : List Char} (ascii : ∀ c ∈ cs, isAscii c = true) :
    asciiText cs = cs := by
  rw [asciiText, List.flatMap_congr fun c mem => asciiForm_of_isAscii (ascii c mem)]
  exact List.flatMap_singleton' cs

/-- Upper case gives a text in ASCII just if the ASCII form of the text is this text, the case of
ASCII letters aside. -/
theorem upperText_eq_iff {cs capitals : List Char} (ascii : ∀ d ∈ capitals, isAscii d = true) :
    upperText cs = capitals ↔ (asciiText cs).map Char.toUpper = capitals := by
  by_cases formed : ∀ c ∈ cs, upperChar c = (asciiForm c).map Char.toUpper
  · rw [upperText, asciiText, List.map_flatMap, List.flatMap_congr formed]
  · push Not at formed
    obtain ⟨c, mem, other⟩ := formed
    obtain ⟨foreign, same, d, mem', foreign'⟩ := (upperChar_eq_or_foreign c).resolve_left other
    constructor
    · rintro rfl
      have here := ascii d (List.mem_flatMap.mpr ⟨c, mem, mem'⟩)
      rw [foreign'] at here
      cases here
    · rintro rfl
      have kept : c ∈ (asciiText cs).map Char.toUpper := by
        refine List.mem_map.mpr ⟨c, List.mem_flatMap.mpr ⟨c, mem, ?_⟩, ?_⟩
        · rw [same]
          exact List.mem_singleton_self c
        · exact toUpper_of_not_isAscii foreign
      have here := ascii c kept
      rw [foreign] at here
      cases here

end PathRouting.Unicode

namespace PathRouting.Verb

open Unicode

/-! ### Spellings -/

/-- Whether a text names the verb when the case of ASCII letters does not count. -/
def Names (verb : Verb) (cs : List Char) : Prop :=
  cs.map Char.toUpper = verb.text.toList.map Char.toUpper

instance (verb : Verb) (cs : List Char) : Decidable (verb.Names cs) :=
  inferInstanceAs (Decidable (_ = _))

theorem isAscii_of_mem_text (verb : Verb) : ∀ c ∈ verb.text.toList, isAscii c = true := by
  refine List.all_eq_true.mp ?_
  cases verb <;> decide

theorem names_iff {verb : Verb} {cs : List Char} :
    verb.Names cs ↔ cs.map Char.toUpper = verb.text.toList := by
  have capitals : verb.text.toList.map Char.toUpper = verb.text.toList := by
    cases verb <;> decide
  rw [Names, capitals]

/-- A text names no verb if there is a character in it that is not in ASCII. -/
theorem isAscii_of_names {verb : Verb} {cs : List Char} (names : verb.Names cs) :
    ∀ c ∈ cs, isAscii c = true := by
  intro c mem
  by_contra out
  have foreign : isAscii c = false := by simpa using out
  have kept : c ∈ verb.text.toList := by
    rw [← names_iff.mp names]
    exact List.mem_map.mpr ⟨c, mem, toUpper_of_not_isAscii foreign⟩
  exact out (verb.isAscii_of_mem_text c kept)

theorem ofText?_eq_some_iff {s : String} {verb : Verb} :
    ofText? s = some verb ↔ verb.text = s := by
  constructor
  · intro found
    simpa using List.find?_some found
  · rintro rfl
    exact ofText?_text verb

/-- A text is taken as a verb just if its ASCII form names the verb. -/
theorem parse_eq_ok_iff {s : String} {verb : Verb} :
    parse s = .ok verb ↔ verb.Names (asciiText s.toList) := by
  rw [names_iff, ← upperText_eq_iff verb.isAscii_of_mem_text]
  have same : parse s = .ok verb ↔ ofText? (String.ofList (upperText s.toList)) = some verb := by
    unfold parse
    dsimp only
    cases ofText? (String.ofList (upperText s.toList)) with
    | none => simp
    | some other => simp
  rw [same, ofText?_eq_some_iff, eq_comm, ← String.toList_inj, String.toList_ofList]

/-- Any other text is refused. -/
theorem parse_eq_error_of {s : String} (other : ∀ verb : Verb, ¬verb.Names (asciiText s.toList)) :
    parse s = .error (.unsupportedVerb (String.ofList (upperText s.toList))) := by
  cases parsed : parse s with
  | ok verb => exact absurd (parse_eq_ok_iff.mp parsed) (other verb)
  | error e =>
    unfold parse at parsed
    dsimp only at parsed
    split at parsed
    · cases parsed
    · rw [← parsed]

/-- Verbs are named without ASCII by four characters only, and only those two verbs in which such a
character stands. -/
theorem foreign_of_names {verb : Verb} {cs : List Char} (names : verb.Names (asciiText cs))
    {c : Char} (mem : c ∈ cs) (foreign : isAscii c = false) :
    c ∈ ['ı', 'ſ', 'ﬅ', 'ﬆ'] ∧ (verb = .post ∨ verb = .options) := by
  have inside : (asciiForm c).map Char.toUpper <:+: verb.text.toList := by
    obtain ⟨before, after, rfl⟩ := List.append_of_mem mem
    rw [← names_iff.mp names, asciiText, List.flatMap_append, List.flatMap_cons]
    simp only [List.map_append]
    exact ⟨_, _, by rw [List.append_assoc]⟩
  cases form : asciiForms.lookup c with
  | none =>
    have same : asciiForm c = [c] := by rw [asciiForm, form]
    rw [same, List.map_singleton, toUpper_of_not_isAscii foreign] at inside
    have ascii := verb.isAscii_of_mem_text c (inside.subset (List.mem_singleton_self c))
    rw [foreign] at ascii
    cases ascii
  | some letters =>
    have same : asciiForm c = letters.toList := by rw [asciiForm, form]
    have table : ∀ entry ∈ asciiForms, ∀ verb ∈ all,
        entry.2.toList.map Char.toUpper <:+: verb.text.toList →
          entry.1 ∈ ['ı', 'ſ', 'ﬅ', 'ﬆ'] ∧ (verb = .post ∨ verb = .options) := by
      decide +kernel
    exact table _ (mem_of_lookup form) verb (mem_all verb) (same ▸ inside)

end PathRouting.Verb

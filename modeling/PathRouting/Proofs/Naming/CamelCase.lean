import PathRouting.Proofs.LateBinding
import PathRouting.Proofs.Naming.Joined

/-!
Names whose classified spelling can be undone.

Underscoring finds the words of a classified name by their capitals. It finds all of them and
nothing else where every word has at least two characters, small letters and digits of ASCII with a
letter in front: then each capital begins a word, and the character before it ends one.

Main statements: `breakWords_wordEnds_acronymEnds` (the two passes that break words are one),
`underscoreChars_camelize` (the words of one part are found), `underscore_classify` and
`classify_of_isWorded` (what this means for controllers).
-/

namespace PathRouting.Naming

open PathRouting.Text PathRouting.Unicode

/-! ### Characters of words -/

/-- Whether the character may stand in a word: a small letter or a digit of ASCII. -/
def isWordChar (c : Char) : Bool :=
  c.isLower || c.isDigit

theorem ascii_of_isWordChar {c : Char} (h : isWordChar c = true) : c.toNat < 128 := by
  rcases (Bool.or_eq_true _ _).mp h with lower | digit
  · have high : c.toNat ≤ 0x7a := of_decide_eq_true (Bool.and_eq_true_iff.mp lower).2
    omega
  · simp only [Char.isDigit, Bool.and_eq_true, decide_eq_true_eq] at digit
    have high : c.toNat ≤ 0x39 := digit.2
    omega

theorem plain_of_isWordChar {c : Char} (h : isWordChar c = true) : Plain c := by
  obtain ⟨lowered, notBlank, notDash⟩ :=
    char_of_table
      (P := fun c => isWordChar c = true → lowerChar c = [c] ∧ isBlank c = false ∧ c ≠ '-')
      (by decide +kernel) (ascii_of_isWordChar h) h
  exact ⟨lowered, notBlank, notDash⟩

theorem flatMap_lowerChar_of_isWordChar {cs : List Char}
    (chars : ∀ c ∈ cs, isWordChar c = true) : cs.flatMap lowerChar = cs :=
  flatMap_lowerChar_eq_self fun c mem => (plain_of_isWordChar (chars c mem)).lowered

/-- The capital of a small letter: no separator and no colon, and lowered to the letter again. -/
structure IsCapital (capital c : Char) : Prop where
  raised : upperChar c = [capital]
  lowered : lowerChar capital = [c]
  upper : capital.isUpper = true
  separates : separator capital = capital
  noColon : capital ≠ ':'
  noSigma : capital ≠ 'Σ'

theorem isCapital_toUpper {c : Char} (h : c.isLower = true) : IsCapital c.toUpper c := by
  have wordChar : isWordChar c = true := by simp [isWordChar, h]
  obtain ⟨raised, lowered, upper, separates, noColon, noSigma⟩ :=
    char_of_table
      (P := fun c => c.isLower = true →
        upperChar c = [c.toUpper] ∧ lowerChar c.toUpper = [c] ∧ c.toUpper.isUpper = true ∧
          separator c.toUpper = c.toUpper ∧ c.toUpper ≠ ':' ∧ c.toUpper ≠ 'Σ')
      (by decide +kernel) (ascii_of_isWordChar wordChar) h
  exact ⟨raised, lowered, upper, separates, noColon, noSigma⟩

/-! ### Words -/

/-- Whether the text is a word: a small letter, and at least one more character of a word. -/
def isWord : List Char → Bool
  | c :: d :: rest => c.isLower && (d :: rest).all isWordChar
  | _ => false

/-- Whether the name is written in words, with slashes between its parts and underscores between the
words of a part. -/
def isWorded (name : String) : Bool :=
  (pieces '/' name.toList).all fun part => (pieces '_' part).all isWord

/-- A capitalised word begins with a capital, and is the same word otherwise. -/
theorem exists_capitalize_eq {word : List Char} (h : isWord word = true) :
    ∃ c d rest, word = c :: d :: rest ∧ c.isLower = true ∧
      (∀ x ∈ d :: rest, isWordChar x = true) ∧ capitalize word = c.toUpper :: d :: rest := by
  rcases word with _ | ⟨c, _ | ⟨d, rest⟩⟩
  · cases h
  · cases h
  · simp only [isWord, Bool.and_eq_true, List.all_eq_true] at h
    obtain ⟨lower, chars⟩ := h
    refine ⟨c, d, rest, rfl, lower, chars, ?_⟩
    rw [capitalize, (isCapital_toUpper lower).raised, flatMap_lowerChar_of_isWordChar chars]
    rfl

theorem isWordChar_of_mem {word : List Char} (h : isWord word = true) {c : Char}
    (mem : c ∈ word) : isWordChar c = true := by
  obtain ⟨first, d, rest, rfl, lower, chars, -⟩ := exists_capitalize_eq h
  rcases List.mem_cons.mp mem with rfl | later
  · simp [isWordChar, lower]
  · exact chars c later

/-- The names that are written in words are those that are joined of them. -/
theorem isWorded_iff {name : String} :
    isWorded name = true ↔
      ∃ parts : List (List (List Char)), parts ≠ [] ∧
        (∀ words ∈ parts, words ≠ [] ∧ ∀ word ∈ words, isWord word = true) ∧
        name.toList = joinPieces ['/'] (parts.map (joinPieces ['_'])) := by
  constructor
  · intro worded
    refine ⟨(pieces '/' name.toList).map (pieces '_'), by simp [pieces_ne_nil], ?_, ?_⟩
    · intro words mem
      obtain ⟨part, member, rfl⟩ := List.mem_map.mp mem
      have all := List.all_eq_true.mp worded part member
      exact ⟨pieces_ne_nil '_' part, List.all_eq_true.mp all⟩
    · have joined : (pieces '/' name.toList).map (fun part => joinPieces ['_'] (pieces '_' part)) =
          pieces '/' name.toList :=
        map_eq_self fun part _ => joinPieces_pieces '_' part
      rw [List.map_map]
      exact ((congrArg (joinPieces ['/']) joined).trans (joinPieces_pieces '/' name.toList)).symm
  · rintro ⟨parts, nonempty, worded, written⟩
    have free : ∀ c, isWordChar c = false → ∀ words ∈ parts, ∀ word ∈ words, c ∉ word := by
      intro c other words member word given mem
      rw [isWordChar_of_mem ((worded words member).2 word given) mem] at other
      cases other
    have whole : ∀ part ∈ parts.map (joinPieces ['_']), '/' ∉ part := by
      intro part mem slash
      obtain ⟨words, member, rfl⟩ := List.mem_map.mp mem
      rcases mem_joinPieces slash with underline | ⟨word, given, inside⟩
      · exact absurd underline (by decide)
      · exact free '/' (by decide) words member word given inside
    rw [isWorded, written, pieces_joinPieces (by simpa using nonempty) whole, List.all_eq_true]
    intro part mem
    obtain ⟨words, member, rfl⟩ := List.mem_map.mp mem
    obtain ⟨filled, all⟩ := worded words member
    rw [pieces_joinPieces filled (free '_' (by decide) words member)]
    exact List.all_eq_true.mpr all

/-! ### The ends of words -/

/-- Where a word ends, by either rule. -/
def endsHere (c d : Char) (next : Option Char) : Bool :=
  acronymEnds c d next || wordEnds c d next

theorem isUpper_of_endsHere (c d : Char) (next : Option Char) (h : endsHere c d next = true) :
    d.isUpper = true := by
  rcases (Bool.or_eq_true _ _).mp h with acronym | word
  · exact isUpper_of_acronymEnds c d next acronym
  · exact isUpper_of_wordEnds c d next word

theorem endsHere_of_isWordChar {c d : Char} (h : isWordChar c = true) (upper : d.isUpper = true)
    (next : Option Char) : endsHere c d next = true := by
  have digit : c.isDigit = true → isDecimalDigit c = true := by
    intro digit
    simp only [Char.isDigit, Bool.and_eq_true, decide_eq_true_eq] at digit
    exact inRanges_iff.mpr ⟨(0x30, 0x39), by simp [decimalDigitRanges], digit.1, digit.2⟩
  have word : wordEnds c d next = true := by
    rcases (Bool.or_eq_true _ _).mp h with lower | decimal
    · simp [wordEnds, lower, upper]
    · simp [wordEnds, digit decimal, upper]
  simp [endsHere, word]

theorem breakWords_cons_cons (cut : Char → Char → Option Char → Bool) (c d : Char)
    (rest : List Char) :
    breakWords cut (c :: d :: rest) =
      if cut c d rest.head? then c :: '_' :: breakWords cut (d :: rest)
      else c :: breakWords cut (d :: rest) := rfl

/-- No word ends on either side of an underscore. So the second pass leaves alone what the first one
has written, and the two passes are one. -/
theorem breakWords_wordEnds_acronymEnds (cs : List Char) :
    breakWords wordEnds (breakWords acronymEnds cs) = breakWords endsHere cs := by
  have before : ∀ c next, wordEnds c '_' next = false := by simp [wordEnds]
  have after : ∀ d next, wordEnds '_' d next = false := by
    have digit : isDecimalDigit '_' = false := by decide
    simp [wordEnds, digit]
  fun_induction breakWords acronymEnds cs with
  | case1 c d rest asked ih =>
    have first : (breakWords acronymEnds (d :: rest)).head? = some d := head?_breakWords (d :: rest)
    obtain ⟨more, broken⟩ := List.head?_eq_some_iff.mp first
    -- The first pass has put an underscore here, and the second one none beside it.
    have both : endsHere c d rest.head? = true := by simp [endsHere, asked]
    rw [breakWords_cons_cons endsHere, if_pos both, ← ih, broken]
    simp [breakWords_cons_cons, before, after]
  | case2 c d rest asked ih =>
    have first : (breakWords acronymEnds (d :: rest)).head? = some d := head?_breakWords (d :: rest)
    obtain ⟨more, broken⟩ := List.head?_eq_some_iff.mp first
    -- What follows the two characters may be new, but the second rule does not look at it.
    have second : endsHere c d rest.head? = wordEnds c d more.head? := by
      simp only [endsHere, asked, Bool.false_or]
      rfl
    rw [breakWords_cons_cons endsHere, second, ← ih, broken, breakWords_cons_cons]
  | case3 cs short =>
    rcases cs with _ | ⟨c, _ | ⟨d, rest⟩⟩
    · rfl
    · rfl
    · exact absurd rfl (short c d rest)

theorem breakWords_cons_small (c : Char) {d : Char} (small : d.isUpper = false)
    (rest : List Char) :
    breakWords endsHere (c :: d :: rest) = c :: breakWords endsHere (d :: rest) := by
  have inside : ¬endsHere c d rest.head? = true := by
    intro ends
    rw [isUpper_of_endsHere c d _ ends] at small
    cases small
  rw [breakWords_cons_cons, if_neg inside]

/-- From anywhere within a word, its end is found where the next word begins with a capital. -/
theorem breakWords_append {c e : Char} {word : List Char}
    (chars : ∀ x ∈ c :: word, isWordChar x = true) (upper : e.isUpper = true) (rest : List Char) :
    breakWords endsHere (c :: word ++ e :: rest) =
      c :: word ++ '_' :: breakWords endsHere (e :: rest) := by
  induction word generalizing c with
  | nil =>
    have ends := endsHere_of_isWordChar (chars c List.mem_cons_self) upper rest.head?
    simp [breakWords_cons_cons, ends]
  | cons d word ih =>
    have later : ∀ x ∈ d :: word, isWordChar x = true :=
      fun x mem => chars x (List.mem_cons_of_mem c mem)
    have small := not_isUpper_of_plain (plain_of_isWordChar (later d List.mem_cons_self))
    rw [List.cons_append, List.cons_append, breakWords_cons_small c small]
    exact congrArg (c :: ·) (ih later)

/-- The ends of capitalised words are found, and only those. -/
theorem breakWords_flatMap_capitalize {words : List (List Char)} (nonempty : words ≠ [])
    (worded : ∀ word ∈ words, isWord word = true) :
    breakWords endsHere (words.flatMap capitalize) =
      joinPieces ['_'] (words.map capitalize) := by
  induction words with
  | nil => exact absurd rfl nonempty
  | cons word more ih =>
    obtain ⟨c, d, rest, rfl, lower, chars, spelled⟩ :=
      exists_capitalize_eq (worded word List.mem_cons_self)
    have small : ∀ x ∈ d :: rest, x.isUpper = false :=
      fun x mem => not_isUpper_of_plain (plain_of_isWordChar (chars x mem))
    have second := small d List.mem_cons_self
    cases more with
    | nil =>
      have within := breakWords_eq_self isUpper_of_endsHere small
      simp [joinPieces, spelled, breakWords_cons_small _ second, within]
    | cons next others =>
      -- The end of this word is found only because another one begins behind it.
      have later := ih (by simp) fun w mem => worded w (List.mem_cons_of_mem _ mem)
      obtain ⟨c', d', rest', rfl, lower', -, spelled'⟩ :=
        exists_capitalize_eq (worded next (by simp))
      have found := breakWords_append chars (isCapital_toUpper lower').upper
        (d' :: rest' ++ others.flatMap capitalize)
      rw [List.map_cons, joinPieces_cons (by simp), ← later, List.flatMap_cons, spelled,
        List.flatMap_cons, spelled', List.cons_append, List.cons_append, List.cons_append,
        breakWords_cons_small _ second]
      simpa using found

/-! ### Parts -/

/-- A character of a capitalised word is no separator, no colon and no sigma. -/
theorem separator_of_mem_capitalize {word : List Char} (h : isWord word = true) {c : Char}
    (mem : c ∈ capitalize word) : separator c = c ∧ c ≠ ':' ∧ c ≠ 'Σ' := by
  obtain ⟨first, d, rest, rfl, lower, chars, spelled⟩ := exists_capitalize_eq h
  rw [spelled] at mem
  rcases List.mem_cons.mp mem with rfl | later
  · have capital := isCapital_toUpper lower
    exact ⟨capital.separates, capital.noColon, capital.noSigma⟩
  · refine ⟨separator_of_plain (plain_of_isWordChar (chars c later)), ?_, ?_⟩
    · rintro rfl
      exact absurd (chars ':' later) (by decide)
    · rintro rfl
      exact absurd (chars 'Σ' later) (by decide)

theorem flatMap_lowerChar_capitalize {word : List Char} (h : isWord word = true) :
    (capitalize word).flatMap lowerChar = word := by
  obtain ⟨c, d, rest, rfl, lower, chars, spelled⟩ := exists_capitalize_eq h
  rw [spelled, List.flatMap_cons, (isCapital_toUpper lower).lowered,
    flatMap_lowerChar_of_isWordChar chars]
  rfl

/-- Capitals between underscores are lowered, and the words stay. -/
theorem lowerText_joinPieces_capitalize {words : List (List Char)}
    (worded : ∀ word ∈ words, isWord word = true) :
    lowerText ((joinPieces ['_'] (words.map capitalize)).map separator) =
      joinPieces ['_'] words := by
  have chars : ∀ c ∈ joinPieces ['_'] (words.map capitalize), separator c = c ∧ c ≠ 'Σ' := by
    intro c mem
    rcases mem_joinPieces mem with underline | ⟨p, member, inside⟩
    · rw [List.mem_singleton.mp underline]
      decide
    · obtain ⟨word, given, rfl⟩ := List.mem_map.mp member
      obtain ⟨same, -, noSigma⟩ := separator_of_mem_capitalize (worded word given) inside
      exact ⟨same, noSigma⟩
  have same : (joinPieces ['_'] (words.map capitalize)).map separator =
      joinPieces ['_'] (words.map capitalize) :=
    map_eq_self fun c mem => (chars c mem).1
  have noSigma : 'Σ' ∉ joinPieces ['_'] (words.map capitalize) :=
    fun mem => (chars 'Σ' mem).2 rfl
  have lowered : words.map (fun word => (capitalize word).flatMap lowerChar) = words :=
    map_eq_self fun word given => flatMap_lowerChar_capitalize (worded word given)
  have underline : ['_'].flatMap lowerChar = ['_'] := by decide +kernel
  rw [same, lowerText, lowerAfter_eq_flatMap noSigma, flatMap_joinPieces, List.map_map, underline]
  exact congrArg (joinPieces ['_']) lowered

theorem notMem_camelize {part : List Char} (worded : (pieces '_' part).all isWord = true) :
    ':' ∉ camelize part := by
  intro mem
  obtain ⟨word, given, inside⟩ := List.mem_flatMap.mp mem
  exact (separator_of_mem_capitalize (List.all_eq_true.mp worded word given) inside).2.1 rfl

/-- The words of a part are found again in its classified spelling. -/
theorem underscoreChars_camelize {part : List Char}
    (worded : (pieces '_' part).all isWord = true) : underscoreChars (camelize part) = part := by
  have words := List.all_eq_true.mp worded
  have noScope : slashScopes (camelize part) = camelize part :=
    slashScopes_eq_self (isChain_of_notMem (notMem_camelize worded))
  have broken : breakWords endsHere (camelize part) =
      joinPieces ['_'] ((pieces '_' part).map capitalize) :=
    breakWords_flatMap_capitalize (pieces_ne_nil '_' part) words
  rw [underscoreChars, noScope, breakWords_wordEnds_acronymEnds, broken,
    lowerText_joinPieces_capitalize words, joinPieces_pieces]

/-! ### Names -/

theorem slashScopes_scope {cs : List Char} (free : ':' ∉ cs) (rest : List Char) :
    slashScopes (cs ++ ':' :: ':' :: rest) = slashScopes (cs ++ '/' :: rest) := by
  induction cs with
  | nil => simp [slashScopes]
  | cons c cs ih =>
    simp only [List.mem_cons, not_or] at free
    simp [slashScopes, Ne.symm free.1, ih free.2]

/-- Parts between scopes are underscored by themselves. -/
theorem underscoreChars_joinPieces {ps : List (List Char)} (free : ∀ p ∈ ps, ':' ∉ p) :
    underscoreChars (joinPieces [':', ':'] ps) = joinPieces ['/'] (ps.map underscoreChars) := by
  fun_induction joinPieces [':', ':'] ps with
  | case1 => rfl
  | case2 p => rfl
  | case3 p more many ih =>
    have scope : underscoreChars (p ++ ':' :: ':' :: joinPieces [':', ':'] more) =
        underscoreChars (p ++ '/' :: joinPieces [':', ':'] more) := by
      rw [underscoreChars, slashScopes_scope (free p List.mem_cons_self), underscoreChars]
    have later := ih fun q mem => free q (List.mem_cons_of_mem p mem)
    rw [List.map_cons, joinPieces_cons (by simpa using many), ← later]
    simpa [underscoreChars_append] using scope

section Worded

variable {name : String} (worded : isWorded name = true)

include worded

/-- What a name written in words consists of. -/
theorem mem_of_isWorded {c : Char} (mem : c ∈ name.toList) :
    c = '/' ∨ c = '_' ∨ isWordChar c = true := by
  obtain ⟨parts, -, words, written⟩ := isWorded_iff.mp worded
  rw [written] at mem
  rcases mem_joinPieces mem with slash | ⟨part, member, inside⟩
  · exact .inl (List.mem_singleton.mp slash)
  · obtain ⟨ws, given, rfl⟩ := List.mem_map.mp member
    rcases mem_joinPieces inside with underline | ⟨word, mem', within⟩
    · exact .inr (.inl (List.mem_singleton.mp underline))
    · exact .inr (.inr (isWordChar_of_mem ((words ws given).2 word mem') within))

theorem notMem_of_isWorded {c : Char} (other : (c = '/' || c = '_' || isWordChar c) = false) :
    c ∉ name.toList := by
  intro mem
  rcases mem_of_isWorded worded mem with slash | underline | wordChar
  · simp [slash] at other
  · simp [underline] at other
  · simp [wordChar] at other

theorem underscored_of_isWorded : Underscored name.toList where
  noScope := isChain_of_notMem (notMem_of_isWorded worded (by decide))
  plain := by
    intro c mem
    rcases mem_of_isWorded worded mem with rfl | rfl | wordChar
    · exact ⟨by decide +kernel, by decide, by decide⟩
    · exact plain_underline
    · exact plain_of_isWordChar wordChar

/-- Underscoring undoes classifying. -/
theorem underscore_classify : underscore (classify name) = name := by
  have parts := List.all_eq_true.mp worded
  have free : ∀ p ∈ (pieces '/' name.toList).map camelize, ':' ∉ p := by
    intro p mem
    obtain ⟨part, member, rfl⟩ := List.mem_map.mp mem
    exact notMem_camelize (parts part member)
  have found : (pieces '/' name.toList).map (fun part => underscoreChars (camelize part)) =
      pieces '/' name.toList :=
    map_eq_self fun part member => underscoreChars_camelize (parts part member)
  have undone : underscoreChars (classifyChars name.toList) = name.toList := by
    rw [classifyChars, (underscored_of_isWorded worded).underscoreChars_eq,
      underscoreChars_joinPieces free, List.map_map]
    exact (congrArg (joinPieces ['/']) found).trans (joinPieces_pieces '/' name.toList)
  rw [underscore, classify, String.toList_ofList, undone, String.ofList_toList]

/-- Classifying such a name again changes nothing, as it looks at the underscored spelling only. -/
theorem classify_classify : classify (classify name) = classify name := by
  have undone : underscoreChars (classify name).toList = underscoreChars name.toList := by
    rw [(underscored_of_isWorded worded).underscoreChars_eq]
    exact String.ofList_injective
      ((underscore_classify worded).trans String.ofList_toList.symm)
  rw [classify, classifyChars, undone]
  rfl

end Worded

end PathRouting.Naming

namespace PathRouting

open Naming

/-! ### Controllers -/

/-- A route to an action of a controller leads to it by its classified name. -/
theorem Route.target_of_reference {c a path : String} {spec : RouteSpec} {route : Route}
    (plain : '#' ∉ c.toList) (declared : spec.destination = .reference (actionOf c a))
    (created : Route.create path spec = .ok route) :
    route.target = .controller (classify c) (if a.isEmpty then none else some a) := by
  obtain ⟨template, -, rfl⟩ := Route.create_eq_ok.mp created
  rw [declared]
  exact Target.ofReference_actionOf plain a

/-- A name that is written in words is told by its classified spelling, and classifying it again
changes nothing. So what was registered last for a controller of this name is what the routes to it
call. -/
theorem classify_of_isWorded {name : String} (worded : isWorded name = true) :
    underscore (classify name) = name ∧
      (∀ other, isWorded other = true → classify other = classify name → other = name) ∧
      classify (classify name) = classify name ∧
      ∀ (action path : String) (spec : RouteSpec) (route : Route),
        spec.destination = .reference (actionOf name action) →
          Route.create path spec = .ok route → FollowsLast name route.target := by
  have undone := underscore_classify worded
  have stable := classify_classify worded
  refine ⟨undone, ?_, stable, ?_⟩
  · intro other worded' same
    rw [← underscore_classify worded', same, undone]
  · intro action path spec route declared created changes registered controller env last
    have plain : '#' ∉ name.toList := notMem_of_isWorded worded (by decide)
    rw [Route.target_of_reference plain declared created, call_run, stable, last]
    rfl

/-- The digit that ends a word is taken for the end of an acronym, and the word is found all the
same. -/
theorem classify_of_isWorded_logs :
    let spec : RouteSpec := { destination := .reference (actionOf "admin/http2_logs" "index") }
    let route : Route :=
      ⟨"/logs", ⟨"/logs", [.literal "/logs"], []⟩, .controller "Admin::Http2Logs" (some "index"),
        none⟩
    isWorded "admin/http2_logs" = true ∧ classify "admin/http2_logs" = "Admin::Http2Logs" ∧
      underscore "Admin::Http2Logs" = "admin/http2_logs" ∧
      classify "Admin::Http2Logs" = "Admin::Http2Logs" ∧
      (∀ other, isWorded other = true → classify other = "Admin::Http2Logs" →
        other = "admin/http2_logs") ∧
      Route.create "/logs" spec = .ok route ∧ FollowsLast "admin/http2_logs" route.target := by
  intro spec route
  have worded : isWorded "admin/http2_logs" = true := by decide
  have classified : classify "admin/http2_logs" = "Admin::Http2Logs" := by decide +kernel
  have cleaned : cleanPath "/logs" = "/logs" := rfl
  have compiled : Template.compile "/logs" [] = .ok ⟨"/logs", [.literal "/logs"], []⟩ := rfl
  have target := Target.ofReference_actionOf (c := "admin/http2_logs") (by decide) "index"
  have created : Route.create "/logs" spec = .ok route := by
    rw [Route.create_eq_ok, cleaned]
    refine ⟨_, compiled, ?_⟩
    simp [spec, route, Destination.target, target, classified]
  obtain ⟨undone, told, stable, follows⟩ := classify_of_isWorded worded
  rw [classified] at undone told stable
  exact ⟨worded, classified, undone, stable, told, created,
    follows "index" "/logs" spec route rfl created⟩

end PathRouting

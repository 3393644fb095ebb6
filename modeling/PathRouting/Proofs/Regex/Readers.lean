import PathRouting.Regex.Parser

/-!
The readers of regular expressions, taken apart. Where a reader decides by what comes next and goes
on in several ways, each of the ways gets a name here, and an equation says how the reader is made
of them, so that what is proved of a reader follows its parts.

Main statements: `Flags.escape?_cons`, `Flags.wordEdge?_brace`, `State.openGroup?_eq`,
`Flags.openBracket?_eq`, `Flags.bracketPart?_eq`, `Flags.readBrackets?_succ`.
-/

namespace PathRouting.Regex

open PathRouting.Unicode

namespace Flags

variable (flags : Flags)

/-! ### Escapes -/

/-- What kind of escape it is, the character after the backslash alone decides. -/
theorem escape?_cons (c : Char) (one other : List Char) :
    (∃ digits, flags.escape? (c :: one) = flags.hexAtom? digits one ∧
      flags.escape? (c :: other) = flags.hexAtom? digits other) ∨
    (∃ negated, flags.escape? (c :: one) = flags.propertyAtom? negated one ∧
      flags.escape? (c :: other) = flags.propertyAtom? negated other) ∨
    c = 'b' ∨
    ∃ atom : Option Atom, flags.escape? (c :: one) = atom.map (·, one) ∧
      flags.escape? (c :: other) = atom.map (·, other) := by
  unfold escape?
  dsimp only
  split
  · exact .inl ⟨2, rfl, rfl⟩
  · exact .inl ⟨4, rfl, rfl⟩
  · exact .inl ⟨8, rfl, rfl⟩
  · exact .inr (.inl ⟨false, rfl, rfl⟩)
  · exact .inr (.inl ⟨true, rfl, rfl⟩)
  all_goals first
    | exact .inr (.inr (.inl rfl))
    | exact .inr (.inr (.inr ⟨some _, rfl, rfl⟩))
    | skip
  refine .inr (.inr (.inr ⟨if isEscapable c then some (.char c false) else none, ?_, ?_⟩))
  · split <;> rfl
  · split <;> rfl

/-- The characters of the names in braces after `\b`. -/
def inEdgeName (c : Char) : Bool := c.isAlpha || c = '-'

/-- The word edge with the given name. -/
def edgeNamed? (name : List Char) : Option WordEdge :=
  match String.ofList name with
  | "start" => some .start
  | "end" => some .stop
  | "start-half" => some .startHalf
  | "end-half" => some .stopHalf
  | _ => none

/-- The word edge with a name that a brace closes. -/
def closeEdge? (spanned : List Char × List Char) : Option (WordEdge × List Char) :=
  match spanned.2 with
  | '\x7d' :: after => (edgeNamed? spanned.1).map (·, after)
  | _ => none

theorem closeEdge?_closed (name after : List Char) :
    closeEdge? (name, '\x7d' :: after) = (edgeNamed? name).map (·, after) := rfl

theorem wordEdge?_brace (rest : List Char) :
    flags.wordEdge? ('\x7b' :: rest) =
      match flags.skip rest with
      | [] => none
      | c :: more =>
        if inEdgeName c then closeEdge? (flags.span inEdgeName (c :: more).length (c :: more))
        else some (.boundary, '\x7b' :: rest) := by
  have letters : (fun c : Char => c.isAlpha || decide (c = '-')) = inEdgeName := rfl
  simp only [wordEdge?]
  cases flags.skip rest with
  | nil => rfl
  | cons c more =>
    dsimp only
    by_cases letter : inEdgeName c = true
    · rw [if_pos letter, if_pos (show (c.isAlpha || decide (c = '-')) = true from letter), letters]
      rcases flags.span inEdgeName (c :: more).length (c :: more) with ⟨name, _ | ⟨d, after⟩⟩
      · rfl
      · by_cases closes : d = '\x7d'
        · subst closes
          rw [closeEdge?_closed, edgeNamed?]
          grind
        · simp [closeEdge?, closes]
    · rw [if_neg letter, if_neg (show ¬(c.isAlpha || decide (c = '-')) = true from letter)]

/-! ### Repetition -/

/-- The bounds of a repetition whose upper bound has been read. -/
def closeCounts? (least : Nat) (found : Nat × List Char) : Option (Nat × Option Nat × List Char) :=
  match found.2 with
  | '\x7d' :: after => if least ≤ found.1 then some (least, some found.1, after) else none
  | _ => none

/-- The bounds of a repetition whose lower bound and comma have been read. -/
def upperCount? (least : Nat) (cs : List Char) : Option (Nat × Option Nat × List Char) :=
  match flags.skip cs with
  | '\x7d' :: after => some (least, none, after)
  | start => (flags.count? start).bind (closeCounts? least)

end Flags

/-! ### Groups -/

/-- The name of a group, given the text up to the angle bracket and from it on. -/
def closeName? (name behind : List Char) : Option (List Char × List Char) :=
  match name, behind with
  | c :: more, _ :: rest =>
    if isNameChar true c && more.all (isNameChar false) then some (c :: more, rest) else none
  | _, _ => none

theorem groupName?_eq (cs : List Char) :
    groupName? cs = closeName? (cs.takeWhile (· ≠ '>')) (cs.dropWhile (· ≠ '>')) := rfl

theorem closeName?_nil (name : List Char) : closeName? name [] = none := by
  cases name <;> rfl

namespace State

variable (s : State)

/-- The state after a group with a name. -/
def openNamed? (cs : List Char) : Option (State × List Char) :=
  (groupName? cs).bind fun found =>
    if s.names.contains found.1 then none
    else some (s.open true s.flags (found.1 :: s.names), found.2)

/-- The state after changes of flags. -/
def openFlags? (cs : List Char) : Option (State × List Char) :=
  (readFlags? s.flags true [] cs).bind fun found =>
    if found.2.2.1 = ':' then some (s.open false found.1 s.names, found.2.2.2)
    else if found.2.1.isEmpty then none
    else some ({ s.add .mode with flags := found.1 }, found.2.2.2)

/-- The state after an opening parenthesis and a question mark. -/
def openMarked? (cs : List Char) : Option (State × List Char) :=
  match cs with
  | '=' :: _ | '!' :: _ | '<' :: '=' :: _ | '<' :: '!' :: _ => none
  | 'P' :: '<' :: rest | '<' :: rest => s.openNamed? rest
  | rest => s.openFlags? rest

theorem openGroup?_eq (cs : List Char) :
    s.openGroup? cs = match s.flags.skip cs with
      | '?' :: rest => s.openMarked? rest
      | rest => some (s.open true s.flags s.names, rest) := by
  unfold openGroup? openMarked? openNamed? openFlags?
  dsimp only
  simp only [List.contains_iff_mem]
  generalize s.flags.skip cs = start
  grind

end State

/-! ### Brackets -/

/-- The named class between `:` and `:]`, given the text up to the second colon and from it on. -/
def closeClass? (negated : Bool) (name behind : List Char) :
    Option (AsciiClass × Bool × List Char) :=
  match behind with
  | ':' :: ']' :: after =>
    (AsciiClass.ofName? (String.ofList name)).map fun cls => (cls, negated, after)
  | _ => none

/-- The named class after its first colon. -/
def classBody? (negated : Bool) (cs : List Char) : Option (AsciiClass × Bool × List Char) :=
  closeClass? negated (cs.takeWhile (· ≠ ':')) (cs.dropWhile (· ≠ ':'))

theorem asciiClass?_eq (cs : List Char) :
    asciiClass? cs = match cs with
      | ':' :: '^' :: rest => classBody? true rest
      | ':' :: rest => classBody? false rest
      | _ => none := by
  rcases cs with _ | ⟨c, rest⟩
  · rfl
  · by_cases colon : c = ':'
    · subst colon
      rcases rest with _ | ⟨d, rest⟩
      · rfl
      · by_cases sign : d = '^'
        · subst sign
          rfl
        · have body : asciiClass? (':' :: d :: rest) = classBody? false (d :: rest) := by
            simp only [asciiClass?, List.cons.injEq, sign, false_and, imp_false, not_false_eq_true,
              implies_true]
            rfl
          simpa [sign] using body
    · simp [asciiClass?, colon]

namespace Flags

variable (flags : Flags)

/-- Whether the bracket is negated, and the text after that. -/
def bracketSign? (cs : List Char) : Option (Bool × List Char) :=
  match flags.skip cs with
  | [] => none
  | '^' :: rest => some (true, flags.skip rest)
  | cs => some (false, cs)

/-- The bracket with the dashes or the closing bracket that stand first in it. -/
def bracketHead? (negated : Bool) (start : List Char) :
    Option (OpenBracket × List Char) :=
  let (dashes, start) := flags.span (· = '-') start.length start
  let bracket : OpenBracket := ⟨negated, none, dashes.map CharSet.single⟩
  match start with
  | [] => none
  | ']' :: rest =>
    if dashes.isEmpty then
      if (flags.skip rest).isEmpty then none else some (bracket.add (.single ']'), flags.skip rest)
    else some (bracket, start)
  | _ => some (bracket, start)

theorem openBracket?_eq (cs : List Char) :
    flags.openBracket? cs =
      (flags.bracketSign? cs).bind fun found => flags.bracketHead? found.1 found.2 := by
  unfold openBracket? bracketSign?
  rcases flags.skip cs with _ | ⟨c, rest⟩
  · rfl
  · by_cases sign : c = '^'
    · subst sign
      rfl
    · unfold bracketHead?
      grind

/-- The range from a character to the atom that is read. -/
def rangeTo? (first : Atom) (found : Atom × List Char) : Option (CharSet × List Char) :=
  (flags.bracketChar? first).bind fun low =>
    (flags.bracketChar? found.1).bind fun high =>
      if low ≤ high then some (.range low high, found.2) else none

/-- The set that an atom between brackets stands for where it begins no range. -/
def partAlone? (first : Atom) : Option CharSet :=
  match first with
  | .char _ _ => (flags.bracketChar? first).map CharSet.single
  | atom => flags.classOf? atom

/-- The first character of a text, or else the given one. -/
def headOr (other : Option Char) : List Char → Option Char
  | [] => other
  | c :: _ => some c

/-- What stands between brackets from an atom on. -/
def partFrom? (first : Atom) (cs : List Char) : Option (CharSet × List Char) :=
  match flags.skip cs with
  | [] => none
  | '-' :: more =>
    if flags.peek? more = some ']' || flags.peek? more = some '-' then
      (flags.partAlone? first).bind fun set => some (set, '-' :: more)
    else (flags.bracketAtom? (flags.skip more)).bind (flags.rangeTo? first)
  | rest => (flags.partAlone? first).bind fun set => some (set, rest)

theorem bracketPart?_eq (cs : List Char) :
    flags.bracketPart? cs =
      (flags.bracketAtom? cs).bind fun found => flags.partFrom? found.1 found.2 := rfl

theorem partFrom?_look (look : Look) (cs : List Char) : flags.partFrom? (.look look) cs = none := by
  have range : flags.rangeTo? (.look look) = fun _ => none := rfl
  have single : flags.partAlone? (.look look) = none := rfl
  simp only [partFrom?, range, single, Option.bind_none, Option.bind_fun_none, ite_self]
  split <;> rfl

/-- What follows the opening of a bracket inside brackets. -/
def readOpened? (fuel : Nat) (b : OpenBracket) (outer : List OpenBracket) (cs : List Char) :
    Option (CharSet × List Char) :=
  match asciiClass? cs with
  | some (cls, negated, after) =>
    (flags.negate? negated (flags.closeCase (.ascii cls))).bind fun set =>
      flags.readBrackets? fuel (b.add set) outer after
  | none =>
    (flags.openBracket? cs).bind fun found =>
      flags.readBrackets? fuel found.1 (b :: outer) found.2

/-- What follows the closing of a bracket. -/
def readClosed? (fuel : Nat) (b : OpenBracket) (outer : List OpenBracket) (cs : List Char) :
    Option (CharSet × List Char) :=
  (b.close? flags).bind fun set =>
    match outer with
    | [] => some (set, cs)
    | parent :: others => flags.readBrackets? fuel (parent.add set) others cs

/-- A part between brackets and what follows it. -/
def readPart? (fuel : Nat) (b : OpenBracket) (outer : List OpenBracket) (cs : List Char) :
    Option (CharSet × List Char) :=
  (flags.bracketPart? cs).bind fun found =>
    flags.readBrackets? fuel (b.add found.1) outer found.2

/-- The operator that the text begins with. -/
def operator? : List Char → Option (ClassOp × List Char)
  | '&' :: '&' :: rest => some (.inter, rest)
  | '-' :: '-' :: rest => some (.diff, rest)
  | '~' :: '~' :: rest => some (.symDiff, rest)
  | _ => none

/-- What stands between brackets other than a bracket. -/
def readInner? (fuel : Nat) (b : OpenBracket) (outer : List OpenBracket) (cs : List Char) :
    Option (CharSet × List Char) :=
  match operator? cs with
  | some (op, rest) => flags.readBrackets? fuel (b.startOp flags op) outer rest
  | none => flags.readPart? fuel b outer cs

theorem readBrackets?_succ (fuel : Nat) (b : OpenBracket) (outer : List OpenBracket)
    (cs : List Char) :
    flags.readBrackets? (fuel + 1) b outer cs =
      match flags.skip cs with
      | [] => none
      | '[' :: rest => flags.readOpened? fuel b outer rest
      | ']' :: rest => flags.readClosed? fuel b outer rest
      | start => flags.readInner? fuel b outer start := by
  rw [readBrackets?]
  generalize flags.skip cs = start
  split
  · rfl
  · rfl
  · rfl
  · rfl
  · rfl
  · rfl
  · have plain : operator? start = none := by
      unfold operator?
      split
      · simp_all
      · simp_all
      · simp_all
      · rfl
    split
    · simp_all
    · simp_all
    · simp_all
    · rw [readInner?, plain]
      rfl

end Flags

end PathRouting.Regex

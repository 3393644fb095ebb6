import PathRouting.Regex.Escape

/-!
Bracketed classes of regular expressions, such as `[a-z&&[^aeiou]]`. Inside brackets stand
characters, ranges, classes and further brackets, which are united, and the operations `&&`, `--`
and `~~` between such unions, all of the same strength and taken from the left.

Reading is a machine over the open brackets; each step takes at least one character, so it ends
within as many steps as there are characters.
-/

namespace PathRouting.Regex

open PathRouting.Unicode

/-- The operations between parts of a bracketed class. -/
inductive ClassOp where
  | inter
  | diff
  | symDiff
  deriving DecidableEq, Repr

/-- The set that an operation makes of two sets. -/
def ClassOp.apply : ClassOp → CharSet → CharSet → CharSet
  | .inter, a, b => .inter a b
  | .diff, a, b => .diff a b
  | .symDiff, a, b => .symDiff a b

/-- A bracket that is open: whether it is negated, the operation whose right side is being read with
its left side, and the parts read so far, last first. -/
structure OpenBracket where
  negated : Bool
  pending : Option (ClassOp × CharSet) := none
  parts : List CharSet := []

/-- The bracket with another part. -/
def OpenBracket.add (b : OpenBracket) (part : CharSet) : OpenBracket :=
  { b with parts := part :: b.parts }

/-- What has been read between the brackets, pending operation included. -/
def OpenBracket.content (flags : Flags) (b : OpenBracket) : CharSet :=
  let last := CharSet.unionOf b.parts.reverse
  match b.pending with
  | none => last
  | some (op, left) => op.apply (flags.closeCase left) (flags.closeCase last)

/-- The bracket after an operator: what was read is its left side. -/
def OpenBracket.startOp (flags : Flags) (b : OpenBracket) (op : ClassOp) : OpenBracket :=
  { b with pending := some (op, b.content flags), parts := [] }

/-- The set of a bracket that is closed. -/
def OpenBracket.close? (flags : Flags) (b : OpenBracket) : Option CharSet :=
  (flags.negate? b.negated (flags.closeCase (b.content flags))).map .bracketed

/-- The bracket opened before the given text. Dashes at the start stand for themselves, and so does
a closing bracket that comes first. -/
def Flags.openBracket? (flags : Flags) (cs : List Char) : Option (OpenBracket × List Char) := do
  let start := flags.skip cs
  let (negated, start) ← match start with
    | [] => none
    | '^' :: rest => some (true, flags.skip rest)
    | cs => some (false, cs)
  let (dashes, start) := flags.span (· = '-') start.length start
  let bracket : OpenBracket := ⟨negated, none, dashes.map CharSet.single⟩
  match start with
  | [] => none
  | ']' :: rest =>
    if dashes.isEmpty then
      let rest := flags.skip rest
      if rest.isEmpty then none else some (bracket.add (.single ']'), rest)
    else some (bracket, start)
  | _ => some (bracket, start)

/-- A named class of ASCII characters, given the text after its first bracket: `:alpha:]` or
`:^alpha:]`. -/
def asciiClass? (cs : List Char) : Option (AsciiClass × Bool × List Char) :=
  match cs with
  | ':' :: rest =>
    let (negated, rest) := match rest with
      | '^' :: rest => (true, rest)
      | rest => (false, rest)
    match rest.dropWhile (· ≠ ':') with
    | ':' :: ']' :: after =>
      (AsciiClass.ofName? (String.ofList (rest.takeWhile (· ≠ ':')))).map fun cls =>
        (cls, negated, after)
    | _ => none
  | _ => none

/-- What a character of the text or an escape stands for between brackets. -/
def Flags.bracketAtom? (flags : Flags) : List Char → Option (Atom × List Char)
  | [] => none
  | '\\' :: rest => flags.escape? rest
  | c :: rest => some (.char c false, rest)

/-- The character of an atom between brackets. Outside Unicode mode it has to be ASCII. -/
def Flags.bracketChar? (flags : Flags) : Atom → Option Char
  | .char c _ => if flags.unicode || c.toNat < 128 then some c else none
  | _ => none

/-- The character that comes next after blanks and comments, as far as a dash looks ahead: after a
comment sign it sees the first character that is not blank. -/
def Flags.peek? (flags : Flags) (cs : List Char) : Option Char :=
  if flags.verbose then
    match cs.dropWhile isBlank with
    | [] => cs.head?
    | '#' :: rest =>
      match rest.dropWhile isBlank with
      | [] => cs.head?
      | c :: _ => some c
    | c :: _ => some c
  else cs.head?

/-- A character, a range or a class between brackets. -/
def Flags.bracketPart? (flags : Flags) (cs : List Char) : Option (CharSet × List Char) := do
  let (first, rest) ← flags.bracketAtom? cs
  let alone := match first with
    | .char _ _ => (flags.bracketChar? first).map CharSet.single
    | atom => flags.classOf? atom
  match flags.skip rest with
  | [] => none
  | '-' :: more =>
    if flags.peek? more = some ']' || flags.peek? more = some '-' then
      some (← alone, '-' :: more)
    else
      let (last, after) ← flags.bracketAtom? (flags.skip more)
      let low ← flags.bracketChar? first
      let high ← flags.bracketChar? last
      if low ≤ high then some (.range low high, after) else none
  | rest => some (← alone, rest)

/-- The set of the brackets that are open, innermost first, and the text after the last closing
bracket. -/
def Flags.readBrackets? (flags : Flags) :
    (fuel : Nat) → OpenBracket → List OpenBracket → List Char → Option (CharSet × List Char)
  | 0, _, _, _ => none
  | fuel + 1, b, outer, cs =>
    match flags.skip cs with
    | [] => none
    | '[' :: rest =>
      match asciiClass? rest with
      | some (cls, negated, after) => do
        let set ← flags.negate? negated (flags.closeCase (.ascii cls))
        flags.readBrackets? fuel (b.add set) outer after
      | none => do
        let (inner, after) ← flags.openBracket? rest
        flags.readBrackets? fuel inner (b :: outer) after
    | ']' :: rest => do
      let set ← b.close? flags
      match outer with
      | [] => some (set, rest)
      | parent :: others => flags.readBrackets? fuel (parent.add set) others rest
    | '&' :: '&' :: rest => flags.readBrackets? fuel (b.startOp flags .inter) outer rest
    | '-' :: '-' :: rest => flags.readBrackets? fuel (b.startOp flags .diff) outer rest
    | '~' :: '~' :: rest => flags.readBrackets? fuel (b.startOp flags .symDiff) outer rest
    | rest => do
      let (part, after) ← flags.bracketPart? rest
      flags.readBrackets? fuel (b.add part) outer after

/-- The set of a bracketed class, given the text after its first bracket. -/
def Flags.bracketSet? (flags : Flags) (cs : List Char) : Option (CharSet × List Char) := do
  let (b, rest) ← flags.openBracket? cs
  flags.readBrackets? (rest.length + 1) b [] rest

end PathRouting.Regex

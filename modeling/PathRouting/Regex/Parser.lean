import PathRouting.Regex.Bracket
import PathRouting.Regex.Size

/-!
Regular expressions from text. Reading is a machine over the open groups: each step takes at least
one character, so it ends within as many steps as there are characters.

The public function is `Tree.parse`. An expression that nests deeper than `depthLimit` is malformed,
and one that the size limit does not allow is too large.
-/

namespace PathRouting.Regex

open PathRouting.Unicode

/-- What has been read of one group: the alternatives that are complete and the parts of the one
being read, both last first. -/
structure Branches where
  finished : List Tree := []
  parts : List Tree := []

/-- The alternatives with another part at the end. -/
def Branches.add (b : Branches) (part : Tree) : Branches :=
  { b with parts := part :: b.parts }

/-- The alternatives once the one being read is complete. -/
def Branches.next (b : Branches) : Branches :=
  ⟨Tree.seqOf b.parts.reverse :: b.finished, []⟩

/-- The tree of the alternatives. -/
def Branches.tree (b : Branches) : Tree :=
  .altOf b.next.finished.reverse

/-- A group that is open: what stood before it, the flags to go back to, and whether it captures. -/
structure OpenGroup where
  before : Branches
  flags : Flags
  capturing : Bool

/-- What the machine holds: the flags in force, the groups that are open, innermost first, what has
been read inside them, and the names of groups so far. -/
structure State where
  flags : Flags := {}
  outer : List OpenGroup := []
  branches : Branches := {}
  names : List (List Char) := []

/-- The state with another part. -/
def State.add (s : State) (part : Tree) : State :=
  { s with branches := s.branches.add part }

/-! ### Single parts -/

/-- The set for one character that stands for itself. -/
def Flags.charSet? (flags : Flags) (c : Char) (asByte : Bool) : Option CharSet :=
  if !flags.unicode && asByte && c.toNat ≥ 128 then none
  else some (flags.closeCase (.single c))

/-- The part that an atom outside brackets stands for. -/
def Flags.part? (flags : Flags) (atom : Atom) : Option Tree :=
  match atom with
  | .char c asByte => (flags.charSet? c asByte).map .set
  | .look assertion => some (.look assertion)
  | atom => (flags.classOf? atom).map .set

/-- The characters that a dot stands for. -/
def Flags.dot? (flags : Flags) : Option Tree :=
  if !flags.unicode then none
  else if flags.dotAll then some (.set .all)
  else if flags.crlf then some (.set (.compl (.union (.single '\r') (.single '\n'))))
  else some (.set (.compl (.single '\n')))

/-- What `^` asserts. -/
def Flags.caret (flags : Flags) : Look :=
  if !flags.multiLine then .textStart else if flags.crlf then .crlfLineStart else .lineStart

/-- What `$` asserts. -/
def Flags.dollar (flags : Flags) : Look :=
  if !flags.multiLine then .textEnd else if flags.crlf then .crlfLineEnd else .lineEnd

/-! ### Repetition -/

/-- The greatest count of a repetition. -/
def countLimit : Nat := 4294967295

/-- A count in decimal, with blanks around it allowed. -/
def Flags.count? (flags : Flags) (cs : List Char) : Option (Nat × List Char) := do
  let start := cs.dropWhile isBlank
  let (digits, rest) := flags.span Char.isDigit start.length start
  let n ← Text.readDigits? digits
  if n ≤ countLimit then some (n, rest.dropWhile isBlank) else none

/-- The bounds of a counted repetition and the rest, given the text after the opening brace. -/
def Flags.counts? (flags : Flags) (cs : List Char) : Option (Nat × Option Nat × List Char) := do
  let (least, rest) ← flags.count? (flags.skip cs)
  match rest with
  | '\x7d' :: after => some (least, some least, after)
  | ',' :: more =>
    match flags.skip more with
    | '\x7d' :: after => some (least, none, after)
    | more =>
      let (most, rest) ← flags.count? more
      match rest with
      | '\x7d' :: after => if least ≤ most then some (least, some most, after) else none
      | _ => none
  | _ => none

/-- The state with its last part repeated. There must be one, and a change of flags is none. -/
def State.repeatLast? (s : State) (least : Nat) (most : Option Nat) : Option State :=
  match s.branches.parts with
  | [] | .mode :: _ => none
  | part :: others =>
    some { s with branches := { s.branches with parts := .repeated part least most :: others } }

/-- The rest without a question mark that makes the repetition before it lazy. -/
def dropLazy : List Char → List Char
  | '?' :: rest => rest
  | cs => cs

/-! ### Groups -/

/-- Whether a character may stand in the name of a group, at its start or later. -/
def isNameChar (first : Bool) (c : Char) : Bool :=
  if first then c = '_' || isAlphabetic c
  else c = '_' || c = '.' || c = '[' || c = ']' || isAlphanumeric c

/-- The name of a group and the text after the closing angle bracket. -/
def groupName? (cs : List Char) : Option (List Char × List Char) :=
  match cs.takeWhile (· ≠ '>'), cs.dropWhile (· ≠ '>') with
  | c :: more, _ :: rest =>
    if isNameChar true c && more.all (isNameChar false) then some (c :: more, rest) else none
  | _, _ => none

/-- Changes of flags up to `:` or `)`: the flags, the letters and dashes seen, the character that
ended them and the rest. No letter may come twice, there is at most one dash, and it is not last. -/
def readFlags? (flags : Flags) (on : Bool) (seen : List Char) :
    List Char → Option (Flags × List Char × Char × List Char)
  | [] => none
  | c :: rest =>
    if c = ':' || c = ')' then
      if seen.head? = some '-' then none else some (flags, seen, c, rest)
    else if c ∈ seen then none
    else if c = '-' then readFlags? flags false (c :: seen) rest
    else
      match flags.turn c on with
      | some flags => readFlags? flags on (c :: seen) rest
      | none => none

/-- The state inside a new group. -/
def State.open (s : State) (capturing : Bool) (inside : Flags) (names : List (List Char)) : State :=
  ⟨inside, ⟨s.branches, s.flags, capturing⟩ :: s.outer, {}, names⟩

/-- The state after an opening parenthesis and what belongs to it. Assertions about what stands
before or after a position are refused. -/
def State.openGroup? (s : State) (cs : List Char) : Option (State × List Char) :=
  let named := fun (cs : List Char) => do
    let (name, rest) ← groupName? cs
    if name ∈ s.names then none else some (s.open true s.flags (name :: s.names), rest)
  match s.flags.skip cs with
  | '?' :: '=' :: _ | '?' :: '!' :: _ | '?' :: '<' :: '=' :: _ | '?' :: '<' :: '!' :: _ => none
  | '?' :: 'P' :: '<' :: rest | '?' :: '<' :: rest => named rest
  | '?' :: rest => do
    let (flags, seen, stop, rest) ← readFlags? s.flags true [] rest
    if stop = ':' then some (s.open false flags s.names, rest)
    else if seen.isEmpty then none
    else some ({ s.add .mode with flags := flags }, rest)
  | rest => some (s.open true s.flags s.names, rest)

/-- The state after a closing parenthesis. -/
def State.closeGroup? (s : State) : Option State :=
  match s.outer with
  | [] => none
  | g :: outer =>
    some ⟨g.flags, outer, g.before.add (.group g.capturing s.branches.tree), s.names⟩

/-! ### The machine -/

/-- The state after the next character and what belongs to it, and the rest of the text. -/
def State.step? (s : State) (c : Char) (rest : List Char) : Option (State × List Char) :=
  match c with
  | '(' => s.openGroup? rest
  | ')' => s.closeGroup?.map (·, rest)
  | '|' => some ({ s with branches := s.branches.next }, rest)
  | '[' => (s.flags.bracketSet? rest).map fun found => (s.add (.set found.1), found.2)
  | '?' => (s.repeatLast? 0 (some 1)).map (·, dropLazy rest)
  | '*' => (s.repeatLast? 0 none).map (·, dropLazy rest)
  | '+' => (s.repeatLast? 1 none).map (·, dropLazy rest)
  | '\x7b' => do
    let (least, most, after) ← s.flags.counts? rest
    let next ← s.repeatLast? least most
    some (next, dropLazy (s.flags.skip after))
  | '\\' => do
    let (atom, after) ← s.flags.escape? rest
    some (s.add (← s.flags.part? atom), after)
  | '.' => s.flags.dot?.map fun part => (s.add part, rest)
  | '^' => some (s.add (.look s.flags.caret), rest)
  | '$' => some (s.add (.look s.flags.dollar), rest)
  | c => (s.flags.part? (.char c false)).map fun part => (s.add part, rest)

/-- The state at the end of the text. -/
def State.run? : (fuel : Nat) → State → List Char → Option State
  | 0, _, _ => none
  | fuel + 1, s, cs =>
    match s.flags.skip cs with
    | [] => some s
    | c :: rest =>
      match s.step? c rest with
      | some (next, after) => State.run? fuel next after
      | none => none

/-- The tree that a text writes, whatever its depth and size. -/
def Tree.read? (cs : List Char) : Option Tree := do
  let s ← State.run? (cs.length + 1) {} cs
  if s.outer.isEmpty then some s.branches.tree else none

/-- The deepest nesting of an expression. -/
def depthLimit : Nat := 250

/-- The tree that a text writes. -/
def Tree.parse (s : String) (limit : SizeLimit := .standard) : Except Fault Tree :=
  match Tree.read? s.toList with
  | none => .error .malformed
  | some tree =>
    if depthLimit < tree.depth then .error .malformed
    else if limit.allows tree then .ok tree
    else .error (.tooLarge limit.bytes)

end PathRouting.Regex

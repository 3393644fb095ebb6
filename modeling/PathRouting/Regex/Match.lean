import PathRouting.Regex.Basic

/-!
Where a regular expression matches in a text. Positions are counted in characters from the start of
the text, and a set of positions is a natural number whose bit `i` says whether position `i` belongs
to the set. From a set of starting positions an expression leads to the set of positions where a
match from one of them ends. This takes polynomial time for every expression.
-/

namespace PathRouting.Regex

open PathRouting.Unicode

/-- The positions in front of a character that belongs to the set. -/
def CharSet.positions (of : CharSet) : List Char → Nat
  | [] => 0
  | c :: rest => (if of.contains c then 1 else 0) + 2 * of.positions rest

/-- Whether the character, if there is one, belongs to a word. -/
def inWord (unicode : Bool) (c : Option Char) : Bool :=
  c.any fun c => Shorthand.word.contains unicode c

/-- Whether the assertion holds between a character before and a character after. -/
def Look.holds (look : Look) (before after : Option Char) : Bool :=
  match look with
  | .textStart => before.isNone
  | .textEnd => after.isNone
  | .lineStart => before.isNone || before = some '\n'
  | .lineEnd => after.isNone || after = some '\n'
  | .crlfLineStart =>
    before.isNone || before = some '\n' || (before = some '\r' && after ≠ some '\n')
  | .crlfLineEnd =>
    after.isNone || after = some '\r' || (after = some '\n' && before ≠ some '\r')
  | .word edge unicode =>
    let left := inWord unicode before
    let right := inWord unicode after
    match edge with
    | .boundary => left != right
    | .interior => left == right
    | .start => !left && right
    | .stop => left && !right
    | .startHalf => !left
    | .stopHalf => !right

/-- The positions where the assertion holds in a text that follows the character `before`. -/
def Look.positions (look : Look) (before : Option Char) : List Char → Nat
  | [] => if look.holds before none then 1 else 0
  | c :: rest =>
    (if look.holds before (some c) then 1 else 0) + 2 * look.positions (some c) rest

/-! ### Plans -/

/-- What an expression does in one text. Sets of characters and assertions are given by the
positions where they hold, which are found once for each of them, however often they are then tried.
A repeated plan is carried out at least `least` times and at most `extra` times more. -/
inductive Plan where
  | stay
  | step (positions : Nat)
  | check (positions : Nat)
  | repeated (inner : Plan) (least extra : Nat)
  | seq (a b : Plan)
  | alt (a b : Plan)
  deriving DecidableEq, Repr

/-- What the expression does in a text. Without an upper bound, one more repetition than there are
characters reaches all that can be reached. -/
def Tree.plan (text : List Char) : Tree → Plan
  | empty => .stay
  | mode => .stay
  | set of => .step (of.positions text)
  | look assertion => .check (assertion.positions none text)
  | group _ inner => inner.plan text
  | repeated inner least (some most) => .repeated (inner.plan text) least (most - least)
  | repeated inner least none => .repeated (inner.plan text) least (text.length + 1)
  | seq a b => .seq (a.plan text) (b.plan text)
  | alt a b => .alt (a.plan text) (b.plan text)

/-- The set after a number of rounds. It stops early once a round changes nothing. -/
def afterRounds (round : Nat → Nat) : Nat → Nat → Nat
  | 0, s => s
  | n + 1, s =>
    let next := round s
    if next = s then s else afterRounds round n next

/-- The union of the sets after at most the given number of rounds. It stops early once a round adds
nothing. -/
def withinRounds (round : Nat → Nat) : Nat → Nat → Nat
  | 0, s => s
  | n + 1, s =>
    let more := s ||| round s
    if more = s then s else withinRounds round n more

/-- The positions that the plan leads to from one of the given positions. -/
def Plan.ends : Plan → Nat → Nat
  | stay, s => s
  | step positions, s => (s &&& positions) <<< 1
  | check positions, s => s &&& positions
  | repeated inner least extra, s => withinRounds inner.ends extra (afterRounds inner.ends least s)
  | seq a b, s => b.ends (a.ends s)
  | alt a b, s => a.ends s ||| b.ends s

/-! ### Matches -/

/-- The positions where a match ends that starts at one of the given positions. -/
def Tree.ends (text : List Char) (tree : Tree) (s : Nat) : Nat :=
  (tree.plan text).ends s

/-- Whether some part of the text matches. -/
def Tree.isMatch (tree : Tree) (text : List Char) : Bool :=
  tree.ends text (1 <<< (text.length + 1) - 1) != 0

end PathRouting.Regex

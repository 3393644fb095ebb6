import PathRouting.Regex.CharSet

/-!
Regular expressions as trees, with all flags resolved: every set of characters and every assertion
says by itself what it accepts.
-/

namespace PathRouting.Regex

/-- The edges of words. An edge is a `boundary` when exactly one side of it is in a word; the halves
look at one side only. -/
inductive WordEdge where
  | boundary
  | interior
  | start
  | stop
  | startHalf
  | stopHalf
  deriving DecidableEq, Repr

/-- Assertions about a position between characters. -/
inductive Look where
  | textStart
  | textEnd
  | lineStart
  | lineEnd
  | crlfLineStart
  | crlfLineEnd
  | word (edge : WordEdge) (unicode : Bool)
  deriving DecidableEq, Repr

/-- A regular expression. `mode` stands where flags change in the middle of an expression; it
matches the empty text. Sequences and alternations lean to the left. -/
inductive Tree where
  | empty
  | mode
  | set (of : CharSet)
  | look (assertion : Look)
  | group (capturing : Bool) (inner : Tree)
  | repeated (inner : Tree) (least : Nat) (most : Option Nat)
  | seq (a b : Tree)
  | alt (a b : Tree)
  deriving DecidableEq, Repr

namespace Tree

/-- The parts one after the other. -/
def seqOf : List Tree → Tree
  | [] => empty
  | a :: rest => rest.foldl seq a

/-- The parts as alternatives. -/
def altOf : List Tree → Tree
  | [] => empty
  | a :: rest => rest.foldl alt a

/-- Whether the tree is a sequence of several parts. -/
def isSeq : Tree → Bool
  | seq _ _ => true
  | _ => false

/-- Whether the tree is an alternation of several parts. -/
def isAlt : Tree → Bool
  | alt _ _ => true
  | _ => false

/-- How deep brackets, groups, repetitions, sequences and alternations nest. -/
def depth : Tree → Nat
  | set of => of.depth
  | group _ inner => inner.depth + 1
  | repeated inner _ _ => inner.depth + 1
  | seq a b => max (if a.isSeq then a.depth else a.depth + 1) (b.depth + 1)
  | alt a b => max (if a.isAlt then a.depth else a.depth + 1) (b.depth + 1)
  | _ => 0

end Tree

end PathRouting.Regex

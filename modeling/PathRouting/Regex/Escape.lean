import PathRouting.Regex.Basic
import PathRouting.Regex.Fault
import PathRouting.Text.Integer

/-!
Flags and escapes of regular expressions.

A reader takes the rest of an expression and gives what it read and the rest after it. Where the
flag for verbose mode is on, blanks and comments between the parts of an escape are passed over.
-/

namespace PathRouting.Regex

open PathRouting.Unicode

/-! ### Flags -/

/-- The flags that change what an expression means. -/
structure Flags where
  anyCase : Bool := false
  multiLine : Bool := false
  dotAll : Bool := false
  unicode : Bool := true
  crlf : Bool := false
  verbose : Bool := false
  deriving DecidableEq, Repr

/-- The flags with the one of the given letter turned on or off. The flag `U` exchanges greedy and
lazy repetition, which does not change whether there is a match. -/
def Flags.turn (flags : Flags) (letter : Char) (on : Bool) : Option Flags :=
  match letter with
  | 'i' => some { flags with anyCase := on }
  | 'm' => some { flags with multiLine := on }
  | 's' => some { flags with dotAll := on }
  | 'u' => some { flags with unicode := on }
  | 'R' => some { flags with crlf := on }
  | 'x' => some { flags with verbose := on }
  | 'U' => some flags
  | _ => none

/-- The text from its first character that is neither blank nor in a comment. A comment goes from
`#` to the end of the line. -/
def dropVerbose (inComment : Bool) : List Char → List Char
  | [] => []
  | c :: rest =>
    if inComment then dropVerbose (c ≠ '\n') rest
    else if isBlank c then dropVerbose false rest
    else if c = '#' then dropVerbose true rest
    else c :: rest

/-- The text from where reading goes on: in verbose mode blanks and comments are passed over. -/
def Flags.skip (flags : Flags) (cs : List Char) : List Char :=
  if flags.verbose then dropVerbose false cs else cs

/-- The longest beginning of characters with the property, blanks and comments passed over, and the
rest. -/
def Flags.span (flags : Flags) (p : Char → Bool) (fuel : Nat) (cs : List Char) :
    List Char × List Char :=
  match fuel, cs with
  | fuel + 1, c :: rest =>
    if p c then
      let found := flags.span p fuel (flags.skip rest)
      (c :: found.1, found.2)
    else ([], c :: rest)
  | _, cs => ([], cs)

/-! ### Escapes -/

/-- What a single character or an escape stands for. A character written with exactly two
hexadecimal digits is a byte where Unicode mode is off. -/
inductive Atom where
  | char (c : Char) (asByte : Bool)
  | shorthand (of : Shorthand) (negated : Bool)
  | property (of : Property) (negated : Bool)
  | unknownProperty
  | look (assertion : Look)
  deriving DecidableEq, Repr

/-- The value of a hexadecimal digit of either case. -/
def hexDigit? (c : Char) : Option Nat :=
  if c.isDigit then some (c.toNat - 48)
  else if 'a' ≤ c ∧ c ≤ 'f' then some (c.toNat - 87)
  else if 'A' ≤ c ∧ c ≤ 'F' then some (c.toNat - 55)
  else none

/-- The character with a number written in hexadecimal. -/
def charOfHex? (digits : List Char) : Option Char := do
  let values ← digits.mapM hexDigit?
  let n := values.foldl (fun n d => 16 * n + d) 0
  if !digits.isEmpty && (n < 0xd800 || (0xdfff < n && n < 0x110000)) then some (Char.ofNat n)
  else none

/-- The given number of characters, blanks and comments passed over after each. -/
def Flags.take? (flags : Flags) : Nat → List Char → Option (List Char × List Char)
  | 0, cs => some ([], cs)
  | _ + 1, [] => none
  | n + 1, c :: rest => do
    let (more, after) ← flags.take? n (flags.skip rest)
    some (c :: more, after)

/-- What stands up to the closing brace, and what follows it. -/
def Flags.braced? (flags : Flags) (cs : List Char) : Option (List Char × List Char) :=
  match flags.span (· ≠ '\x7d') cs.length (flags.skip cs) with
  | (inside, _ :: rest) => some (inside, rest)
  | (_, []) => none

/-- A character by its number, with a fixed count of digits or in braces. -/
def Flags.hexAtom? (flags : Flags) (digits : Nat) (cs : List Char) :
    Option (Atom × List Char) := do
  match flags.skip cs with
  | '\x7b' :: rest =>
    let (inside, after) ← flags.braced? rest
    some (.char (← charOfHex? inside) false, after)
  | cs =>
    let (inside, after) ← flags.take? digits cs
    some (.char (← charOfHex? inside) (digits = 2), after)

/-- The position of the first occurrence of a text in another. -/
def indexOf? (part : List Char) : List Char → Option Nat
  | [] => if part.isEmpty then some 0 else none
  | c :: rest =>
    if part.isPrefixOf (c :: rest) then some 0 else (indexOf? part rest).map (· + 1)

/-- A class of characters by the name of a property: one letter, or a name or a name and a value in
braces. `!=` between name and value negates. -/
def Flags.propertyAtom? (flags : Flags) (negated : Bool) (cs : List Char) :
    Option (Atom × List Char) := do
  let atom := fun (p : Option Property) (negated : Bool) =>
    match p with
    | some p => Atom.property p negated
    | none => .unknownProperty
  match flags.skip cs with
  | [] => none
  | '\x7b' :: rest =>
    let (inside, after) ← flags.braced? rest
    let split := fun (i n : Nat) => Property.ofNameAndValue? (inside.take i) (inside.drop (i + n))
    match indexOf? ['!', '='] inside with
    | some i => some (atom (split i 2) !negated, after)
    | none =>
      match indexOf? [':'] inside with
      | some i => some (atom (split i 1) negated, after)
      | none =>
        match indexOf? ['='] inside with
        | some i => some (atom (split i 1) negated, after)
        | none => some (atom (Property.ofName? inside) negated, after)
  | c :: rest => if c = '\\' then none else some (atom (Property.ofName? [c]) negated, rest)

/-- The word edge that a name in braces after `\b` stands for. The outer option says whether the
text is well formed; without a name the brace belongs to a repetition. -/
def Flags.wordEdge? (flags : Flags) (cs : List Char) : Option (WordEdge × List Char) :=
  match cs with
  | '\x7b' :: rest =>
    let inside := flags.skip rest
    let named := fun (c : Char) => c.isAlpha || c = '-'
    match inside with
    | [] => none
    | c :: _ =>
      if named c then
        match flags.span named inside.length inside with
        | (name, '\x7d' :: after) =>
          match String.ofList name with
          | "start" => some (.start, after)
          | "end" => some (.stop, after)
          | "start-half" => some (.startHalf, after)
          | "end-half" => some (.stopHalf, after)
          | _ => none
        | _ => none
      else some (.boundary, cs)
  | _ => some (.boundary, cs)

/-- Whether a character may be escaped to stand for itself: ASCII characters other than letters,
digits and angle brackets. -/
def isEscapable (c : Char) : Bool :=
  c.toNat < 128 && !c.isAlphanum && c ≠ '<' && c ≠ '>'

/-- What a backslash and the following text stand for. -/
def Flags.escape? (flags : Flags) (cs : List Char) : Option (Atom × List Char) :=
  match cs with
  | [] => none
  | c :: rest =>
    let plain := fun (c : Char) => some (Atom.char c false, rest)
    let word := fun (edge : WordEdge) => Atom.look (.word edge flags.unicode)
    match c with
    | 'x' => flags.hexAtom? 2 rest
    | 'u' => flags.hexAtom? 4 rest
    | 'U' => flags.hexAtom? 8 rest
    | 'p' => flags.propertyAtom? false rest
    | 'P' => flags.propertyAtom? true rest
    | 'd' => some (.shorthand .digit false, rest)
    | 's' => some (.shorthand .space false, rest)
    | 'w' => some (.shorthand .word false, rest)
    | 'D' => some (.shorthand .digit true, rest)
    | 'S' => some (.shorthand .space true, rest)
    | 'W' => some (.shorthand .word true, rest)
    | 'a' => plain '\x07'
    | 'f' => plain '\x0c'
    | 't' => plain '\t'
    | 'n' => plain '\n'
    | 'r' => plain '\r'
    | 'v' => plain '\x0b'
    | 'A' => some (.look .textStart, rest)
    | 'z' => some (.look .textEnd, rest)
    | 'b' => (flags.wordEdge? rest).map fun found => (word found.1, found.2)
    | 'B' => some (word .interior, rest)
    | '<' => some (word .start, rest)
    | '>' => some (word .stop, rest)
    | c => if isEscapable c then plain c else none

/-! ### Sets of characters -/

/-- The set closed under case, where case does not count. -/
def Flags.closeCase (flags : Flags) (set : CharSet) : CharSet :=
  if flags.anyCase then .anyCase flags.unicode set else set

/-- The set or what is outside it. Outside Unicode mode nothing may be negated, because the
complement of a set of bytes holds bytes that are no characters. -/
def Flags.negate? (flags : Flags) (negated : Bool) (set : CharSet) : Option CharSet :=
  if !negated then some set else if flags.unicode then some (.compl set) else none

/-- The set of characters that a class escape stands for. Properties need Unicode mode. -/
def Flags.classOf? (flags : Flags) : Atom → Option CharSet
  | .shorthand of negated => flags.negate? negated (.shorthand of flags.unicode)
  | .property of negated =>
    if flags.unicode then flags.negate? negated (flags.closeCase (.property of)) else none
  | _ => none

end PathRouting.Regex

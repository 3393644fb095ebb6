/-!
Tokens of path templates such as `/pages/:id(/:title)?`. Reading only classifies characters: whether
groups balance, names are unique and `?` stands in a sensible place is decided later.

A token is the longest one that starts where the token before it ends, so the tokens cover the
template without gaps.
-/

namespace PathRouting.Template

/-- A token. A capture may have an empty name; a splat without a name has the name `splat`. -/
inductive Token where
  | literal (text : String)
  | capture (name : String)
  | splat (name : String)
  | groupOpen
  | groupClose
  | optional
  deriving DecidableEq, Repr

/-- A token and the byte it starts at. -/
structure Lexeme where
  offset : Nat
  token : Token
  deriving DecidableEq, Repr

/-- The name of a splat that is written without one. -/
def defaultSplatName : String := "splat"

/-- Whether a name may start with the character: an ASCII letter or an underscore. -/
def isNameStart (c : Char) : Bool :=
  c.isAlpha || c = '_'

/-- Whether a name may go on with the character: an ASCII letter or digit or an underscore. -/
def isNameRest (c : Char) : Bool :=
  c.isAlphanum || c = '_'

/-- Whether the character has a meaning of its own and ends plain text. -/
def isSpecial (c : Char) : Bool :=
  c = ':' || c = '*' || c = '(' || c = ')' || c = '?'

/-- The name at the start of a text, empty if there is none, and the rest. -/
def readName : List Char → List Char × List Char
  | [] => ([], [])
  | c :: rest =>
    if isNameStart c then (c :: rest.takeWhile isNameRest, rest.dropWhile isNameRest)
    else ([], c :: rest)

/-- The plain text at the start of a text, and the rest. A backslash makes the next character plain,
and is plain itself at the very end. -/
def readText : List Char → List Char × List Char
  | [] => ([], [])
  | '\\' :: c :: rest => ((c :: (readText rest).1), (readText rest).2)
  | c :: rest =>
    if isSpecial c then ([], c :: rest) else (c :: (readText rest).1, (readText rest).2)

/-- The token at the start of a text, and the rest. -/
def readToken? : List Char → Option (Token × List Char)
  | [] => none
  | ':' :: rest => some (.capture (String.ofList (readName rest).1), (readName rest).2)
  | '*' :: rest =>
    let name := String.ofList (readName rest).1
    some (.splat (if name.isEmpty then defaultSplatName else name), (readName rest).2)
  | '(' :: rest => some (.groupOpen, rest)
  | ')' :: rest => some (.groupClose, rest)
  | '?' :: rest => some (.optional, rest)
  | cs => some (.literal (String.ofList (readText cs).1), (readText cs).2)

/-- The number of bytes of the text in UTF-8. -/
def byteSize (cs : List Char) : Nat :=
  cs.foldr (fun c bytes => c.utf8Size + bytes) 0

theorem byteSize_nil : byteSize [] = 0 := rfl

theorem byteSize_cons (c : Char) (cs : List Char) : byteSize (c :: cs) = c.utf8Size + byteSize cs :=
  rfl

theorem byteSize_append (a b : List Char) : byteSize (a ++ b) = byteSize a + byteSize b := by
  induction a with
  | nil => rw [List.nil_append, byteSize_nil, Nat.zero_add]
  | cons c rest ih => rw [List.cons_append, byteSize_cons, byteSize_cons, ih, Nat.add_assoc]

theorem le_byteSize_append (a b : List Char) : byteSize a ≤ byteSize (a ++ b) := by
  rw [byteSize_append]
  exact Nat.le_add_right _ _

theorem byteSize_pos {cs : List Char} (filled : cs ≠ []) : 0 < byteSize cs := by
  obtain ⟨c, rest, rfl⟩ := List.exists_cons_of_ne_nil filled
  exact Nat.add_pos_left c.utf8Size_pos _

/-- The tokens of a text that starts at the given byte, at most `fuel` of them. -/
def lexemesFrom (offset : Nat) : (fuel : Nat) → List Char → List Lexeme
  | 0, _ => []
  | fuel + 1, cs =>
    match readToken? cs with
    | none => []
    | some (token, rest) =>
      ⟨offset, token⟩ :: lexemesFrom (offset + (byteSize cs - byteSize rest)) fuel rest

/-- The tokens of a template. -/
def tokenize (source : String) : List Lexeme :=
  lexemesFrom 0 source.toList.length source.toList

end PathRouting.Template

import PathRouting.Text.Pieces
import PathRouting.Unicode.Blank
import PathRouting.Unicode.Casing.LowerText
import PathRouting.Unicode.Casing.Upper
import PathRouting.Unicode.DecimalDigit

/-!
Spelling of names and paths at registration: route names are underscored symbols, controller names
are capitalised words joined with `::`, and route paths are cleaned before they are compiled.

Every function on `String` is the function on characters of the same name with `Chars` added.
-/

namespace PathRouting.Naming

open PathRouting.Text PathRouting.Unicode

/-! ### Underscored names -/

/-- The text with `/` for every `::`, taken from the left. -/
def slashScopes : List Char → List Char
  | ':' :: ':' :: rest => '/' :: slashScopes rest
  | c :: rest => c :: slashScopes rest
  | [] => []

/-- The text with `_` between two neighbours wherever `cut` asks for it. `cut` sees the two
neighbours and what follows them. -/
def breakWords (cut : Char → Char → Option Char → Bool) : List Char → List Char
  | c :: d :: rest =>
    if cut c d rest.head? then c :: '_' :: breakWords cut (d :: rest)
    else c :: breakWords cut (d :: rest)
  | cs => cs

/-- An acronym ends before a capital that begins a lower case word: `HTTP|Server`. -/
def acronymEnds (c d : Char) (next : Option Char) : Bool :=
  (c.isUpper || isDecimalDigit c) && d.isUpper && next.any Char.isLower

/-- A word ends where a capital follows a small letter or a digit: `user|Sessions`. -/
def wordEnds (c d : Char) (_next : Option Char) : Bool :=
  (c.isLower || isDecimalDigit c) && d.isUpper

/-- Blanks and dashes separate words as an underscore does. -/
def separator (c : Char) : Char :=
  if isBlank c || c = '-' then '_' else c

/-- The underscored spelling: `::` is written `/`, words are separated with `_`, and all is in lower
case. -/
def underscoreChars (cs : List Char) : List Char :=
  lowerText ((breakWords wordEnds (breakWords acronymEnds (slashScopes cs))).map separator)

@[inherit_doc underscoreChars]
def underscore (s : String) : String :=
  String.ofList (underscoreChars s.toList)

/-! ### Classified names -/

/-- The word with its first character in upper case and the others in lower case. -/
def capitalize : List Char → List Char
  | [] => []
  | c :: rest => upperChar c ++ rest.flatMap lowerChar

/-- The capitalised words of an underscored name, without the underscores. -/
def camelize (cs : List Char) : List Char :=
  (pieces '_' cs).flatMap capitalize

/-- The classified spelling: the underscored spelling with its words capitalised and joined, and
with `::` for `/`. -/
def classifyChars (cs : List Char) : List Char :=
  joinPieces [':', ':'] ((pieces '/' (underscoreChars cs)).map camelize)

@[inherit_doc classifyChars]
def classify (s : String) : String :=
  String.ofList (classifyChars s.toList)

/-! ### Route names -/

/-- The underscored spelling with `_` for `/`, and without underscores at the ends or next to each
other. -/
def routeNameChars (cs : List Char) : List Char :=
  let flat := (underscoreChars cs).map fun c => if c = '/' then '_' else c
  joinPieces ['_'] ((pieces '_' flat).filter fun word => !word.isEmpty)

@[inherit_doc routeNameChars]
def routeName (s : String) : String :=
  String.ofList (routeNameChars s.toList)

/-! ### Paths -/

/-- One step along a path: an empty component and `.` stay, `..` goes back one component (and stays
at the root), anything else goes forward. Components are held last first. -/
def stepInto (visited : List (List Char)) (component : List Char) : List (List Char) :=
  if component.isEmpty || component = ['.'] then visited
  else if component = ['.', '.'] then visited.tail
  else component :: visited

/-- The components that remain of a path once `.` and `..` are resolved. -/
def components (cs : List Char) : List (List Char) :=
  ((pieces '/' cs).foldl stepInto []).reverse

/-- The path with a leading slash, single slashes, no `.` or `..`, and no slash at the end. -/
def cleanPathChars (cs : List Char) : List Char :=
  '/' :: joinPieces ['/'] (components cs)

@[inherit_doc cleanPathChars]
def cleanPath (s : String) : String :=
  String.ofList (cleanPathChars s.toList)

/-- The parts that are present and not empty, with the separator between them. -/
def join (parts : List (Option String)) (sep : String) : String :=
  sep.intercalate ((parts.filterMap id).filter fun part => !part.isEmpty)

end PathRouting.Naming

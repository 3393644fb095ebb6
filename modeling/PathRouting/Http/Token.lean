/-!
Tokens of HTTP: the characters of methods and of header names.
-/

namespace PathRouting.Http

/-- Whether the character may stand in a token: ASCII letters, digits and some punctuation. -/
def isTokenChar (c : Char) : Bool :=
  c.isAlphanum || c ∈ "!#$%&'*+-.^_|~".toList || c = '\x60'

/-- Whether the text is a token: one or more token characters. -/
def isToken (s : String) : Bool :=
  !s.isEmpty && s.toList.all isTokenChar

/-- A request method: any token, with case significant. -/
structure Method where
  text : String
  deriving DecidableEq, Repr

/-- The method with the given text, if it is a token. -/
def Method.ofText? (s : String) : Option Method :=
  if isToken s then some ⟨s⟩ else none

end PathRouting.Http

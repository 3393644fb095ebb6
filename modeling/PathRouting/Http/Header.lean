import PathRouting.Http.Token
import PathRouting.SortedMap

/-!
Header fields. Names are compared without regard to case, and several values of one name keep the
order in which they came.
-/

namespace PathRouting.Http

/-- A header name: a token in lower case. -/
structure HeaderName where
  text : String
  deriving DecidableEq, Repr

/-- The number of bytes that a header name may have. -/
def HeaderName.maxBytes : Nat := 65535

/-- The header name that a text writes in any case. -/
def HeaderName.ofText? (s : String) : Option HeaderName :=
  if isToken s && decide (s.utf8ByteSize ≤ maxBytes) then
    some ⟨String.ofList (s.toList.map Char.toLower)⟩
  else none

/-- Whether the character may stand in a header value: no control character but the tab. -/
def isValueChar (c : Char) : Bool :=
  c = '\t' || (32 ≤ c.toNat && c.toNat ≠ 127)

/-- A header value: a text without control characters. -/
structure HeaderValue where
  text : String
  deriving DecidableEq, Repr

/-- The header value with the given text, if it may stand there. -/
def HeaderValue.ofText? (s : String) : Option HeaderValue :=
  if s.toList.all isValueChar then some ⟨s⟩ else none

/-- The text of a value that consists of visible ASCII characters, blanks and tabs. Other values
have no text that everyone reads in the same way. -/
def HeaderValue.visible? (v : HeaderValue) : Option String :=
  if v.text.toList.all fun c => c = '\t' || (32 ≤ c.toNat && c.toNat < 127) then some v.text
  else none

/-- Header fields: the values of each name, with the names in order. -/
structure Headers where
  fields : SortedMap (List HeaderValue) := {}
  deriving DecidableEq, Repr

namespace Headers

/-- The values of a name in order. -/
def values (h : Headers) (name : HeaderName) : List HeaderValue :=
  (h.fields.get? name.text).getD []

/-- The fields with one value for a name in place of all that it had. -/
def insert (h : Headers) (name : HeaderName) (value : HeaderValue) : Headers :=
  ⟨h.fields.insert name.text [value]⟩

/-- The fields with one more value for a name. -/
def append (h : Headers) (name : HeaderName) (value : HeaderValue) : Headers :=
  ⟨h.fields.insert name.text (h.values name ++ [value])⟩

/-- The fields without a name. -/
def erase (h : Headers) (name : HeaderName) : Headers :=
  ⟨h.fields.erase name.text⟩

/-- Whether the text names a field that is present. -/
def contains (h : Headers) (name : String) : Bool :=
  (HeaderName.ofText? name).any fun n => h.fields.contains n.text

/-- The first value of the field that a text names. -/
def first? (h : Headers) (name : String) : Option HeaderValue :=
  (HeaderName.ofText? name).bind fun n => (h.values n).head?

/-- The text of the first value of a field, if it is visible. -/
def text? (h : Headers) (name : String) : Option String :=
  (h.first? name).bind HeaderValue.visible?

/-- All fields, one for each value. -/
def toList (h : Headers) : List (String × HeaderValue) :=
  h.fields.entries.flatMap fun e => e.2.map fun value => (e.1, value)

end Headers

end PathRouting.Http

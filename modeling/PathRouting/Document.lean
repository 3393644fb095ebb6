/-!
Structured documents: the values that settings and route listings are read from.
-/

namespace PathRouting

/-- A document. -/
inductive Document where
  | null
  | bool (value : Bool)
  | number (value : Int)
  | text (value : String)
  | list (items : List Document)
  | record (fields : List (String × Document))
  deriving Inhabited

namespace Document

/-- The text that the document is. -/
def text? : Document → Option String
  | text value => some value
  | _ => none

/-- The truth value that the document is. -/
def bool? : Document → Option Bool
  | bool value => some value
  | _ => none

/-- The items of a list. -/
def items? : Document → Option (List Document)
  | list items => some items
  | _ => none

/-- What `read` gives for a document that may be absent; an absent one is read as null. -/
def optional? {α : Type} (read : Document → Option α) : Option Document → Option (Option α)
  | none | some null => some none
  | some document => (read document).map some

/-- The values of the named fields. A record gives those that it has, and other fields of it do not
matter; a list gives its items in order, if it has as many. -/
def fields? (names : List String) : Document → Option (List (Option Document))
  | record fields => some (names.map fun name => fields.lookup name)
  | list items => if items.length = names.length then some (items.map some) else none
  | _ => none

end Document

end PathRouting

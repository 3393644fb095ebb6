import PathRouting.OrderedMap
import PathRouting.Text.Form

/-!
Parameters and arguments.

`Params` is what matching gives: every name a template declares, with the text captured for it, or
without one where the name stands in a group that the path leaves out. `Args` is what expansion
takes: keys with one text or a list of texts.
-/

namespace PathRouting

/-- Captured parameters in order of declaration. -/
abbrev Params := OrderedMap String (Option String)

/-- The text captured for a name; none as well where the name is not declared. -/
def Params.value? (params : Params) (name : String) : Option String :=
  (params.get? name).join

/-- A value for path generation. -/
inductive ArgValue where
  | single (text : String)
  | list (texts : List String)
  deriving DecidableEq, Repr

/-- A single text as it is, and a list with slashes between its texts. -/
def ArgValue.joined : ArgValue → String
  | single text => text
  | list texts => "/".intercalate texts

/-- Arguments for path generation in order. -/
abbrev Args := OrderedMap String ArgValue

/-- The pairs that an argument adds to a query: one for a single text, and one for every text of a
list, with brackets after the key. -/
def ArgValue.pairs (key : String) : ArgValue → List (String × String)
  | single text => [(key, text)]
  | list texts => texts.map fun text => (key ++ "[]", text)

/-- The pairs of all arguments in order. -/
def Args.pairs (args : Args) : List (String × String) :=
  args.entries.flatMap fun e => e.2.pairs e.1

/-- The arguments as a query string. There is none without arguments; arguments that are all empty
lists give the empty text. -/
def Args.query? (args : Args) : Option String :=
  if args.isEmpty then none else some (Text.Form.encode args.pairs)

end PathRouting

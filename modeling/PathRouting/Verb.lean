import PathRouting.Error
import PathRouting.Http.Token
import PathRouting.Unicode.Casing.Upper

/-!
The verbs that routes can be registered for.
-/

namespace PathRouting

/-- The six verbs. -/
inductive Verb where
  | get
  | post
  | put
  | patch
  | delete
  | options
  deriving DecidableEq, Repr

namespace Verb

/-- All verbs, in the order in which a mount is registered for them. -/
def all : List Verb :=
  [get, post, put, patch, delete, options]

/-- The verb as it stands in a request. -/
def text : Verb → String
  | get => "GET"
  | post => "POST"
  | put => "PUT"
  | patch => "PATCH"
  | delete => "DELETE"
  | options => "OPTIONS"

/-- The verb with exactly the given text. -/
def ofText? (s : String) : Option Verb :=
  all.find? fun verb => verb.text = s

/-- The verb that a text names in any case. The text is put into upper case first, and so it stands
in the error. -/
def parse (s : String) : Except Error Verb :=
  let upper := String.ofList (Unicode.upperText s.toList)
  match ofText? upper with
  | some verb => .ok verb
  | none => .error (.unsupportedVerb upper)

/-- The verb of a request method. -/
def ofMethod (m : Http.Method) : Except Error Verb :=
  parse m.text

/-- The request method of a verb. -/
def method (verb : Verb) : Http.Method :=
  ⟨verb.text⟩

@[simp] theorem mem_all (verb : Verb) : verb ∈ all := by
  cases verb <;> decide

@[simp] theorem ofText?_text (verb : Verb) : ofText? verb.text = some verb := by
  cases verb <;> rfl

theorem ofMethod_method (verb : Verb) : ofMethod verb.method = .ok verb := by
  have upper : Unicode.upperText verb.text.toList = verb.text.toList := by
    cases verb <;> decide +kernel
  simp [ofMethod, parse, method, upper]

end Verb

end PathRouting

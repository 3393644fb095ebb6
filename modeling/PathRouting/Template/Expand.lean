import PathRouting.Params
import PathRouting.Template.Basic
import PathRouting.Text.Percent

/-!
Paths from templates and arguments. Every capture and splat outside optional parts has to be
supplied. An optional part is written if its own captures and splats are all supplied and it writes
at least one. Arguments that the path does not use go into a query string.
-/

namespace PathRouting.Template

/-- What writing segments gives: the text, the names of the arguments it used, the names it misses,
and how many captures and splats it wrote. -/
structure Rendering where
  text : String := ""
  used : List String := []
  missing : List String := []
  written : Nat := 0
  deriving DecidableEq, Repr

/-- One rendering after the other. -/
def Rendering.append (a b : Rendering) : Rendering :=
  ⟨a.text ++ b.text, a.used ++ b.used, a.missing ++ b.missing, a.written + b.written⟩

/-- The text that the arguments supply for a capture. A capture takes at least one character, so an
empty text supplies nothing. -/
def captureText? (args : Args) (name : String) : Option String :=
  ((args.get? name).map ArgValue.joined).filter fun text => !text.isEmpty

namespace Segment

/-- Whether the arguments supply a text for the segment, if it is a capture or splat. -/
def isSupplied (args : Args) : Segment → Bool
  | capture name _ => (captureText? args name).isSome
  | splat name _ => args.contains name
  | literal _ | optional _ => true

mutual

/-- The segment written with the arguments. -/
def render (args : Args) : Segment → Rendering
  | literal text => { text := text }
  | capture name _ =>
    match captureText? args name with
    | some text => ⟨Text.Percent.encode text, [name], [], 1⟩
    | none => { missing := [name] }
  | splat name _ =>
    match args.get? name with
    | some value => ⟨Text.Percent.encodePieces value.joined, [name], [], 1⟩
    | none => { missing := [name] }
  | optional inner =>
    if inner.all (isSupplied args) then
      let r := renderAll args inner
      if 0 < r.written then { r with missing := [] } else {}
    else {}

/-- The segments written one after the other. -/
def renderAll (args : Args) : List Segment → Rendering
  | [] => {}
  | s :: rest => (s.render args).append (renderAll args rest)

end

end Segment

/-- A generated path, and the arguments that it does not use, in the caller's order. -/
structure Expansion where
  path : String
  unused : Args
  deriving DecidableEq, Repr

/-- The path, followed by a query string where arguments are left over. -/
def Expansion.url (e : Expansion) : String :=
  match e.unused.query? with
  | some query => e.path ++ "?" ++ query
  | none => e.path

/-- The path that the template gives with the arguments. -/
def expand (t : Template) (args : Args) : Except Error Expansion :=
  let r := Segment.renderAll args t.segments
  if r.missing.isEmpty then
    .ok ⟨r.text, ⟨args.entries.filter fun e => decide (e.1 ∉ r.used)⟩⟩
  else .error (.expansion t.source args.keys r.missing)

/-- The path with unused arguments in a query string. -/
def expandWithQuery (t : Template) (args : Args) : Except Error String :=
  (t.expand args).map Expansion.url

end PathRouting.Template

import PathRouting.Http.Header
import PathRouting.Http.Status

/-!
Responses: a status, header fields and a text.
-/

namespace PathRouting

open Http

/-- What an endpoint answers. -/
structure Response where
  status : Status := .ok
  headers : Headers := {}
  body : String := ""
  deriving DecidableEq, Repr

namespace Response

/-- The field by which a response asks an outer application to try its own routes. -/
def cascadeName : HeaderName := ⟨"x-cascade"⟩

/-- The value of that field. -/
def cascadeValue : HeaderValue := ⟨"pass"⟩

/-- The answer where no route matches. It asks an outer application to try its own routes. -/
def notFound : Response where
  status := .notFound
  headers := (({} : Headers).insert cascadeName cascadeValue).insert
    ⟨"content-type"⟩ ⟨"text/plain"⟩
  body := "Not Found"

/-- The response with one value for a header field. -/
def withHeader (r : Response) (name : HeaderName) (value : HeaderValue) : Response :=
  { r with headers := r.headers.insert name value }

/-- The response with one value for a header field that is given by texts, or unchanged if the texts
cannot stand in a header. -/
def withHeaderText (r : Response) (name value : String) : Response :=
  match HeaderName.ofText? name, HeaderValue.ofText? value with
  | some n, some v => r.withHeader n v
  | _, _ => r

/-- Whether the response asks an outer application to try its own routes. -/
def isCascade (r : Response) : Bool :=
  (r.headers.values cascadeName).head? = some cascadeValue

theorem notFound_isCascade : notFound.isCascade = true := by
  decide

end Response

end PathRouting

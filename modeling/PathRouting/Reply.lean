import PathRouting.Endpoint

/-!
Replies: handlers that are described by data. A reply adds to the environment and fills a response
in.
-/

namespace PathRouting

/-- What a handler is to do: what it adds to the environment, whether it starts from the answer for
a path that is not found, and what it puts into the response. The body may be the value of a
parameter, or a dash where there is none. -/
structure Reply where
  extensions : List (String × String) := []
  params : Params := {}
  startsNotFound : Bool := false
  body : Option String := none
  bodyParam : Option String := none
  status : Option Http.Status := none
  headers : List (String × String) := []

namespace Reply

/-- The response of the reply in an environment that it has added to. -/
def response (reply : Reply) (env : Env) : Response :=
  let start : Response := if reply.startsNotFound then .notFound else {}
  let value := reply.bodyParam.map fun name => (env.params.value? name).getD "-"
  let filled := { start with
    body := value.getD (reply.body.getD start.body)
    status := reply.status.getD start.status }
  reply.headers.foldl (fun r header => r.withHeaderText header.1 header.2) filled

/-- The handler that gives the reply. -/
def handler (reply : Reply) : Handler := fun env =>
  let entered := env.update { extensions := reply.extensions, params := reply.params }
  (reply.response entered, entered)

end Reply

end PathRouting

import Cupping.Http.Client

/-!
A service whose answers are given beforehand, which keeps the requests that reach it.
-/

namespace Cupping.Http

/-- A service with its answers. -/
structure Service where
  /-- Where it can be reached. -/
  origin : String
  /-- The answers still to be given, each to one request. -/
  answers : List Answer
  /-- The requests so far, the latest first. -/
  requests : List Request

namespace Service

/-- The answer when no other is left. -/
def exhausted : Answer :=
  let said := Json.Value.record [("detail", .text "nothing scripted")]
  .answered 404 ⟨[Text.Utf8.encode said.write.toList], true⟩

def delivered : Answer → Answer
  | .dropped => .dropped
  | .answered status body =>
    if isInterim status then .dropped
    else .answered status (if isBodiless status then ⟨[], true⟩ else body)

/-- The answer to a request. One that could not be made, or goes elsewhere, is not answered. -/
def ask (service : Service) (request : Option Request) : Answer × Service :=
  match request.filter (·.url.origin = service.origin) with
  | none => (.dropped, service)
  | some request =>
    (delivered (service.answers.head?.getD exhausted),
      { service with
        answers := service.answers.drop 1
        requests := request :: service.requests })

end Service
end Cupping.Http

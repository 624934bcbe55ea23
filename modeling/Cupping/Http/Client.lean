import Cupping.Advice
import Cupping.EventStream.Events
import Cupping.Exchange.Advice
import Cupping.Exchange.Refusal
import Cupping.Exchange.Request
import Cupping.Http.Status
import Cupping.Http.Url
import Cupping.Settings
import Cupping.Text.Utf16
import Cupping.Tracking.Tracker

/-!
The service over HTTP: the request for each call, and the meaning of each answer. What lies between
them is left to a transport.
-/

namespace Cupping.Http

/-- The kind of a request. -/
inductive Method where
  | get
  | post
deriving DecidableEq, Repr

def Method.name : Method → String
  | get => "GET"
  | post => "POST"

/-- A request. -/
structure Request where
  method : Method
  url : Url
  authorization : Option String
  accept : String
  userAgent : String
  contentType : Option String
  body : String
deriving DecidableEq, Repr

/-- The content of an answer, in the pieces in which it came. -/
structure Body where
  pieces : List (List UInt8)
  /-- Whether it came to its proper end. -/
  complete : Bool
deriving DecidableEq, Repr

/-- What a request leads to. -/
inductive Answer where
  /-- There is no answer. -/
  | dropped
  | answered (status : Nat) (body : Body)
deriving DecidableEq, Repr

/-- The failure when a request cannot be made or is not answered. -/
def notReached : Fault :=
  .unreachable "could not reach the optimizer service"

namespace Answer

/-- The text of some bytes. A byte order mark in front tells the encoding and is not part of the
text; bytes that are no characters are replaced. -/
def textOf : List UInt8 → List Char
  | 0xEF :: 0xBB :: 0xBF :: bytes => Text.Utf8.lossy bytes
  | 0xFE :: 0xFF :: bytes => Text.Utf16.lossy .bigEnd bytes
  | 0xFF :: 0xFE :: bytes => Text.Utf16.lossy .littleEnd bytes
  | bytes => Text.Utf8.lossy bytes

/-- The text of a body, empty if it was cut off. -/
def bodyText (body : Body) : List Char :=
  if body.complete then textOf body.pieces.flatten else []

/-- The words for a refusal: those of the service, else the phrase for the status. -/
def refusalWording (status : Nat) (body : Body) : String :=
  let said := do
    let detail ← Refusal.detailOfJson? (← Json.read? (bodyText body))
    Refusal.wording? (← detail)
  said.getD (reason status)

def check : Answer → Except Fault Body
  | dropped => .error notReached
  | answered status body =>
    if isSuccess status then .ok body else .error (.refusal status (refusalWording status body))

def decode {α : Type} (read : Json.Value → Option α) (answer : Answer) : Except Fault α := do
  let body ← answer.check
  let data :=
    if body.complete then Json.readDecoded? (Text.Utf8.decode body.pieces.flatten) else none
  match data.bind read with
  | some value => .ok value
  | none => .error (.undecodable "error decoding response body")

def run (answer : Answer) : Except Fault Run :=
  answer.decode Run.ofJson?

def runs (answer : Answer) : Except Fault (List Run) :=
  answer.decode (Json.Value.listOf? Run.ofJson?)

def advice (answer : Answer) : Except Fault AdviceResponse :=
  answer.decode AdviceResponse.ofJson?

def chunks (body : Body) : List EventStream.Chunk :=
  body.pieces.map .bytes ++ if body.complete then [] else [.broken "error decoding response body"]

def events (answer : Answer) : Except Fault (List (Except Fault RunEvent)) :=
  answer.check.map fun body => EventStream.events (chunks body)

end Answer

/-- A service to make requests to. -/
structure Client where
  /-- Without a slash at its end. -/
  address : String
  token : Option String
deriving DecidableEq, Repr

namespace Client

def make (address : String) (token : Option String) : Client :=
  ⟨Settings.trimSlashes address, token⟩

def ofSettings (settings : Settings) : Client :=
  make settings.apiUrl settings.token

def userAgent : String := "brew-tuner/0.1.0"

def isHeaderText (text : String) : Bool :=
  text.toList.all fun c => c = '\t' || (decide (0x20 ≤ c.toNat) && c.toNat ≠ 0x7F)

def url? (client : Client) (path : String) : Option Url :=
  Url.parse? (client.address ++ path)

/-- The header that carries the credential, with none for a client without one. -/
def authorization? (client : Client) : Option (Option String) :=
  match client.token with
  | none => some none
  | some token => if isHeaderText token then some (some ("Bearer " ++ token)) else none

def get? (client : Client) (path : String) : Option Request := do
  return ⟨.get, ← client.url? path, ← client.authorization?, "*/*", userAgent, none, ""⟩

def post? (client : Client) (path : String) (data : Json.Value) : Option Request := do
  return ⟨.post, ← client.url? path, ← client.authorization?, "*/*", userAgent,
    some "application/json", data.write⟩

def runPath (id : RunId) : String :=
  "/optimizer/runs/" ++ id.write

/-- The request for a call, unless the address or the credential is unusable. -/
def request? (client : Client) : Tracking.Call → Option Request
  | .getRun id => client.get? (runPath id)
  | .listRuns => client.get? "/optimizer/runs"
  | .startRun request => client.post? "/optimizer/runs/start" request.toJson
  | .submitScore id request => client.post? (runPath id ++ "/submit_score") request.toJson

def adviceRequest? (client : Client) (request : AdviceRequest) : Option Request :=
  client.post? "/optimizer/recommendation" request.toJson

/-- The request for live updates of a run. The credential is part of the address. -/
def eventsRequest? (client : Client) (id : RunId) (token : String) : Option Request := do
  let url ← client.url? (runPath id ++ "/events")
  return ⟨.get, url.withPair "token" token, none, "text/event-stream", userAgent, none, ""⟩

end Client
end Cupping.Http

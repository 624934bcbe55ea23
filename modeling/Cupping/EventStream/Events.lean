import Cupping.EventStream.Framing
import Cupping.Exchange.Run
import Cupping.Fault
import Cupping.Json.Reading

/-!
The run events in an event stream. Frames that are no events are passed over; when the stream
breaks, that is the last thing heard of it.
-/

namespace Cupping

def RunEvent.ofText? (text : String) : Option RunEvent :=
  (Json.read? text.toList).bind RunEvent.ofJson?

namespace EventStream

/-- A part of the stream as it arrives. -/
inductive Chunk where
  | bytes (content : List UInt8)
  /-- The stream breaks. -/
  | broken (reason : String)
deriving DecidableEq, Repr

def interruption (reason : String) : Fault :=
  .unreachable ("event stream interrupted: " ++ reason)

/-- The events in some chunks, and what has arrived of the next frame. -/
def eventsFrom (state : Framing) : List Chunk → List (Except Fault RunEvent)
  | [] => []
  | .broken reason :: _ => [.error (interruption reason)]
  | .bytes content :: rest =>
    let (frames, next) := state.push content
    (frames.filterMap RunEvent.ofText?).map .ok ++ eventsFrom next rest

def events (chunks : List Chunk) : List (Except Fault RunEvent) :=
  eventsFrom .initial chunks

end EventStream
end Cupping

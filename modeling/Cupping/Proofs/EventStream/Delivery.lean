import Cupping.EventStream.Events
import Cupping.Proofs.EventStream.Chunking

/-!
What is delivered of an event stream: the events among its frames up to the first break, and then
the break. A frame that is no event leaves no trace, and neither does one that has not been
completed in time.
-/

namespace Cupping.EventStream

open Reading

namespace Chunk

/-- The bytes of a part of the stream. -/
def content : Chunk → List UInt8
  | .bytes content => content
  | .broken _ => []

/-- Why the stream breaks, where it does. -/
def reason? : Chunk → Option String
  | .bytes _ => none
  | .broken reason => some reason

end Chunk

/-- The bytes that arrive before the stream breaks for the first time. -/
def arrived (chunks : List Chunk) : List UInt8 :=
  (chunks.takeWhile (·.reason?.isNone)).flatMap Chunk.content

/-- Why the stream breaks for the first time, if it does. -/
def failure? (chunks : List Chunk) : Option String :=
  chunks.findSome? Chunk.reason?

/-- Whether a stream can be cut after some bytes without cutting a line or a frame: every line is
complete, and since the last empty one there has been no `data` line. -/
def IsBoundary (bytes : List UInt8) : Prop :=
  unfinishedLine bytes = [] ∧ (openLines bytes).filterMap value? = []

instance (bytes : List UInt8) : Decidable (IsBoundary bytes) :=
  inferInstanceAs (Decidable (_ ∧ _))

/-- Whether some bytes have frames, if any, that are no events. -/
def IsUndecodable (bytes : List UInt8) : Prop :=
  ∀ payload ∈ frames bytes, RunEvent.ofText? payload = none

namespace Framing

theorem push_initial (bytes : List UInt8) : push initial bytes = (frames bytes, after bytes) := by
  have pushed : push initial bytes = _ := push_after [] bytes []
  rw [pushed, frames_eq_closedWithin]
  simp

theorem after_of_isBoundary {bytes : List UInt8} (boundary : IsBoundary bytes) :
    after bytes = initial := by
  rw [after, boundary.1, boundary.2]
  rfl

/-- At a boundary the frames of a stream can be cut like its bytes. -/
theorem frames_append {before : List UInt8} (boundary : IsBoundary before) (rest : List UInt8) :
    frames (before ++ rest) = frames before ++ frames rest := by
  have whole := push_append initial before rest
  rw [push_initial, push_initial, after_of_isBoundary boundary, push_initial] at whole
  exact congrArg Prod.fst whole

end Framing

/-- From any state on, the events are those of the frames that the bytes complete before the first
break, and the break is told of last. -/
theorem eventsFrom_eq (state : Framing) (chunks : List Chunk) :
    eventsFrom state chunks =
      ((state.push (arrived chunks)).1.filterMap RunEvent.ofText?).map .ok ++
        (failure? chunks).toList.map (.error ∘ interruption) := by
  induction chunks generalizing state with
  | nil => rfl
  | cons chunk rest ih =>
    cases chunk with
    | broken reason => rfl
    | bytes content =>
      have arrival : arrived (.bytes content :: rest) = content ++ arrived rest := rfl
      have failure : failure? (.bytes content :: rest) = failure? rest := rfl
      rw [eventsFrom, arrival, failure, Framing.push_append]
      simp only [ih, List.filterMap_append, List.map_append, List.append_assoc]

theorem events_eq (chunks : List Chunk) :
    events chunks = ((frames (arrived chunks)).filterMap RunEvent.ofText?).map .ok ++
      (failure? chunks).toList.map (.error ∘ interruption) := by
  rw [events, eventsFrom_eq, Framing.push_initial]

/-- Streams that fail alike deliver the same if the same events are among their frames. -/
theorem events_congr {chunks others : List Chunk} (failure : failure? others = failure? chunks)
    (same : (frames (arrived others)).filterMap RunEvent.ofText? =
      (frames (arrived chunks)).filterMap RunEvent.ofText?) : events others = events chunks := by
  rw [events_eq, events_eq, failure, same]

theorem filterMap_undecodable {bytes : List UInt8} (undecodable : IsUndecodable bytes) :
    (frames bytes).filterMap RunEvent.ofText? = [] :=
  List.filterMap_eq_nil_iff.mpr undecodable

theorem takeWhile_broken (chunks : List Chunk) (reason : String) (rest : List Chunk) :
    (chunks ++ .broken reason :: rest).takeWhile (·.reason?.isNone) =
      chunks.takeWhile (·.reason?.isNone) := by
  induction chunks with
  | nil => rfl
  | cons chunk more ih =>
    cases chunk with
    | broken other => rfl
    | bytes content => exact congrArg (.bytes content :: ·) ih

/-- What follows a break is never looked at. -/
theorem events_broken (chunks : List Chunk) (reason : String) (rest : List Chunk) :
    events (chunks ++ .broken reason :: rest) = events (chunks ++ [.broken reason]) := by
  have failed (more : List Chunk) :
      failure? (chunks ++ .broken reason :: more) = (failure? chunks).or (some reason) := by
    rw [failure?, List.findSome?_append]
    rfl
  refine events_congr ((failed rest).trans (failed []).symm) ?_
  rw [arrived, arrived, takeWhile_broken, takeWhile_broken]

/-- An event stream delivers the events among the frames that are complete before it first breaks,
in their order, and then, if it breaks, one failure. So it makes no difference how its bytes are cut
into chunks, whether a frame that is no event is there or not, what there is of a frame that has not
been completed, and what follows the break. -/
theorem events_delivered (chunks : List Chunk) :
    events chunks =
        ((frames (arrived chunks)).filterMap RunEvent.ofText?).map .ok ++
          (failure? chunks).toList.map (fun reason =>
            .error (.unreachable ("event stream interrupted: " ++ reason))) ∧
      (∀ others, failure? others = failure? chunks →
        (arrived others = arrived chunks → events others = events chunks) ∧
        (∀ before frame rest, IsBoundary before → IsBoundary frame → IsUndecodable frame →
          arrived chunks = before ++ rest → arrived others = before ++ frame ++ rest →
            events others = events chunks) ∧
        (∀ before unfinished, IsBoundary before → frames unfinished = [] →
          arrived chunks = before ++ unfinished → arrived others = before →
            events others = events chunks)) ∧
      ∀ reason rest,
        events (chunks ++ .broken reason :: rest) = events (chunks ++ [.broken reason]) := by
  refine ⟨events_eq chunks, fun others failure => ⟨?_, ?_, ?_⟩, events_broken chunks⟩
  · intro same
    exact events_congr failure (by rw [same])
  · intro before frame rest boundary closed undecodable without inserted
    refine events_congr failure ?_
    rw [without, inserted, List.append_assoc, Framing.frames_append boundary,
      Framing.frames_append boundary, Framing.frames_append closed]
    simp only [List.filterMap_append, filterMap_undecodable undecodable, List.nil_append]
  · intro before unfinished boundary nothing cut whole
    refine events_congr failure ?_
    rw [cut, whole, Framing.frames_append boundary, nothing, List.append_nil]

/-- An event that comes in two pieces, next to a frame that is no event and another one that the
break cuts off. -/
theorem events_among_malformed :
    let event := Text.Utf8.encode
      "data: \x7b\"trial_number\": 3, \"run_status\": \"running\"\x7d\n\n".toList
    let malformed := Text.Utf8.encode "data: not json\r\n\n".toList
    let unfinished := Text.Utf8.encode "data: \x7b\n".toList
    let chunks : List Chunk := [.bytes (event.take 9), .bytes (event.drop 9), .broken "reset"]
    let inserted : List Chunk := [.bytes (malformed ++ event), .broken "reset", .bytes event]
    let cut : List Chunk := [.bytes (event ++ unfinished), .broken "reset"]
    IsBoundary event ∧ IsBoundary malformed ∧ IsUndecodable malformed ∧ frames unfinished = [] ∧
      events inserted = events chunks ∧ events chunks = events cut ∧
      events chunks = [.ok ⟨3, .running, none, none, none, none⟩,
        .error (.unreachable "event stream interrupted: reset")] := by
  intro event malformed unfinished chunks inserted cut
  have whole : IsBoundary event := by decide +kernel
  have closed : IsBoundary malformed := by decide +kernel
  have undecodable : IsUndecodable malformed := by
    have single : frames malformed = ["not json"] := by decide +kernel
    rw [IsUndecodable, single]
    decide +kernel
  have nothing : frames unfinished = [] := by decide +kernel
  have told : (frames (arrived chunks)).filterMap RunEvent.ofText? =
      [⟨3, .running, none, none, none, none⟩] := by
    decide +kernel
  obtain ⟨delivered, alike, -⟩ := events_delivered chunks
  refine ⟨whole, closed, undecodable, nothing, ?_, ?_, ?_⟩
  · exact (alike inserted rfl).2.1 [] malformed event (by decide) closed undecodable
      (by decide +kernel) (by decide +kernel)
  · exact ((events_delivered cut).2.1 chunks rfl).2.2 event unfinished whole nothing
      (by decide +kernel) (by decide +kernel)
  · rw [delivered, told]
    rfl

end Cupping.EventStream

import Cupping.Proofs.Tracking.Errands
import Cupping.Proofs.Tracking.KnownRun

/-!
What a tracker has gone through since it last forgot its run. Whatever is kept of the run is made up
from these moments alone.
-/

namespace Cupping.Tracking

/-- The part of a list from the last element with a property on; all of the list if none has it. -/
def fromLast (marked : α → Bool) : List α → List α
  | [] => []
  | first :: rest => if rest.any marked then fromLast marked rest else first :: rest

theorem fromLast_append_singleton (marked : α → Bool) (earlier : List α) (last : α) :
    fromLast marked (earlier ++ [last]) =
      if marked last then [last] else fromLast marked earlier ++ [last] := by
  induction earlier with
  | nil => simp [fromLast]
  | cons first rest ih =>
    by_cases marks : marked last = true
    · simp [fromLast, ih, marks]
    · by_cases later : rest.any marked = true
      · simp only [List.any_eq_true] at later
        simp [fromLast, ih, marks, later]
      · simp only [List.any_eq_true] at later
        simp [fromLast, marks, later]

/-- A signal, with the tracker that takes it. -/
structure Moment where
  tracker : Tracker
  signal : Signal

/-- Whether the tracker forgets the run at this moment. -/
def Moment.resets (moment : Moment) : Bool :=
  moment.tracker.forgets moment.signal

namespace Tracker

/-- What a tracker goes through when it takes some signals. -/
def moments (tracker : Tracker) : List Signal → List Moment
  | [] => []
  | signal :: rest => ⟨tracker, signal⟩ :: (tracker.step signal).1.moments rest

/-- What a tracker has gone through since its last reset, which is the first of these moments if
there has been one. -/
def sinceReset (tracker : Tracker) (signals : List Signal) : List Moment :=
  fromLast Moment.resets (tracker.moments signals)

theorem moments_append_singleton (tracker : Tracker) (signals : List Signal) (signal : Signal) :
    tracker.moments (signals ++ [signal]) =
      tracker.moments signals ++ [⟨tracker.run signals, signal⟩] := by
  induction signals generalizing tracker with
  | nil => rfl
  | cons first rest ih => simp [moments, ih, run]

theorem sinceReset_append_singleton (tracker : Tracker) (signals : List Signal)
    (signal : Signal) :
    tracker.sinceReset (signals ++ [signal]) =
      if (tracker.run signals).forgets signal then [⟨tracker.run signals, signal⟩]
      else tracker.sinceReset signals ++ [⟨tracker.run signals, signal⟩] := by
  rw [sinceReset, moments_append_singleton, fromLast_append_singleton]
  rfl

/-- Something that is kept of the run and that a reset clears is made up from the moments since. -/
theorem kept_run (kept : Tracker → β) {clear : β} {note : β → Moment → β} {tracker : Tracker}
    (cleared : kept tracker = clear)
    (noted : ∀ current signal, kept (step current signal).1 =
      note (if current.forgets signal then clear else kept current) ⟨current, signal⟩)
    (signals : List Signal) :
    kept (tracker.run signals) = (tracker.sinceReset signals).foldl note clear := by
  induction signals using List.reverseRecOn with
  | nil => exact cleared
  | append_singleton signals signal ih =>
    rw [run_append_singleton, noted, sinceReset_append_singleton]
    by_cases forgotten : (tracker.run signals).forgets signal = true
    · simp [forgotten]
    · simp [forgotten, ih]

end Tracker
end Cupping.Tracking

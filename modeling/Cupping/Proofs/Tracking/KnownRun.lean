import Cupping.Proofs.Tracking.Ending

/-!
What is known of the tracked run. Runs that arrive in full replace it, events change the run that is
known, and only a turn to another run forgets it.
-/

namespace Cupping.Tracking

namespace Snapshot

@[simp]
theorem run_log (snapshot : Snapshot) (message : String) :
    (snapshot.log message).run = snapshot.run :=
  rfl

@[simp]
theorem run_store (snapshot : Snapshot) (run : Run) : (snapshot.store run).run = some run :=
  rfl

@[simp]
theorem run_receive (snapshot : Snapshot) (event : RunEvent) :
    (snapshot.receive event).run = snapshot.run.map (·.after event) := by
  unfold receive
  split <;> rfl

theorem run_turnTo (snapshot : Snapshot) (id : RunId) :
    (snapshot.turnTo id).run = if snapshot.runId = some id then snapshot.run else none := by
  unfold turnTo
  split <;> rfl

end Snapshot

namespace Tracker

/-- The run that a signal stores in full. -/
def stored? (tracker : Tracker) : Signal → Option Run
  | .answered ticket (.ok run) =>
    match tracker.errands.lookup ticket with
    | some .loadRun | some (.submitScore ..) =>
      if tracker.snapshot.runId = some run.id then some run else none
    | some (.openRun _) | some .startRun => some run
    | none => none
  | .polled number (.ok run) =>
    match (tracker.current? number).map Session.feed with
    | some (.asking _) => some run
    | _ => none
  | _ => none

/-- Whether a signal makes the tracker forget what is known of the run. -/
def forgets (tracker : Tracker) : Signal → Bool
  | .invoked _ .detach => true
  | .invoked _ (.attach id) => tracker.snapshot.runId ≠ some id
  | .answered ticket (.ok _) =>
    match tracker.errands.lookup ticket with
    | some (.openRun id) => tracker.snapshot.runId ≠ some id
    | some .startRun => true
    | _ => false
  | _ => false

/-- The event that a signal delivers to the session that receives live updates. -/
def received? (tracker : Tracker) : Signal → Option RunEvent
  | .delivered number event =>
    match (tracker.current? number).map Session.feed with
    | some .live => some event
    | _ => none
  | _ => none

/-- What is known of the run once a signal has been taken in, unless the signal stores one. -/
def keptRun? (tracker : Tracker) (signal : Signal) : Option Run :=
  if tracker.forgets signal then none
  else match tracker.received? signal with
    | some event => tracker.snapshot.run.map (·.after event)
    | none => tracker.snapshot.run

theorem run_track (tracker : Tracker) (id : RunId) (prepare : Snapshot → Snapshot) :
    (tracker.track id prepare).1.snapshot.run = (prepare tracker.snapshot).run := by
  cases credential : tracker.liveToken? with
  | none => simp [track_of_none credential]
  | some token => simp [track_of_some credential]

theorem run_invoke (tracker : Tracker) (ticket : Nat) (operation : Operation) :
    (tracker.invoke ticket operation).1.snapshot.run =
      tracker.keptRun? (.invoked ticket operation) := by
  cases operation with
  | attach id =>
    have tracked : (tracker.invoke ticket (.attach id)).1.snapshot.run =
        (tracker.snapshot.turnTo id).run := run_track tracker id (·.turnTo id)
    rw [tracked, Snapshot.run_turnTo]
    by_cases same : tracker.snapshot.runId = some id <;> simp [keptRun?, forgets, received?, same]
  | detach => rfl
  | loadRun id => rfl
  | openRun id => rfl
  | listRuns => rfl
  | startRun request =>
    simp only [invoke]
    split <;> rfl
  | submitScore score =>
    simp only [invoke]
    split
    · rfl
    · split <;> rfl

theorem run_answer (tracker : Tracker) (ticket : Nat) (result : Except Fault Run) :
    (tracker.answer ticket result).1.snapshot.run =
      (tracker.stored? (.answered ticket result)).or
        (tracker.keptRun? (.answered ticket result)) := by
  cases found : tracker.errands.lookup ticket with
  | none =>
    rw [answer_of_none found]
    cases result <;> simp [stored?, keptRun?, forgets, received?, found]
  | some errand =>
    cases result with
    | error fault =>
      rw [answer_error found]
      cases errand <;> rfl
    | ok run =>
      rw [answer_ok found]
      cases errand with
      | loadRun =>
        by_cases same : tracker.snapshot.runId = some run.id <;>
          simp [succeed, update, settle, stored?, keptRun?, forgets, received?, found, same]
      | openRun id =>
        simp [succeed, run_track, stored?, found]
      | startRun =>
        simp [succeed, run_track, stored?, found]
      | submitScore trialNumber score =>
        by_cases same : tracker.snapshot.runId = some run.id <;>
          simp [succeed, update, settle, stored?, keptRun?, forgets, received?, found, same]

/-- Beginning, losing or refusing live updates tells nothing of the run. -/
theorem run_inSession {tracker : Tracker} {act : Session → Tracker × List Effect}
    (silent : ∀ session, (act session).1.snapshot.run = tracker.snapshot.run) (number : Nat) :
    (tracker.inSession number act).1.snapshot.run = tracker.snapshot.run := by
  unfold inSession
  split
  · rename_i session found
    exact silent session
  · rfl

theorem run_delivered (tracker : Tracker) (number : Nat) (event : RunEvent) :
    (tracker.step (.delivered number event)).1.snapshot.run =
      tracker.keptRun? (.delivered number event) := by
  cases found : tracker.current? number with
  | none => simp [step, inSession, keptRun?, forgets, received?, found]
  | some session =>
    cases feed : session.feed <;>
      simp [step, inSession, deliver, update, keptRun?, forgets, received?, found, feed]

theorem run_polled (tracker : Tracker) (number : Nat) (result : Except Fault Run) :
    (tracker.step (.polled number result)).1.snapshot.run =
      (tracker.stored? (.polled number result)).or tracker.snapshot.run := by
  cases found : tracker.current? number with
  | none => cases result <;> simp [step, inSession, stored?, found]
  | some session =>
    cases result with
    | error fault =>
      cases feed : session.feed <;>
        simp [step, inSession, takePoll, stored?, found, feed, update, setFeed, Snapshot.fail]
    | ok run =>
      cases feed : session.feed with
      | asking next =>
        by_cases finished : run.isFinished = true <;>
          simp [step, inSession, takePoll, stored?, found, feed, update, conclude, setFeed,
            finished]
      | requesting | live | polling => simp [step, inSession, takePoll, stored?, found, feed]

/-- After a signal the run it stores is known, or what was known before, unless it is forgotten,
with the event that it delivers. -/
theorem run_step (tracker : Tracker) (signal : Signal) :
    (tracker.step signal).1.snapshot.run =
      (tracker.stored? signal).or (tracker.keptRun? signal) := by
  cases signal with
  | invoked ticket operation => exact run_invoke tracker ticket operation
  | answered ticket result => exact run_answer tracker ticket result
  | listed ticket result => rfl
  | accepted number =>
    refine run_inSession (fun session => ?_) number
    unfold accept
    split <;> rfl
  | refused number =>
    refine run_inSession (fun session => ?_) number
    unfold refuse
    split <;> rfl
  | delivered number event => exact run_delivered tracker number event
  | ended number =>
    refine run_inSession (fun session => ?_) number
    unfold finishLive
    split
    · by_cases finished : tracker.snapshot.isFinished = true
      · rw [if_pos finished]
        rfl
      · rw [if_neg finished]
        rfl
    · rfl
  | polled number result => exact run_polled tracker number result
  | clock now => exact congrArg Snapshot.run (snapshot_readClock tracker now)
  | dropped => rfl

end Tracker
end Cupping.Tracking

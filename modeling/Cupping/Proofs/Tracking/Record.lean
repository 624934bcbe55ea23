import Cupping.Proofs.Tracking.Moments
import Mathlib.Data.List.Basic

/-!
The scores and messages of the tracked run. Each is kept from the moment it arrives until a reset,
in the order of arrival, except that messages give way to newer ones once there are too many.
-/

namespace Cupping.Tracking

namespace Activity

theorem push_take (messages : List String) (logged : Nat) (message : String) :
    push ⟨messages.take capacity, logged⟩ message =
      ⟨(message :: messages).take capacity, logged + 1⟩ := by
  simp [push, capacity, List.take_take]

/-- After some messages the list holds the newest of them, newest first. -/
theorem foldl_push (messages : List String) :
    messages.foldl push empty = ⟨messages.reverse.take capacity, messages.length⟩ := by
  induction messages using List.reverseRecOn with
  | nil => rfl
  | append_singleton earlier message ih =>
    rw [List.foldl_append, List.foldl_cons, List.foldl_nil, ih, push_take]
    simp

end Activity

/-- What is added to what is kept of a run: scores, and messages in the order they are logged. -/
structure Snapshot.Gains (before after : Snapshot) (points : List ScorePoint)
    (messages : List String) : Prop where
  scores : after.scores = before.scores ++ points
  activity : after.activity = messages.foldl Activity.push before.activity

namespace Snapshot.Gains

variable {before after : Snapshot}

theorem nothing (scores : after.scores = before.scores)
    (activity : after.activity = before.activity) : before.Gains after [] [] :=
  ⟨by rw [scores, List.append_nil], activity⟩

theorem message {message : String} (scores : after.scores = before.scores)
    (activity : after.activity = before.activity.push message) :
    before.Gains after [] [message] :=
  ⟨by rw [scores, List.append_nil], activity⟩

theorem store {points : List ScorePoint} {messages : List String}
    (gains : before.Gains after points messages) (run : Run) :
    before.Gains (after.store run) points messages :=
  ⟨gains.scores, gains.activity⟩

end Snapshot.Gains

/-- The message that tells of an event. -/
def eventMessage (event : RunEvent) : String :=
  "Event: trial=" ++ toString event.trialNumber ++ ", status=" ++ event.status.name

/-- The score that an event carries, under the trial it is about. -/
def eventPoint? (event : RunEvent) : Option ScorePoint :=
  event.lastScore.map (⟨event.trialNumber, ·⟩)

theorem Snapshot.gains_receive (snapshot : Snapshot) (event : RunEvent) :
    snapshot.Gains (snapshot.receive event) (eventPoint? event).toList [eventMessage event] := by
  unfold receive eventPoint?
  cases event.lastScore with
  | none => exact .message rfl rfl
  | some score => exact ⟨rfl, rfl⟩

theorem Snapshot.gains_turnTo (snapshot : Snapshot) (id : RunId) :
    (if snapshot.runId = some id then snapshot else .fresh none).Gains
      (snapshot.turnTo id) [] [] := by
  unfold turnTo
  split <;> exact .nothing rfl rfl

namespace Tracker

/-- The feed of the session with a number. -/
def feed? (tracker : Tracker) (number : Nat) : Option Feed :=
  (tracker.current? number).map Session.feed

/-- What is logged when a run is tracked without a credential. -/
def offline (tracker : Tracker) : List String :=
  if tracker.liveToken?.isNone then ["Live updates disabled: no session token."] else []

/-- What is logged when a session falls back to polling. -/
def fallback (tracker : Tracker) : String :=
  "Live updates unavailable, polling every " ++ describePeriod tracker.period ++ "."

/-- What is logged when the service answers. -/
def reply (tracker : Tracker) : Errand → Except Fault Run → List String
  | .openRun _, .ok _ => tracker.offline
  | .startRun, .ok run => ("Run started: " ++ run.id.write) :: tracker.offline
  | .submitScore trialNumber _, .ok run =>
    if tracker.snapshot.runId = some run.id then
      ["Score submitted for trial " ++ toString trialNumber]
    else []
  | .startRun, .error fault => ["Run start failed: " ++ fault.brief]
  | .submitScore .., .error fault => ["Score submission failed: " ++ fault.brief]
  | .loadRun, _ | .openRun _, .error _ => []

/-- The messages that are logged when a signal is taken in, in order. -/
def told (tracker : Tracker) : Signal → List String
  | .invoked _ (.attach _) => tracker.offline
  | .answered ticket result =>
    ((tracker.errands.lookup ticket).toList.flatMap fun errand => tracker.reply errand result)
  | .accepted number =>
    if tracker.feed? number = some .requesting then ["Live updates connected."] else []
  | .refused number =>
    if tracker.feed? number = some .requesting then [tracker.fallback] else []
  | .delivered number event =>
    ((tracker.received? (.delivered number event)).toList.map eventMessage)
  | .ended number =>
    if tracker.feed? number = some .live ∧ tracker.snapshot.isFinished = false then
      [tracker.fallback]
    else []
  | .polled number result =>
    if (tracker.stored? (.polled number result)).any Run.isFinished then ["Run finished."] else []
  | .invoked .. | .listed .. | .clock _ | .dropped => []

/-- The score that a signal adds: one that an event carries, or one that was submitted for the
tracked run and accepted. -/
def point? (tracker : Tracker) : Signal → Option ScorePoint
  | .answered ticket (.ok run) =>
    match tracker.errands.lookup ticket with
    | some (.submitScore _ score) =>
      if tracker.snapshot.runId = some run.id then some ⟨run.trialCount, score⟩ else none
    | _ => none
  | signal => (tracker.received? signal).bind eventPoint?

/-- What is kept of the run, but for what a signal adds. -/
def kept (tracker : Tracker) (signal : Signal) : Snapshot :=
  if tracker.forgets signal then .fresh none else tracker.snapshot

theorem gains_track {before : Snapshot} {messages : List String} (tracker : Tracker) (id : RunId)
    (prepare : Snapshot → Snapshot)
    (prepared : before.Gains (prepare tracker.snapshot) [] messages) :
    before.Gains (tracker.track id prepare).1.snapshot [] (messages ++ tracker.offline) := by
  obtain ⟨scores, activity⟩ := prepared
  cases credential : tracker.liveToken? with
  | none =>
    rw [track_of_none credential]
    refine ⟨scores, ?_⟩
    simp [offline, credential, Snapshot.log, activity]
  | some token =>
    rw [track_of_some credential]
    refine ⟨scores, ?_⟩
    simp [offline, credential, activity]

theorem gains_invoke (tracker : Tracker) (ticket : Nat) (operation : Operation) :
    (tracker.kept (.invoked ticket operation)).Gains
      (tracker.invoke ticket operation).1.snapshot []
      (tracker.told (.invoked ticket operation)) := by
  cases operation with
  | attach id =>
    have turned : (tracker.kept (.invoked ticket (.attach id))).Gains
        (tracker.snapshot.turnTo id) [] [] := by
      simpa [kept, forgets] using tracker.snapshot.gains_turnTo id
    exact gains_track tracker id (·.turnTo id) turned
  | detach => exact .nothing rfl rfl
  | loadRun id => exact .nothing rfl rfl
  | openRun id => exact .nothing rfl rfl
  | listRuns => exact .nothing rfl rfl
  | startRun request =>
    simp only [invoke]
    split <;> exact .nothing rfl rfl
  | submitScore score =>
    simp only [invoke]
    split
    · exact .nothing rfl rfl
    · split <;> exact .nothing rfl rfl

theorem gains_succeed {tracker : Tracker} {ticket : Nat} {errand : Errand}
    (found : tracker.errands.lookup ticket = some errand) (run : Run) :
    (tracker.kept (.answered ticket (.ok run))).Gains
      ((tracker.settle ticket).succeed run errand).1.snapshot
      (tracker.point? (.answered ticket (.ok run))).toList (tracker.reply errand (.ok run)) := by
  simp only [kept, forgets, point?, found]
  cases errand with
  | loadRun =>
    by_cases same : tracker.snapshot.runId = some run.id
    · simp only [succeed, update, settle, same, if_true]
      exact .nothing rfl rfl
    · simp only [succeed, update, settle, same, if_false]
      exact .nothing rfl rfl
  | openRun id =>
    have turned : (if decide (tracker.snapshot.runId ≠ some id) = true then .fresh none
        else tracker.snapshot).Gains (tracker.snapshot.turnTo id) [] [] := by
      simpa using tracker.snapshot.gains_turnTo id
    exact gains_track (tracker.settle ticket) id (fun snapshot => (snapshot.turnTo id).store run)
      (turned.store run)
  | startRun =>
    have begun : (Snapshot.fresh none).Gains
        ((Snapshot.fresh (some run.id)).log ("Run started: " ++ run.id.write)) []
        ["Run started: " ++ run.id.write] :=
      .message rfl rfl
    exact gains_track (tracker.settle ticket) run.id
      (fun _ => ((Snapshot.fresh (some run.id)).log ("Run started: " ++ run.id.write)).store run)
      (begun.store run)
  | submitScore trialNumber score =>
    by_cases same : tracker.snapshot.runId = some run.id
    · simp only [reply, succeed, update, settle, same, if_true]
      exact ⟨rfl, rfl⟩
    · simp only [reply, succeed, update, settle, same, if_false]
      exact .nothing rfl rfl

theorem gains_answer (tracker : Tracker) (ticket : Nat) (result : Except Fault Run) :
    (tracker.kept (.answered ticket result)).Gains (tracker.answer ticket result).1.snapshot
      (tracker.point? (.answered ticket result)).toList
      (tracker.told (.answered ticket result)) := by
  cases found : tracker.errands.lookup ticket with
  | none =>
    rw [answer_of_none found]
    cases result <;> simpa [kept, forgets, point?, received?, told, found] using .nothing rfl rfl
  | some errand =>
    cases result with
    | ok run =>
      rw [answer_ok found]
      simpa [told, found] using gains_succeed found run
    | error fault =>
      rw [answer_error found]
      simp only [kept, forgets, point?, received?, told, found]
      cases errand with
      | loadRun | openRun => exact .nothing rfl rfl
      | startRun | submitScore => exact .message rfl rfl

/-- What a session makes of a signal, when its messages depend on its feed alone. -/
theorem gains_inSession {tracker : Tracker} {act : Session → Tracker × List Effect}
    (messages : Option Feed → List String) (absent : messages none = [])
    (acts : ∀ session,
      tracker.snapshot.Gains (act session).1.snapshot [] (messages (some session.feed)))
    (number : Nat) :
    tracker.snapshot.Gains (tracker.inSession number act).1.snapshot []
      (messages (tracker.feed? number)) := by
  unfold inSession feed?
  cases tracker.current? number with
  | none =>
    rw [Option.map_none, absent]
    exact .nothing rfl rfl
  | some session => exact acts session

/-- What a session makes of a signal that matters only while live updates are asked for. -/
theorem gains_requesting {tracker : Tracker} {act : Session → Tracker × List Effect}
    {text : String}
    (acts : ∀ session, session.feed = .requesting →
      tracker.snapshot.Gains (act session).1.snapshot [] [text])
    (ignores : ∀ session, session.feed ≠ .requesting → act session = (tracker, []))
    (number : Nat) :
    tracker.snapshot.Gains (tracker.inSession number act).1.snapshot []
      (if tracker.feed? number = some .requesting then [text] else []) := by
  refine gains_inSession (fun feed => if feed = some .requesting then [text] else []) rfl ?_ number
  intro session
  by_cases asked : session.feed = .requesting
  · rw [if_pos (congrArg some asked)]
    exact acts session asked
  · rw [if_neg (by simpa using asked), ignores session asked]
    exact .nothing rfl rfl

theorem gains_accepted (tracker : Tracker) (number : Nat) :
    tracker.snapshot.Gains (tracker.inSession number tracker.accept).1.snapshot []
      (tracker.told (.accepted number)) := by
  refine gains_requesting (fun session asked => ?_) (fun session other => ?_) number
  · rw [accept, asked]
    exact .message rfl rfl
  · unfold accept
    split
    · contradiction
    · rfl

theorem gains_refused (tracker : Tracker) (number : Nat) :
    tracker.snapshot.Gains (tracker.inSession number tracker.refuse).1.snapshot []
      (tracker.told (.refused number)) := by
  refine gains_requesting (fun session asked => ?_) (fun session other => ?_) number
  · rw [refuse, asked]
    exact .message rfl rfl
  · unfold refuse
    split
    · contradiction
    · rfl

theorem gains_ended (tracker : Tracker) (number : Nat) :
    tracker.snapshot.Gains (tracker.inSession number tracker.finishLive).1.snapshot []
      (tracker.told (.ended number)) := by
  refine gains_inSession
    (fun feed => if feed = some .live ∧ tracker.snapshot.isFinished = false then _ else [])
    (by simp) ?_ number
  intro session
  unfold finishLive
  split
  · rename_i live
    by_cases finished : tracker.snapshot.isFinished = true
    · rw [if_pos finished, if_neg (by simp [finished])]
      exact .nothing rfl rfl
    · rw [if_neg finished, if_pos ⟨congrArg some live, by simpa using finished⟩]
      exact .message rfl rfl
  · rename_i other
    rw [if_neg (by simpa using fun live => absurd live other)]
    exact .nothing rfl rfl

theorem gains_delivered (tracker : Tracker) (number : Nat) (event : RunEvent) :
    tracker.snapshot.Gains (tracker.step (.delivered number event)).1.snapshot
      (tracker.point? (.delivered number event)).toList
      (tracker.told (.delivered number event)) := by
  cases found : tracker.current? number with
  | none => simpa [step, inSession, told, point?, received?, found] using .nothing rfl rfl
  | some session =>
    cases feed : session.feed with
    | live =>
      simpa [step, inSession, deliver, update, told, point?, received?, found, feed] using
        tracker.snapshot.gains_receive event
    | requesting | polling | asking =>
      simpa [step, inSession, deliver, told, point?, received?, found, feed] using .nothing rfl rfl

theorem gains_polled (tracker : Tracker) (number : Nat) (result : Except Fault Run) :
    tracker.snapshot.Gains (tracker.step (.polled number result)).1.snapshot []
      (tracker.told (.polled number result)) := by
  cases found : tracker.current? number with
  | none =>
    cases result <;> simpa [step, inSession, told, stored?, found] using .nothing rfl rfl
  | some session =>
    cases feed : session.feed with
    | asking next =>
      cases result with
      | error fault =>
        simpa [step, inSession, takePoll, told, stored?, found, feed] using .nothing rfl rfl
      | ok run =>
        by_cases finished : run.isFinished = true
        · simpa [step, inSession, takePoll, told, stored?, found, feed, finished] using
            .message rfl rfl
        · simpa [step, inSession, takePoll, told, stored?, found, feed, finished] using
            .nothing rfl rfl
    | requesting | polling | live =>
      cases result <;>
        simpa [step, inSession, takePoll, told, stored?, found, feed] using .nothing rfl rfl

/-- Every signal adds to what is kept just the score and the messages that belong to it. -/
theorem gains_step (tracker : Tracker) (signal : Signal) :
    (tracker.kept signal).Gains (tracker.step signal).1.snapshot (tracker.point? signal).toList
      (tracker.told signal) := by
  cases signal with
  | invoked ticket operation => exact gains_invoke tracker ticket operation
  | answered ticket result => exact gains_answer tracker ticket result
  | listed ticket result => exact .nothing rfl rfl
  | accepted number => exact gains_accepted tracker number
  | refused number => exact gains_refused tracker number
  | delivered number event => exact gains_delivered tracker number event
  | ended number => exact gains_ended tracker number
  | polled number result => exact gains_polled tracker number result
  | clock now =>
    have same := snapshot_readClock tracker now
    exact .nothing (congrArg Snapshot.scores same) (congrArg Snapshot.activity same)
  | dropped => exact .nothing rfl rfl

end Tracker

namespace Moment

/-- The score that is added at this moment. -/
def point? (moment : Moment) : Option ScorePoint :=
  moment.tracker.point? moment.signal

/-- The messages that are logged at this moment, in order. -/
def told (moment : Moment) : List String :=
  moment.tracker.told moment.signal

end Moment

namespace Tracker

/-- The scores are those that have been added since the last reset, in order. -/
theorem scores_run (token : Option String) (period : Nat) (signals : List Signal) :
    ((initial token period).run signals).snapshot.scores =
      ((initial token period).sinceReset signals).filterMap Moment.point? := by
  have added (tracker : Tracker) (signal : Signal) : (tracker.step signal).1.snapshot.scores =
      (if tracker.forgets signal then [] else tracker.snapshot.scores) ++
        (Moment.point? ⟨tracker, signal⟩).toList := by
    rw [(gains_step tracker signal).scores, kept]
    split <;> rfl
  rw [List.filterMap_eq_flatMap_toList, List.flatMap_eq_foldl]
  exact kept_run (·.snapshot.scores) rfl added signals

/-- The activity list is made up from the messages since the last reset. -/
theorem activity_run (token : Option String) (period : Nat) (signals : List Signal) :
    ((initial token period).run signals).snapshot.activity =
      (((initial token period).sinceReset signals).flatMap Moment.told).foldl
        Activity.push .empty := by
  have logged (tracker : Tracker) (signal : Signal) : (tracker.step signal).1.snapshot.activity =
      (Moment.told ⟨tracker, signal⟩).foldl Activity.push
        (if tracker.forgets signal then .empty else tracker.snapshot.activity) := by
    rw [(gains_step tracker signal).activity, kept]
    split <;> rfl
  rw [List.foldl_flatMap]
  exact kept_run (·.snapshot.activity) rfl logged signals

/-- Turning to the run that is tracked anyway clears nothing. -/
theorem kept_attach {tracker : Tracker} {id : RunId} (same : tracker.snapshot.runId = some id)
    (ticket : Nat) :
    let again := (tracker.step (.invoked ticket (.attach id))).1.snapshot
    again.scores = tracker.snapshot.scores ∧
      (again.activity = tracker.snapshot.activity ∨ again.activity =
        tracker.snapshot.activity.push "Live updates disabled: no session token.") := by
  intro again
  obtain ⟨scores, activity⟩ := gains_step tracker (.invoked ticket (.attach id))
  have stays : tracker.kept (.invoked ticket (.attach id)) = tracker.snapshot := by
    simp [kept, forgets, same]
  rw [stays] at scores activity
  refine ⟨scores.trans (List.append_nil _), ?_⟩
  by_cases blank : tracker.liveToken?.isNone = true
  · exact .inr (by simpa [told, offline, blank] using activity)
  · exact .inl (by simpa [told, offline, blank] using activity)

/-- What is kept of the tracked run is what has arrived since the last reset: every score in the
order of arrival, and the newest twenty messages, newest first. A score that waits for its answer is
one that was submitted, and to turn to the same run again clears nothing. -/
theorem record_since_reset (token : Option String) (period : Nat) (signals : List Signal) :
    let tracker := (initial token period).run signals
    let since := (initial token period).sinceReset signals
    tracker.snapshot.scores = since.filterMap Moment.point? ∧
      tracker.snapshot.activity.messages = (since.flatMap Moment.told).reverse.take 20 ∧
      tracker.snapshot.activity.messages.length ≤ 20 ∧
      (∀ ticket trialNumber score, (ticket, .submitScore trialNumber score) ∈ tracker.errands →
        .invoked ticket (.submitScore score) ∈ signals) ∧
      ∀ ticket id, tracker.snapshot.runId = some id →
        let again := (tracker.step (.invoked ticket (.attach id))).1.snapshot
        again.scores = tracker.snapshot.scores ∧
          (again.activity = tracker.snapshot.activity ∨ again.activity =
            tracker.snapshot.activity.push "Live updates disabled: no session token.") := by
  intro tracker since
  have messages : tracker.snapshot.activity.messages =
      (since.flatMap Moment.told).reverse.take 20 := by
    rw [show tracker.snapshot.activity = _ from activity_run token period signals,
      Activity.foldl_push]
    rfl
  refine ⟨scores_run token period signals, messages, ?_, ?_, fun ticket id same => ?_⟩
  · rw [messages]
    exact List.length_take_le 20 _
  · intro ticket trialNumber score member
    obtain ⟨earlier, operation, invoked, asked⟩ := invoked_of_waiting member
    exact eq_submitScore asked ▸ invoked
  · exact kept_attach same ticket

/-- The score of an event is still there after turning to the same run again. -/
theorem record_kept_on_attach :
    let id : RunId := ⟨List.replicate 32 0, rfl⟩
    let event : RunEvent := ⟨4, .running, none, none, none, some 8.0⟩
    let start := initial (some "token") 2000
    let signals : List Signal := [.invoked 0 (.attach id), .accepted 1, .delivered 1 event]
    (start.run signals).snapshot.runId = some id ∧
      (start.run (signals ++ [.invoked 1 (.attach id)])).snapshot.scores = [⟨4, 8.0⟩] ∧
      (start.run signals).snapshot.activity.messages =
        ["Event: trial=4, status=running", "Live updates connected."] := by
  intro id event start signals
  have whole := record_since_reset (some "token") 2000 signals
  have again := whole.2.2.2.2 1 id rfl
  exact ⟨rfl, again.1, by decide⟩

end Tracker
end Cupping.Tracking

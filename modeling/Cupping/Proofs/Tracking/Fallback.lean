import Cupping.Proofs.Tracking.Ending

/-!
What sessions tell about themselves. A session that says that live updates are unavailable has fallen
back to polling.
-/

namespace Cupping.Tracking

/-- Whether a message tells that live updates have been lost or are not to be had. -/
def TellsOfFallback (message : String) : Prop :=
  ∃ rest, message = "Live updates unavailable" ++ rest

theorem tellsOfFallback_every (period : String) :
    TellsOfFallback ("Live updates unavailable, polling every " ++ period ++ ".") := by
  refine ⟨", polling every " ++ period ++ ".", ?_⟩
  have split : "Live updates unavailable, polling every " =
      "Live updates unavailable" ++ ", polling every " := by decide
  rw [split]
  simp only [String.append_assoc]

theorem TellsOfFallback.start {message : String} (tells : TellsOfFallback message) :
    message.toList.take 14 = "Live updates u".toList := by
  obtain ⟨rest, rfl⟩ := tells
  simp

theorem not_tellsOfFallback_event (rest : String) :
    ¬ TellsOfFallback ("Event: trial=" ++ rest) := by
  intro tells
  have start := tells.start
  simp at start

theorem Snapshot.activity_receive (snapshot : Snapshot) (event : RunEvent) :
    (snapshot.receive event).activity = snapshot.activity.push
      ("Event: trial=" ++ toString event.trialNumber ++ ", status=" ++ event.status.name) := by
  unfold receive
  split <;> rfl

namespace Tracker

/-- The messages that a signal adds to the activity list. -/
def logged (tracker : Tracker) (signal : Signal) : List String :=
  let activity := (tracker.step signal).1.snapshot.activity
  activity.messages.take (activity.logged - tracker.snapshot.activity.logged)

theorem logged_eq_nil {tracker : Tracker} {signal : Signal}
    (same : (tracker.step signal).1.snapshot.activity = tracker.snapshot.activity) :
    tracker.logged signal = [] := by
  simp [logged, same]

theorem logged_eq_singleton {tracker : Tracker} {signal : Signal} {message : String}
    (pushed : (tracker.step signal).1.snapshot.activity = tracker.snapshot.activity.push message) :
    tracker.logged signal = [message] := by
  simp [logged, pushed, Activity.push, Activity.capacity]

/-- Whether a session polls, or would if it had a period. -/
def IsPolling (tracker : Tracker) (number : Nat) : Prop :=
  ∃ current due, tracker.session = some current ∧ current.number = number ∧
    current.feed = .polling due

/-- What a session makes of a signal shows in the activity list: nothing, some news, or that the
session has fallen back to polling. -/
inductive Reports (tracker : Tracker) (session : Session) : Tracker × List Effect → Prop where
  | nothing (same : next.snapshot.activity = tracker.snapshot.activity) :
      Reports tracker session (next, effects)
  | news (pushed : next.snapshot.activity = tracker.snapshot.activity.push message)
      (other : ¬ TellsOfFallback message) : Reports tracker session (next, effects)
  | fallback (polling : next.IsPolling session.number) : Reports tracker session (next, effects)

theorem reports_startPolling (tracker : Tracker) (session : Session) (effects : List Effect) :
    Reports tracker session (tracker.startPolling session, effects) :=
  .fallback ⟨_, _, rfl, rfl, rfl⟩

theorem reports_accept (tracker : Tracker) (session : Session) :
    Reports tracker session (tracker.accept session) := by
  unfold accept
  split
  · exact .news rfl fun tells => absurd tells.start (by decide)
  · exact .nothing rfl

theorem reports_refuse (tracker : Tracker) (session : Session) :
    Reports tracker session (tracker.refuse session) := by
  unfold refuse
  split
  · exact reports_startPolling tracker session []
  · exact .nothing rfl

theorem reports_deliver (tracker : Tracker) (session : Session) (event : RunEvent) :
    Reports tracker session (tracker.deliver session event) := by
  unfold deliver
  split
  · refine .news (Snapshot.activity_receive tracker.snapshot event) ?_
    rw [String.append_assoc, String.append_assoc]
    exact not_tellsOfFallback_event _
  · exact .nothing rfl

theorem reports_finishLive (tracker : Tracker) (session : Session) :
    Reports tracker session (tracker.finishLive session) := by
  unfold finishLive
  split
  · by_cases finished : tracker.snapshot.isFinished = true
    · rw [if_pos finished]
      exact .nothing rfl
    · rw [if_neg finished]
      exact reports_startPolling tracker session _
  · exact .nothing rfl

theorem reports_takePoll (tracker : Tracker) (session : Session) (result : Except Fault Run) :
    Reports tracker session (tracker.takePoll session result) := by
  unfold takePoll
  split
  · cases result with
    | error fault => exact .nothing rfl
    | ok run =>
      by_cases finished : run.isFinished = true
      · simp only [if_pos finished]
        exact .news rfl fun tells => absurd tells.start (by decide)
      · simp only [if_neg finished]
        exact .nothing rfl
  · exact .nothing rfl

theorem reports_inSession {tracker : Tracker} {number : Nat} {signal : Signal}
    {act : Session → Tracker × List Effect} {message : String}
    (acts : tracker.step signal = tracker.inSession number act)
    (reports : ∀ session, Reports tracker session (act session))
    (member : message ∈ tracker.logged signal) (tells : TellsOfFallback message) :
    (tracker.step signal).1.IsPolling number := by
  cases found : tracker.current? number with
  | none =>
    rw [logged_eq_nil (by simp [acts, inSession, found])] at member
    simp at member
  | some session =>
    have acted : tracker.step signal = act session := by simp [acts, inSession, found]
    generalize taken : act session = result at acted
    cases taken ▸ reports session with
    | nothing same =>
      rw [logged_eq_nil (by rw [acted, same])] at member
      simp at member
    | news pushed other =>
      rw [logged_eq_singleton (by rw [acted, pushed])] at member
      exact absurd (List.mem_singleton.mp member ▸ tells) other
    | fallback polling =>
      rw [acted, ← (current?_eq_some found).2]
      exact polling

/-- A session that tells of its fallback has fallen back. -/
theorem isPolling_of_logged {tracker : Tracker} {signal : Signal} {number : Nat} {message : String}
    (meant : signal.session? = some number) (member : message ∈ tracker.logged signal)
    (tells : TellsOfFallback message) : (tracker.step signal).1.IsPolling number := by
  cases signal with
  | accepted other =>
    obtain rfl := Option.some.inj meant
    exact reports_inSession rfl (reports_accept tracker) member tells
  | refused other =>
    obtain rfl := Option.some.inj meant
    exact reports_inSession rfl (reports_refuse tracker) member tells
  | delivered other event =>
    obtain rfl := Option.some.inj meant
    exact reports_inSession rfl (fun session => reports_deliver tracker session event) member tells
  | ended other =>
    obtain rfl := Option.some.inj meant
    exact reports_inSession rfl (reports_finishLive tracker) member tells
  | polled other result =>
    obtain rfl := Option.some.inj meant
    exact reports_inSession rfl (fun session => reports_takePoll tracker session result)
      member tells
  | invoked | answered | listed | clock | dropped => simp [Signal.session?] at meant

theorem IsPolling.fallen {tracker : Tracker} {number : Nat} (polling : tracker.IsPolling number) :
    Within Fallen tracker.session number := by
  obtain ⟨current, due, present, same, feed⟩ := polling
  rw [present]
  exact .of_kind (by simp [Fallen, feed]) number

end Tracker
end Cupping.Tracking

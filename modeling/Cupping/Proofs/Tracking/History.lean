import Cupping.Tracking.Tracker

/-!
What a tracker does with its sources of news, signal after signal. A signal moves the session of the
tracker in one of a few ways, and each of them has its own effect on live updates and polls.
-/

namespace Cupping.Tracking

/-- What happens to the sources of news of a session. -/
inductive Occurrence where
  /-- Live updates are asked for. -/
  | subscribed (session : Nat)
  /-- Live updates have been accepted, and the session receives them from now on. -/
  | opened (session : Nat)
  | closed (session : Nat)
  | polled (session : Nat)
deriving DecidableEq

/-- The session to whose sources something happens. -/
def Occurrence.session : Occurrence → Nat
  | subscribed session | opened session | closed session | polled session => session

/-- What an effect does to the sources of news. -/
def Effect.occurrence? : Effect → Option Occurrence
  | .subscribe session .. => some (.subscribed session)
  | .close session _ => some (.closed session)
  | .poll session _ => some (.polled session)
  | .ask .. | .finish .. => none

/-- The session that a signal is meant for; operations, their answers and the clock are meant for
none. -/
def Signal.session? : Signal → Option Nat
  | .accepted session | .refused session | .delivered session _ | .ended session
  | .polled session _ => some session
  | .invoked .. | .answered .. | .listed .. | .clock _ | .dropped => none

/-- The session that receives live updates, if it is one that does. -/
def listening : Option Session → List Nat
  | some session => if session.feed = .live then [session.number] else []
  | none => []

/-- What ending a session does to its live updates. -/
def closing (session : Option Session) : List Occurrence :=
  (listening session).map .closed

/-- How a signal moves the session of a tracker, given how many sessions there have been, and what
happens to sources of news meanwhile. -/
inductive Move : Option Session → Nat → List Occurrence → Option Session → Nat → Prop where
  | stay : Move session count [] session count
  | leave : Move session count (closing session) none count
  | enter (id : RunId) : Move session count (closing session ++ [.subscribed (count + 1)])
      (some ⟨count + 1, id, .requesting⟩) (count + 1)
  | listen (asked : current.feed = .requesting) :
      Move (some current) count [.opened current.number] (some { current with feed := .live }) count
  | lose (due : Option Nat) (live : current.feed = .live) :
      Move (some current) count [.closed current.number]
        (some { current with feed := .polling due }) count
  | wait (due : Option Nat)
      (answered : current.feed = .requesting ∨ ∃ next, current.feed = .asking next) :
      Move (some current) count [] (some { current with feed := .polling due }) count
  | poll (next : Nat) (waiting : current.feed = .polling (some due)) :
      Move (some current) count [.polled current.number]
        (some { current with feed := .asking next }) count

theorem listening_live {current : Session} (live : current.feed = .live) :
    listening (some current) = [current.number] :=
  if_pos live

theorem listening_quiet {current : Session} (quiet : current.feed ≠ .live) :
    listening (some current) = [] :=
  if_neg quiet

theorem Move.leave_live {current : Session} (live : current.feed = .live) :
    Move (some current) count [.closed current.number] none count := by
  have left : Move (some current) count (closing (some current)) none count := .leave
  rwa [closing, listening_live live] at left

theorem Move.leave_quiet {current : Session} (quiet : current.feed ≠ .live) :
    Move (some current) count [] none count := by
  have left : Move (some current) count (closing (some current)) none count := .leave
  rwa [closing, listening_quiet quiet] at left

namespace Tracker

/-- The session whose live updates begin with a signal. -/
def opened? (tracker : Tracker) : Signal → Option Nat
  | .accepted number =>
    ((tracker.current? number).filter (·.feed = .requesting)).map Session.number
  | _ => none

/-- What a signal does to the sources of news. -/
def occurrences (tracker : Tracker) (signal : Signal) : List Occurrence :=
  (tracker.opened? signal).toList.map .opened ++
    (tracker.step signal).2.filterMap Effect.occurrence?

/-- The tracker after some signals. -/
def run (tracker : Tracker) (signals : List Signal) : Tracker :=
  signals.foldl (fun current signal => (current.step signal).1) tracker

/-- What some signals do to the sources of news, in order. -/
def history (tracker : Tracker) : List Signal → List Occurrence
  | [] => []
  | signal :: rest => tracker.occurrences signal ++ (tracker.step signal).1.history rest

theorem run_append (tracker : Tracker) (first second : List Signal) :
    tracker.run (first ++ second) = (tracker.run first).run second := by
  simp [run]

theorem history_append (tracker : Tracker) (first second : List Signal) :
    tracker.history (first ++ second) =
      tracker.history first ++ (tracker.run first).history second := by
  induction first generalizing tracker with
  | nil => rfl
  | cons signal rest ih => simp [history, ih, run]

theorem current?_eq_some {tracker : Tracker} {number : Nat} {session : Session}
    (found : tracker.current? number = some session) :
    tracker.session = some session ∧ session.number = number := by
  simpa [current?, Option.filter_eq_some_iff] using found

/-- Whether a transition moves the session, with what its effects do to the sources of news. -/
def Moves (tracker : Tracker) (result : Tracker × List Effect) : Prop :=
  Move tracker.session tracker.sessions (result.2.filterMap Effect.occurrence?)
    result.1.session result.1.sessions

theorem moves_stay {tracker next : Tracker} {effects : List Effect}
    (session : next.session = tracker.session) (sessions : next.sessions = tracker.sessions)
    (quiet : effects.filterMap Effect.occurrence? = []) : Moves tracker (next, effects) := by
  unfold Moves
  rw [quiet, session, sessions]
  exact .stay

/-- Telling the outcome of an operation does nothing to the sources of news. -/
theorem Moves.finish {tracker : Tracker} {result : Tracker × List Effect}
    (moves : Moves tracker result) (ticket : Nat) (outcome : Outcome) :
    Moves tracker (result.1, result.2 ++ [.finish ticket outcome]) := by
  simpa [Moves, List.filterMap_append, List.filterMap_cons, Effect.occurrence?] using moves

theorem release_occurrences (tracker : Tracker) :
    tracker.release.2.filterMap Effect.occurrence? = closing tracker.session := by
  cases present : tracker.session with
  | none => simp [release, closing, listening, present]
  | some session =>
    by_cases live : session.feed = .live <;>
      simp [release, closing, listening, present, live, Effect.occurrence?]

theorem track_of_none {tracker : Tracker} (blank : tracker.liveToken? = none) (id : RunId)
    (prepare : Snapshot → Snapshot) :
    tracker.track id prepare =
      ({ tracker with
          session := none
          snapshot := { prepare tracker.snapshot with connection := .disconnected }.log
            "Live updates disabled: no session token." },
        tracker.release.2) := by
  simp [track, blank, release]

theorem track_of_some {tracker : Tracker} {token : String}
    (present : tracker.liveToken? = some token) (id : RunId) (prepare : Snapshot → Snapshot) :
    tracker.track id prepare =
      ({ tracker with
          session := some ⟨tracker.sessions + 1, id, .requesting⟩
          sessions := tracker.sessions + 1
          snapshot := { prepare tracker.snapshot with connection := .retrying } },
        tracker.release.2 ++ [.subscribe (tracker.sessions + 1) id token]) := by
  simp [track, present, release]

theorem moves_release (tracker : Tracker) : Moves tracker tracker.release := by
  unfold Moves
  rw [release_occurrences]
  exact .leave

theorem moves_detach (tracker : Tracker) : Moves tracker tracker.detach :=
  moves_release tracker

/-- Tracking a run ends the session, and begins another if there is a credential. -/
theorem moves_track (tracker : Tracker) (id : RunId) (prepare : Snapshot → Snapshot) :
    Moves tracker (tracker.track id prepare) := by
  cases credential : tracker.liveToken? with
  | none =>
    rw [track_of_none credential]
    exact moves_release tracker
  | some token =>
    rw [track_of_some credential]
    simp only [Moves, List.filterMap_append, release_occurrences]
    exact .enter id

theorem moves_invoke (tracker : Tracker) (ticket : Nat) (operation : Operation) :
    Moves tracker (tracker.invoke ticket operation) := by
  cases operation with
  | attach id => exact (moves_track tracker id (·.turnTo id)).finish ticket .done
  | detach => exact (moves_detach tracker).finish ticket .done
  | loadRun id => exact moves_stay rfl rfl rfl
  | openRun id => exact moves_stay rfl rfl rfl
  | listRuns => exact moves_stay rfl rfl rfl
  | startRun request =>
    simp only [invoke]
    split <;> exact moves_stay rfl rfl rfl
  | submitScore score =>
    simp only [invoke]
    split
    · exact moves_stay rfl rfl rfl
    · split <;> exact moves_stay rfl rfl rfl

theorem moves_succeed (tracker : Tracker) (run : Run) (errand : Errand) :
    Moves tracker (tracker.succeed run errand) := by
  cases errand with
  | loadRun => exact moves_stay rfl rfl rfl
  | openRun id => exact moves_track tracker id fun snapshot => (snapshot.turnTo id).store run
  | startRun => exact moves_track tracker run.id _
  | submitScore trialNumber score => exact moves_stay rfl rfl rfl

/-- The tracker once an operation is answered. -/
def settle (tracker : Tracker) (ticket : Nat) : Tracker :=
  { tracker with errands := tracker.errands.filter (·.1 ≠ ticket) }

theorem answer_ok {tracker : Tracker} {ticket : Nat} {errand : Errand}
    (found : tracker.errands.lookup ticket = some errand) (run : Run) :
    tracker.answer ticket (.ok run) =
      (((tracker.settle ticket).succeed run errand).1,
        ((tracker.settle ticket).succeed run errand).2 ++ [.finish ticket (.run (.ok run))]) := by
  simp only [answer, found]
  rfl

theorem answer_error {tracker : Tracker} {ticket : Nat} {errand : Errand}
    (found : tracker.errands.lookup ticket = some errand) (fault : Fault) :
    tracker.answer ticket (.error fault) =
      ((tracker.settle ticket).fail fault errand, [.finish ticket (.run (.error fault))]) := by
  simp only [answer, found]
  rfl

theorem answer_of_none {tracker : Tracker} {ticket : Nat}
    (missing : tracker.errands.lookup ticket = none) (result : Except Fault Run) :
    tracker.answer ticket result = (tracker, []) := by
  simp only [answer, missing]

theorem moves_answer (tracker : Tracker) (ticket : Nat) (result : Except Fault Run) :
    Moves tracker (tracker.answer ticket result) := by
  cases found : tracker.errands.lookup ticket with
  | none =>
    rw [answer_of_none found]
    exact moves_stay rfl rfl rfl
  | some errand =>
    cases result with
    | ok run =>
      rw [answer_ok found]
      exact (moves_succeed (tracker.settle ticket) run errand).finish ticket _
    | error fault =>
      rw [answer_error found]
      cases errand <;> exact moves_stay rfl rfl rfl

theorem moves_readClock (tracker : Tracker) (now : Nat) :
    Moves tracker (tracker.readClock now) := by
  unfold readClock
  split
  · rename_i session present
    split
    · rename_i due waiting
      split
      · unfold Moves
        rw [present]
        exact .poll _ waiting
      · exact moves_stay rfl rfl rfl
    · exact moves_stay rfl rfl rfl
  · exact moves_stay rfl rfl rfl

/-- What happens to the sources of news in a session whose turn it is. -/
theorem moves_inSession {tracker : Tracker} {number : Nat}
    {act : Session → Tracker × List Effect}
    (acts : ∀ session, tracker.session = some session → Moves tracker (act session)) :
    Moves tracker (tracker.inSession number act) := by
  unfold inSession
  split
  · rename_i session found
    exact acts session (current?_eq_some found).1
  · exact moves_stay rfl rfl rfl

theorem moves_refuse {tracker : Tracker} {session : Session}
    (present : tracker.session = some session) : Moves tracker (tracker.refuse session) := by
  unfold refuse
  split
  · rename_i asked
    unfold Moves
    rw [present]
    exact .wait _ (.inl asked)
  · exact moves_stay rfl rfl rfl

theorem moves_deliver (tracker : Tracker) (session : Session) (event : RunEvent) :
    Moves tracker (tracker.deliver session event) := by
  unfold deliver
  split <;> exact moves_stay rfl rfl rfl

theorem moves_finishLive {tracker : Tracker} {session : Session}
    (present : tracker.session = some session) : Moves tracker (tracker.finishLive session) := by
  unfold finishLive
  split
  · rename_i live
    unfold Moves
    rw [present]
    by_cases finished : tracker.snapshot.isFinished
    · rw [if_pos finished]
      exact .leave_live live
    · rw [if_neg finished]
      exact .lose _ live
  · exact moves_stay rfl rfl rfl

theorem moves_takePoll {tracker : Tracker} {session : Session}
    (present : tracker.session = some session) (result : Except Fault Run) :
    Moves tracker (tracker.takePoll session result) := by
  unfold takePoll
  split
  · rename_i next asking
    have quiet : session.feed ≠ .live := by simp [asking]
    unfold Moves
    rw [present]
    cases result with
    | error fault => exact .wait _ (.inr ⟨next, asking⟩)
    | ok run =>
      by_cases finished : run.isFinished
      · simp only [if_pos finished]
        exact .leave_quiet quiet
      · simp only [if_neg finished]
        exact .wait _ (.inr ⟨next, asking⟩)
  · exact moves_stay rfl rfl rfl

theorem accept_of_ne {tracker : Tracker} {session : Session} (other : session.feed ≠ .requesting) :
    tracker.accept session = (tracker, []) := by
  unfold accept
  split
  · rename_i asked
    exact absurd asked other
  · rfl

theorem moves_accepted (tracker : Tracker) (number : Nat) :
    Move tracker.session tracker.sessions (tracker.occurrences (.accepted number))
      (tracker.step (.accepted number)).1.session (tracker.step (.accepted number)).1.sessions := by
  cases found : tracker.current? number with
  | none =>
    simp only [occurrences, opened?, step, inSession, found]
    exact .stay
  | some session =>
    have present := (current?_eq_some found).1
    by_cases asked : session.feed = .requesting
    · simp only [occurrences, opened?, step, inSession, found, accept, asked, present,
        Option.filter_some, decide_true, if_true, Option.map_some]
      exact .listen asked
    · simp only [occurrences, opened?, step, inSession, found, accept_of_ne asked,
        Option.filter_some, asked, decide_false, Bool.false_eq_true, if_false, Option.map_none]
      exact .stay

/-- Every signal moves the session in one of the ways there are. -/
theorem step_moves (tracker : Tracker) (signal : Signal) :
    Move tracker.session tracker.sessions (tracker.occurrences signal)
      (tracker.step signal).1.session (tracker.step signal).1.sessions := by
  cases signal with
  | invoked ticket operation => exact moves_invoke tracker ticket operation
  | answered ticket result => exact moves_answer tracker ticket result
  | listed ticket result => exact .stay
  | accepted number => exact moves_accepted tracker number
  | refused number => exact moves_inSession fun session present => moves_refuse present
  | delivered number event =>
    exact moves_inSession fun session present => moves_deliver tracker session event
  | ended number => exact moves_inSession fun session present => moves_finishLive present
  | polled number result =>
    exact moves_inSession fun session present => moves_takePoll present result
  | clock now => exact moves_readClock tracker now
  | dropped => exact moves_release tracker

end Tracker
end Cupping.Tracking

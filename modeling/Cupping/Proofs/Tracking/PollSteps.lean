import Cupping.Proofs.Tracking.Connection
import Cupping.Proofs.Tracking.Record

/-!
What a signal does to a session that has fallen back to polling. Such a session only waits for the
clock and for the answer to its poll, and an answer is taken in as it is.
-/

namespace Cupping.Tracking

/-- Whether an answer to a poll is the last one that is needed: a run that is finished. -/
def isLast : Except Fault Run → Bool
  | .ok run => run.isFinished
  | .error _ => false

/-- What an answer to a poll makes of what is known. -/
def Snapshot.heed (snapshot : Snapshot) : Except Fault Run → Snapshot
  | .error fault => { snapshot with lastError := some fault.brief }
  | .ok run =>
    if run.isFinished then
      { snapshot with
        run := some run
        connection := .disconnected
        activity := snapshot.activity.push "Run finished." }
    else { snapshot with run := some run }

theorem Snapshot.connection_heed (snapshot : Snapshot) (result : Except Fault Run) :
    (snapshot.heed result).connection =
      if isLast result then .disconnected else snapshot.connection := by
  cases result with
  | error fault => rfl
  | ok run => cases finished : run.isFinished <;> simp [heed, isLast, finished]

theorem Fallen.cases {feed : Feed} (fallen : Fallen feed) :
    (∃ due, feed = .polling due) ∨ ∃ next, feed = .asking next := by
  cases feed with
  | requesting => exact absurd rfl fallen.1
  | live => exact absurd rfl fallen.2
  | polling due => exact .inl ⟨due, rfl⟩
  | asking next => exact .inr ⟨next, rfl⟩

/-- A move that leaves the session as it is makes no poll. -/
theorem Move.unpolled {count total : Nat} {news : List Occurrence} {session after : Option Session}
    (moved : Move session count news after total) (same : after = session) (number : Nat) :
    .polled number ∉ news := by
  intro member
  cases moved with
  | stay => cases member
  | leave =>
    obtain ⟨current, -, -, closed⟩ := mem_closing member
    cases closed
  | enter id =>
    rcases List.mem_append.mp member with old | new
    · obtain ⟨current, -, -, closed⟩ := mem_closing old
      cases closed
    · simp at new
  | listen | lose => simp at member
  | wait => cases member
  | poll next waiting =>
    have feed := congrArg Session.feed (Option.some.inj same)
    rw [waiting] at feed
    cases feed

namespace Tracker

/-- Whether a session has polled and waits for the answer. -/
def isAsking (tracker : Tracker) (number : Nat) : Bool :=
  match tracker.feed? number with
  | some (.asking _) => true
  | _ => false

/-- The answer to its poll that a session receives with a signal. -/
def taken? (tracker : Tracker) (number : Nat) : Signal → Option (Except Fault Run)
  | .polled other result => if other = number ∧ tracker.isAsking number then some result else none
  | _ => none

/-- Whether a signal replaces the session or gives it up. -/
def Cancels (tracker : Tracker) (signal : Signal) : Prop :=
  signal.session? = none ∧ tracker.endsSession signal = true

instance (tracker : Tracker) (signal : Signal) : Decidable (tracker.Cancels signal) :=
  inferInstanceAs (Decidable (_ ∧ _))

theorem endsSession_of_kept {tracker : Tracker} {signal : Signal}
    (unmeant : signal.session? = none) (kept : ¬ tracker.Cancels signal) :
    tracker.endsSession signal = false :=
  Bool.eq_false_iff.mpr fun ends => kept ⟨unmeant, ends⟩

/-- Whether a session falls back to polling with a signal. -/
def TurnsToPolling (tracker : Tracker) (number : Nat) (signal : Signal) : Prop :=
  (∃ current, tracker.session = some current ∧ current.number = number ∧ ¬ Fallen current.feed) ∧
    (tracker.step signal).1.IsPolling number

variable {tracker : Tracker} {current : Session} {signal : Signal} {number : Nat}

theorem current?_of_present (present : tracker.session = some current) (number : Nat) :
    tracker.current? number = if current.number = number then some current else none := by
  by_cases same : current.number = number <;> simp [current?, present, same]

theorem isAsking_iff : tracker.isAsking number = true ↔
    ∃ current next, tracker.current? number = some current ∧ current.feed = .asking next := by
  unfold isAsking feed?
  cases tracker.current? number with
  | none => simp
  | some current => cases feed : current.feed <;> simp [feed]

theorem isAsking_of_session {next : Tracker} (same : next.session = tracker.session) :
    next.isAsking number = tracker.isAsking number := by
  simp only [isAsking, feed?, current?, same]

theorem isAsking_eq_false {due : Option Nat} (present : tracker.session = some current)
    (waiting : current.feed = .polling due) : tracker.isAsking number = false := by
  refine Bool.eq_false_iff.mpr fun asking => ?_
  obtain ⟨session, next, found, feed⟩ := isAsking_iff.mp asking
  obtain rfl := Option.some.inj ((current?_eq_some found).1.symm.trans present)
  rw [waiting] at feed
  cases feed

theorem isAsking_eq_true {next : Nat} (present : tracker.session = some current)
    (asking : current.feed = .asking next) : tracker.isAsking current.number = true :=
  isAsking_iff.mpr ⟨current, next, by simp [current?_of_present present], asking⟩

/-- A session that has fallen back takes no notice of signals for sessions, except for the answer
that it waits for. -/
theorem step_eq_of_fallen (present : tracker.session = some current) (fallen : Fallen current.feed)
    (meant : signal.session? = some number)
    (untaken : tracker.taken? current.number signal = none) :
    tracker.step signal = (tracker, []) := by
  have ignored (act : Session → Tracker × List Effect)
      (waits : ∀ due, current.feed = .polling due → act current = (tracker, []))
      (asks : ∀ next, current.feed = .asking next → current.number = number →
        act current = (tracker, [])) :
      tracker.inSession number act = (tracker, []) := by
    rw [inSession, current?_of_present present]
    by_cases same : current.number = number
    · rw [if_pos same]
      rcases fallen.cases with ⟨due, feed⟩ | ⟨next, feed⟩
      · exact waits due feed
      · exact asks next feed same
    · rw [if_neg same]
  cases signal with
  | accepted other =>
    obtain rfl := Option.some.inj meant
    exact ignored _ (fun _ feed => by simp [accept, feed]) fun _ feed _ => by simp [accept, feed]
  | refused other =>
    obtain rfl := Option.some.inj meant
    exact ignored _ (fun _ feed => by simp [refuse, feed]) fun _ feed _ => by simp [refuse, feed]
  | delivered other event =>
    obtain rfl := Option.some.inj meant
    exact ignored _ (fun _ feed => by simp [deliver, feed]) fun _ feed _ => by simp [deliver, feed]
  | ended other =>
    obtain rfl := Option.some.inj meant
    exact ignored _ (fun _ feed => by simp [finishLive, feed])
      fun _ feed _ => by simp [finishLive, feed]
  | polled other result =>
    obtain rfl := Option.some.inj meant
    refine ignored _ (fun _ feed => by simp [takePoll, feed]) fun next feed same => ?_
    subst same
    have found : tracker.current? current.number = some current := by
      simp [current?_of_present present]
    have asking := isAsking_iff.mpr ⟨current, next, found, feed⟩
    simp [taken?, asking] at untaken
  | invoked | answered | listed | clock | dropped => cases meant

/-- A poll that is due is made, and the next one is due a period later. -/
theorem step_clock_of_due {due now : Nat} (present : tracker.session = some current)
    (waiting : current.feed = .polling (some due)) (reached : due ≤ now) :
    tracker.step (.clock now) =
      ({ tracker with
          now
          session := some { current with feed := .asking (nextPoll tracker.period due now) } },
        [.poll current.number current.runId]) := by
  simp [step, readClock, present, waiting, reached, setFeed]

theorem le_nextPoll (period due now : Nat) : due + period ≤ nextPoll period due now := by
  unfold nextPoll
  split <;> omega

/-- An answer is taken in as it is. With a finished run the session ends, and else its next poll
comes when it was going to. -/
theorem step_of_taken {result : Except Fault Run}
    (taken : tracker.taken? number signal = some result) :
    ∃ current next, tracker.session = some current ∧ current.number = number ∧
      current.feed = .asking next ∧ signal = .polled number result ∧
      tracker.step signal =
        ({ tracker with
            snapshot := tracker.snapshot.heed result
            session := if isLast result then none
              else some { current with feed := .polling (some next) } }, []) := by
  cases signal with
  | polled other answer =>
    obtain ⟨⟨rfl, asking⟩, same⟩ := Option.ite_none_right_eq_some.mp taken
    obtain rfl := Option.some.inj same
    obtain ⟨current, next, found, feed⟩ := isAsking_iff.mp asking
    obtain ⟨present, own⟩ := current?_eq_some found
    refine ⟨current, next, present, own, feed, rfl, ?_⟩
    cases answer with
    | error fault =>
      simp only [step, inSession, found, takePoll, feed]
      rfl
    | ok run =>
      cases finished : run.isFinished with
      | true =>
        simp only [step, inSession, found, takePoll, feed, isLast, Snapshot.heed, finished, if_true]
        rfl
      | false =>
        simp only [step, inSession, found, takePoll, feed, isLast, Snapshot.heed, finished,
          Bool.false_eq_true, if_false]
        rfl
  | invoked | answered | listed | accepted | refused | delivered | ended | clock | dropped =>
    cases taken

theorem not_isPolling_track (tracker : Tracker) (id : RunId) (prepare : Snapshot → Snapshot)
    (number : Nat) : ¬ (tracker.track id prepare).1.IsPolling number := by
  rintro ⟨current, due, present, -, feed⟩
  cases credential : tracker.liveToken? with
  | none =>
    rw [track_of_none credential] at present
    cases present
  | some token =>
    rw [track_of_some credential] at present
    cases present
    cases feed

/-- No session polls right after the one before has been replaced or given up. -/
theorem not_isPolling_of_cancels (cancels : tracker.Cancels signal) (number : Nat) :
    ¬ (tracker.step signal).1.IsPolling number := by
  obtain ⟨unmeant, ends⟩ := cancels
  have gone {next : Tracker} (none : next.session = none) : ¬ next.IsPolling number := by
    rintro ⟨current, due, present, -⟩
    rw [none] at present
    cases present
  cases signal with
  | invoked ticket operation =>
    cases operation with
    | attach id => exact not_isPolling_track tracker id (·.turnTo id) number
    | detach => exact gone rfl
    | loadRun | openRun | listRuns | startRun | submitScore => cases ends
  | answered ticket result =>
    cases result with
    | error fault => cases ends
    | ok run =>
      cases found : tracker.errands.lookup ticket with
      | none => simp [endsSession, found] at ends
      | some errand =>
        simp only [step, answer_ok found]
        cases errand with
        | openRun id => exact not_isPolling_track (tracker.settle ticket) id _ number
        | startRun => exact not_isPolling_track (tracker.settle ticket) run.id _ number
        | loadRun | submitScore => simp [endsSession, found] at ends
  | dropped => exact gone rfl
  | listed | clock => cases ends
  | accepted | refused | delivered | ended | polled => cases unmeant

/-- A session falls back to polling in one way, whatever has made it. -/
theorem step_of_turnsToPolling (turns : tracker.TurnsToPolling number signal) :
    ∃ current, tracker.session = some current ∧ current.number = number ∧
      (tracker.step signal).1 = tracker.startPolling current := by
  obtain ⟨⟨current, present, own, stands⟩, polling⟩ := turns
  refine ⟨current, present, own, ?_⟩
  have moved : (tracker.step signal).1.session ≠ tracker.session := by
    intro same
    obtain ⟨later, due, there, -, feed⟩ := polling
    rw [same, present] at there
    obtain rfl := Option.some.inj there
    exact stands (by simp [Fallen, feed])
  have acts {other : Nat} {act : Session → Tracker × List Effect}
      (stepped : tracker.step signal = tracker.inSession other act) :
      tracker.step signal = act current := by
    rw [inSession, current?_of_present present] at stepped
    split at stepped
    · rename_i session found
      obtain ⟨-, same⟩ := Option.ite_none_right_eq_some.mp found
      rw [stepped, Option.some.inj same]
    · exact absurd (by rw [stepped]) moved
  cases meant : signal.session? with
  | none =>
    have goesOn : tracker.endsSession signal = false := Bool.eq_false_iff.mpr fun ends =>
      not_isPolling_of_cancels ⟨meant, ends⟩ number polling
    refine absurd (session_of_unmeant meant goesOn fun now due _ next => ?_) moved
    obtain ⟨session, there, waiting⟩ := nextDue?_eq_some.mp next
    obtain rfl := Option.some.inj (there.symm.trans present)
    exact absurd (by simp [Fallen, waiting]) stands
  | some other =>
    cases signal with
    | accepted other =>
      have stepped := acts rfl
      unfold accept at stepped
      split at stepped
      · obtain ⟨later, due, there, -, feed⟩ := polling
        rw [stepped] at there
        cases there
        cases feed
      · exact absurd (by rw [stepped]) moved
    | refused other =>
      have stepped := acts rfl
      unfold refuse at stepped
      split at stepped
      · rw [stepped]
      · exact absurd (by rw [stepped]) moved
    | delivered other event =>
      have stepped := acts rfl
      unfold deliver at stepped
      split at stepped
      · exact absurd (by rw [stepped]; rfl) moved
      · exact absurd (by rw [stepped]) moved
    | ended other =>
      have stepped := acts rfl
      rcases tracker.finishLive_cases current with ignored | ⟨next, rfl | rfl, ended⟩
      · exact absurd (by rw [stepped, ignored]) moved
      · obtain ⟨later, due, there, -⟩ := polling
        rw [stepped, ended] at there
        cases there
      · rw [stepped, ended]
    | polled other result =>
      have stepped := acts rfl
      unfold takePoll at stepped
      split at stepped
      · rename_i next asking
        exact absurd (by simp [Fallen, asking]) stands
      · exact absurd (by rw [stepped]) moved
    | invoked | answered | listed | clock | dropped => cases meant

end Tracker
end Cupping.Tracking

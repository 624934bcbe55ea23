import Cupping.Proofs.Tracking.Connection

/-!
What a tracker forgets. When it is detached or starts a run, it becomes a new tracker, except that
it has had some sessions already and that some time has gone by. Neither is ever seen: every step
commutes with a shift of both.
-/

namespace Cupping.Tracking

/-- The same feed, some time later. -/
def Feed.delayed (time : Nat) : Feed → Feed
  | requesting => requesting
  | live => live
  | polling due => polling (due.map (· + time))
  | asking next => asking (next + time)

/-- The same session, with some more before it and some time later. -/
def Session.delayed (count time : Nat) (session : Session) : Session :=
  ⟨session.number + count, session.runId, session.feed.delayed time⟩

/-- The same signal to a session with some more before it, or at a later time. -/
def Signal.delayed (count time : Nat) : Signal → Signal
  | accepted session => accepted (session + count)
  | refused session => refused (session + count)
  | delivered session event => delivered (session + count) event
  | ended session => ended (session + count)
  | polled session result => polled (session + count) result
  | clock now => clock (now + time)
  | invoked ticket operation => invoked ticket operation
  | answered ticket result => answered ticket result
  | listed ticket result => listed ticket result
  | dropped => dropped

/-- The same effect of a session with some more before it. -/
def Effect.delayed (count : Nat) : Effect → Effect
  | subscribe session id token => subscribe (session + count) id token
  | close session id => close (session + count) id
  | poll session id => poll (session + count) id
  | ask ticket call => ask ticket call
  | finish ticket outcome => finish ticket outcome

/-- Whether a signal is not meant for one of the first sessions. -/
def Signal.isSince (count : Nat) (signal : Signal) : Bool :=
  signal.session?.all (count < ·)

@[simp]
theorem Feed.delayed_eq_live {time : Nat} {feed : Feed} :
    feed.delayed time = .live ↔ feed = .live := by
  cases feed <;> simp [delayed]

namespace Tracker

/-- The same tracker after some more sessions and some time later. -/
def delayed (count time : Nat) (tracker : Tracker) : Tracker :=
  { tracker with
    now := tracker.now + time
    session := tracker.session.map (·.delayed count time)
    sessions := tracker.sessions + count }

/-- The same transition after some more sessions and some time later. -/
def delayedStep (count time : Nat) (result : Tracker × List Effect) : Tracker × List Effect :=
  (result.1.delayed count time, result.2.map (·.delayed count))

variable (count time : Nat) (tracker : Tracker)

theorem release_delayed : (tracker.delayed count time).release =
    delayedStep count time tracker.release := by
  cases present : tracker.session with
  | none => simp [release, delayedStep, delayed, present]
  | some session =>
    by_cases live : session.feed = .live <;>
      simp [release, delayedStep, delayed, present, Session.delayed, live, Effect.delayed]

theorem track_delayed (id : RunId) (prepare : Snapshot → Snapshot) :
    (tracker.delayed count time).track id prepare =
      delayedStep count time (tracker.track id prepare) := by
  have same : (tracker.delayed count time).liveToken? = tracker.liveToken? := rfl
  have released := congrArg Prod.snd (release_delayed count time tracker)
  cases credential : tracker.liveToken? with
  | none =>
    rw [track_of_none credential, track_of_none (same.trans credential), released]
    rfl
  | some token =>
    rw [track_of_some credential, track_of_some (same.trans credential), released]
    have number : tracker.sessions + count + 1 = tracker.sessions + 1 + count := by omega
    simp [delayedStep, delayed, Session.delayed, Feed.delayed, Effect.delayed, number]

theorem delayedStep_finish (result : Tracker × List Effect) (ticket : Nat) (outcome : Outcome) :
    delayedStep count time (result.1, result.2 ++ [.finish ticket outcome]) =
      ((delayedStep count time result).1,
        (delayedStep count time result).2 ++ [.finish ticket outcome]) := by
  simp [delayedStep, Effect.delayed]

theorem invoke_delayed (ticket : Nat) (operation : Operation) :
    (tracker.delayed count time).invoke ticket operation =
      delayedStep count time (tracker.invoke ticket operation) := by
  cases operation with
  | attach id =>
    rw [invoke, invoke, delayedStep_finish, track_delayed]
  | detach =>
    have left : (tracker.delayed count time).detach = delayedStep count time tracker.detach := by
      rw [detach, release_delayed]
      rfl
    rw [invoke, invoke, delayedStep_finish, left]
  | loadRun | openRun | listRuns => rfl
  | startRun request =>
    simp only [invoke]
    split <;> rfl
  | submitScore score =>
    have known : (tracker.delayed count time).snapshot = tracker.snapshot := rfl
    simp only [invoke, known]
    split
    · rfl
    · split <;> rfl

theorem succeed_delayed (run : Run) (errand : Errand) :
    (tracker.delayed count time).succeed run errand =
      delayedStep count time (tracker.succeed run errand) := by
  cases errand with
  | loadRun | submitScore => rfl
  | openRun id =>
    exact track_delayed count time tracker id fun snapshot => (snapshot.turnTo id).store run
  | startRun =>
    exact track_delayed count time tracker run.id fun _ =>
      ((Snapshot.fresh (some run.id)).log ("Run started: " ++ run.id.write)).store run

theorem answer_delayed (ticket : Nat) (result : Except Fault Run) :
    (tracker.delayed count time).answer ticket result =
      delayedStep count time (tracker.answer ticket result) := by
  have same : (tracker.delayed count time).errands = tracker.errands := rfl
  cases found : tracker.errands.lookup ticket with
  | none => rw [answer_of_none found, answer_of_none (same ▸ found)]; rfl
  | some errand =>
    cases result with
    | ok run =>
      have settled : (tracker.delayed count time).settle ticket =
          (tracker.settle ticket).delayed count time := rfl
      rw [answer_ok found, answer_ok (same ▸ found), delayedStep_finish, settled, succeed_delayed]
    | error fault =>
      rw [answer_error found, answer_error (same ▸ found)]
      cases errand <;> rfl

theorem inSession_delayed {act acts : Session → Tracker × List Effect}
    (delays : ∀ session, acts (session.delayed count time) = delayedStep count time (act session))
    (number : Nat) :
    (tracker.delayed count time).inSession (number + count) acts =
      delayedStep count time (tracker.inSession number act) := by
  have found : (tracker.delayed count time).current? (number + count) =
      (tracker.current? number).map (·.delayed count time) := by
    cases present : tracker.session with
    | none => simp [current?, delayed, present]
    | some session =>
      by_cases own : session.number = number <;>
        simp [current?, delayed, present, Session.delayed, Option.filter_some, own]
  simp only [inSession, found]
  cases tracker.current? number with
  | none => rfl
  | some session => exact delays session

theorem startPolling_delayed (session : Session) :
    (tracker.delayed count time).startPolling (session.delayed count time) =
      (tracker.startPolling session).delayed count time := by
  have due : tracker.now + time + tracker.period = tracker.now + tracker.period + time := by omega
  by_cases unpaced : tracker.period = 0 <;>
    simp [startPolling, setFeed, update, delayed, Session.delayed, Feed.delayed, unpaced, due]

theorem finishLive_delayed (session : Session) :
    (tracker.delayed count time).finishLive (session.delayed count time) =
      delayedStep count time (tracker.finishLive session) := by
  have known : (tracker.delayed count time).snapshot = tracker.snapshot := rfl
  cases feed : session.feed with
  | live =>
    have fed : (session.delayed count time).feed = .live := by
      rw [Session.delayed, feed, Feed.delayed]
    simp only [finishLive, feed, fed, known, startPolling_delayed]
    by_cases finished : tracker.snapshot.isFinished = true <;> simp only [finished] <;> rfl
  | requesting | polling | asking =>
    simp [finishLive, Session.delayed, Feed.delayed, feed, delayedStep]

theorem takePoll_delayed (session : Session) (result : Except Fault Run) :
    (tracker.delayed count time).takePoll (session.delayed count time) result =
      delayedStep count time (tracker.takePoll session result) := by
  cases feed : session.feed with
  | asking next =>
    have fed : (session.delayed count time).feed = .asking (next + time) := by
      rw [Session.delayed, feed, Feed.delayed]
    simp only [takePoll, feed, fed]
    cases result with
    | error fault => rfl
    | ok run =>
      by_cases finished : run.isFinished = true <;> simp only [finished] <;> rfl
  | requesting | polling | live =>
    simp [takePoll, Session.delayed, Feed.delayed, feed, delayedStep]

theorem readClock_delayed (now : Nat) :
    (tracker.delayed count time).readClock (now + time) =
      delayedStep count time (tracker.readClock now) := by
  have next (due : Nat) : nextPoll tracker.period (due + time) (now + time) =
      nextPoll tracker.period due now + time := by
    unfold nextPoll
    split <;> split <;> omega
  cases present : tracker.session with
  | none => simp [readClock, delayedStep, delayed, present]
  | some session =>
    cases feed : session.feed with
    | requesting | live | asking =>
      simp [readClock, delayedStep, delayed, present, Session.delayed, Feed.delayed, feed]
    | polling due =>
      cases due with
      | none => simp [readClock, delayedStep, delayed, present, Session.delayed, Feed.delayed, feed]
      | some due =>
        by_cases reached : due ≤ now <;>
          simp [readClock, delayedStep, delayed, present, Session.delayed, Feed.delayed, feed,
            reached, setFeed, next, Effect.delayed]

/-- A step does the same after some more sessions and some time later. -/
theorem step_delayed (signal : Signal) :
    (tracker.delayed count time).step (signal.delayed count time) =
      delayedStep count time (tracker.step signal) := by
  cases signal with
  | invoked ticket operation => exact invoke_delayed count time tracker ticket operation
  | answered ticket result => exact answer_delayed count time tracker ticket result
  | listed ticket result => rfl
  | accepted number =>
    refine inSession_delayed count time tracker (fun session => ?_) number
    cases feed : session.feed <;> simp [accept, Session.delayed, Feed.delayed, feed] <;> rfl
  | refused number =>
    refine inSession_delayed count time tracker (fun session => ?_) number
    have polls := startPolling_delayed count time tracker session
    cases feed : session.feed <;>
      simp_all [refuse, Session.delayed, Feed.delayed, delayedStep]
  | delivered number event =>
    refine inSession_delayed count time tracker (fun session => ?_) number
    cases feed : session.feed <;> simp [deliver, Session.delayed, Feed.delayed, feed] <;> rfl
  | ended number =>
    exact inSession_delayed count time tracker (finishLive_delayed count time tracker) number
  | polled number result =>
    exact inSession_delayed count time tracker (takePoll_delayed count time tracker · result) number
  | clock now => exact readClock_delayed count time tracker now
  | dropped => exact release_delayed count time tracker

/-- Whether from now on a tracker does what a new one does, however things go on. Its sessions are
numbered after a count of earlier ones, and its times are counted from a moment; apart from that it
knows the same of the run, and it asks, tells and closes the same. What is still meant for an
earlier session makes no difference. -/
def GoesOnLike (old new : Tracker) (count time : Nat) : Prop :=
  ∀ whole later, whole.filter (·.isSince count) = later.map (·.delayed count time) →
    (old.run whole).snapshot = (new.run later).snapshot ∧
      old.performs whole = (new.performs later).map (·.delayed count)

/-- A tracker whose earlier sessions are over goes on like the one that has not had them. -/
theorem goesOnLike_delayed
    (ceased : ∀ number ≤ count, (tracker.delayed count time).IsOver number) :
    (tracker.delayed count time).GoesOnLike tracker count time := by
  intro whole later alike
  induction whole generalizing tracker later with
  | nil =>
    obtain rfl : later = [] := by simpa using alike.symm
    exact ⟨rfl, rfl⟩
  | cons signal rest ih =>
    by_cases since : signal.isSince count = true
    · rw [List.filter_cons_of_pos since] at alike
      obtain ⟨first, others, rfl, rfl, same⟩ := List.map_eq_cons_iff.mp alike.symm
      have stepped := step_delayed count time tracker first
      have still (number : Nat) (known : number ≤ count) :
          ((tracker.step first).1.delayed count time).IsOver number := by
        have kept := (ceased number known).run [first.delayed count time]
        rwa [run, List.foldl_cons, List.foldl_nil, stepped] at kept
      obtain ⟨snapshot, effects⟩ := ih (tracker.step first).1 still others same.symm
      constructor
      · rw [run, List.foldl_cons, stepped]
        exact snapshot
      · rw [performs, performs, stepped, List.map_append, ← effects]
        rfl
    · rw [List.filter_cons_of_neg since] at alike
      obtain ⟨number, meant, earlier⟩ :
          ∃ number, signal.session? = some number ∧ number ≤ count := by
        simpa [Signal.isSince, Option.all_eq_true] using since
      have ignored := (ceased number earlier).step_eq meant
      obtain ⟨snapshot, effects⟩ := ih tracker ceased later alike
      constructor
      · rw [run, List.foldl_cons, ignored]
        exact snapshot
      · rw [performs, ignored]
        exact effects

variable {tracker}

/-- To end a session closes its live updates and nothing else. -/
theorem release_cases (tracker : Tracker) : tracker.release.2 = [] ∨
    ∃ current, tracker.session = some current ∧
      tracker.release.2 = [.close current.number current.runId] := by
  cases present : tracker.session with
  | none => exact .inl (by simp [release, present])
  | some session =>
    by_cases live : session.feed = .live
    · exact .inr ⟨session, rfl, by simp [release, present, live]⟩
    · exact .inl (by simp [release, present, live])

/-- A detached tracker for which nothing is under way is a new one. -/
theorem detach_eq_delayed (settled : tracker.errands = []) (ticket : Nat) :
    (tracker.step (.invoked ticket .detach)).1 =
      (initial tracker.token tracker.period).delayed tracker.sessions tracker.now := by
  simp [step, invoke, detach, release, initial, delayed, settled]

/-- To track a run with a snapshot that is not made from the present one takes a tracker to where it
takes a new one. -/
theorem track_eq_delayed (settled : tracker.errands = []) (id : RunId) (snapshot : Snapshot) :
    let new := (initial tracker.token tracker.period).track id fun _ => snapshot
    tracker.track id (fun _ => snapshot) =
      (new.1.delayed tracker.sessions tracker.now,
        tracker.release.2 ++ new.2.map (·.delayed tracker.sessions)) := by
  have same : (initial tracker.token tracker.period).liveToken? = tracker.liveToken? := rfl
  cases credential : tracker.liveToken? with
  | none =>
    rw [track_of_none credential, track_of_none (same.trans credential)]
    simp [initial, delayed, release, settled]
  | some token =>
    rw [track_of_some credential, track_of_some (same.trans credential)]
    simp [initial, delayed, release, settled, Session.delayed, Feed.delayed, Effect.delayed,
      Nat.add_comm]

/-- A run that has been started is tracked as it would be by a new tracker. -/
theorem answer_eq_delayed {ticket : Nat} (waiting : tracker.errands = [(ticket, .startRun)])
    (run : Run) :
    let new := { initial tracker.token tracker.period with errands := [(ticket, .startRun)] }
    tracker.step (.answered ticket (.ok run)) =
      ((new.step (.answered ticket (.ok run))).1.delayed tracker.sessions tracker.now,
        tracker.release.2 ++
          (new.step (.answered ticket (.ok run))).2.map (·.delayed tracker.sessions)) := by
  intro new
  have found : tracker.errands.lookup ticket = some .startRun := by simp [waiting]
  have foundAnew : new.errands.lookup ticket = some .startRun := by simp [new]
  have settled : (tracker.settle ticket).errands = [] := by simp [settle, waiting]
  have unasked : new.settle ticket = initial tracker.token tracker.period := by
    simp [settle, new, initial]
  have tracked := track_eq_delayed settled run.id
    (((Snapshot.fresh (some run.id)).log ("Run started: " ++ run.id.write)).store run)
  rw [step, step, answer_ok found, answer_ok foundAnew, unasked]
  simp only [succeed]
  rw [tracked]
  simp only [List.map_append, List.append_assoc]
  rfl

/-- What happens without the user changes nothing about the operations under way. -/
theorem errands_run {between : List Signal}
    (background : ∀ signal ∈ between, signal.ticket? = none) :
    (tracker.run between).errands = tracker.errands := by
  induction between generalizing tracker with
  | nil => rfl
  | cons signal rest ih =>
    have kept : (tracker.step signal).1.errands = tracker.errands := by
      have quiet := background signal (.head _)
      rw [errands_step]
      cases signal with
      | invoked | answered | listed => cases quiet
      | accepted | refused | delivered | ended | polled | clock | dropped => rfl
    exact (ih fun later member => background later (.tail _ member)).trans kept

/-- To start a run that may be started is the same for every tracker: it asks, and it waits. -/
theorem step_startRun {request : StartRequest} (accepts : ¬ tracker.Rejects (.startRun request))
    (ticket : Nat) : ∃ call, ∀ any : Tracker, any.step (.invoked ticket (.startRun request)) =
      (any.withErrands (any.errands ++ [(ticket, .startRun)]), [.ask ticket call]) := by
  rcases make_startRequest request.method request.trials request.persons with
    ⟨outside, -⟩ | ⟨-, allowed, made⟩
  · exact absurd outside accepts
  · exact ⟨.startRun allowed, fun any => by simp [step, invoke, made, ask, withErrands]⟩

/-- A tracker for which nothing is under way forgets its past when it is detached, and when a run is
started: from then on it does what a new tracker does, or one that has just started that run. Of the
past there is only the channel to be closed. -/
theorem past_forgotten (token : Option String) (period : Nat) {signals : List Signal}
    (settled : ((initial token period).run signals).errands = []) :
    let start := initial token period
    let tracker := start.run signals
    (∀ ticket,
      let detached := (tracker.step (.invoked ticket .detach)).1
      detached.snapshot = start.snapshot ∧
        detached.GoesOnLike start tracker.sessions tracker.now) ∧
    ∀ ticket request between run, ¬ start.Rejects (.startRun request) →
      (∀ signal ∈ between, signal.ticket? = none) →
      let invoked : Signal := .invoked ticket (.startRun request)
      let answered : Signal := .answered ticket (.ok run)
      let asked := (tracker.step invoked).1.run between
      let old := asked.step answered
      let new := (start.step invoked).1.step answered
      (tracker.step invoked).2 = (start.step invoked).2 ∧
      old.1.snapshot = new.1.snapshot ∧
      old.1.GoesOnLike new.1 asked.sessions asked.now ∧
      ∃ closed, old.2 = closed ++ new.2.map (·.delayed asked.sessions) ∧
        (closed = [] ∨ ∃ current, asked.session = some current ∧
          closed = [.close current.number current.runId]) := by
  intro start tracker
  obtain ⟨ownToken, ownPeriod⟩ : start.Settled tracker := settled_run start signals
  refine ⟨fun ticket => ?_, fun ticket request between run accepts background => ?_⟩
  · have renewed := detach_eq_delayed settled ticket
    rw [ownToken, ownPeriod] at renewed
    intro detached
    have ceased (number : Nat) (known : number ≤ tracker.sessions) : detached.IsOver number :=
      isOver_of_endsSession rfl known
    rw [show detached = _ from renewed] at ceased ⊢
    exact ⟨rfl, goesOnLike_delayed _ _ _ ceased⟩
  · intro invoked answered asked old new
    obtain ⟨call, invocation⟩ := step_startRun accepts ticket
    have waiting : asked.errands = [(ticket, .startRun)] := by
      rw [errands_run background, invocation tracker, withErrands, settled]
      rfl
    have begun : (start.step invoked).1 = { start with errands := [(ticket, .startRun)] } := by
      rw [invocation start]
      rfl
    obtain ⟨invokedToken, invokedPeriod⟩ := settled_step tracker invoked
    obtain ⟨askedToken, askedPeriod⟩ := settled_run (tracker.step invoked).1 between
    have sameToken : asked.token = token := askedToken.trans (invokedToken.trans ownToken)
    have samePeriod : asked.period = period := askedPeriod.trans (invokedPeriod.trans ownPeriod)
    have taken : old = (new.1.delayed asked.sessions asked.now,
        asked.release.2 ++ new.2.map (·.delayed asked.sessions)) := by
      have same := answer_eq_delayed waiting run
      rw [sameToken, samePeriod] at same
      simpa only [new, begun] using same
    have ceased (number : Nat) (known : number ≤ asked.sessions) : old.1.IsOver number := by
      refine isOver_of_endsSession ?_ known
      simp [answered, endsSession, waiting]
    rw [taken] at ceased ⊢
    refine ⟨?_, rfl, goesOnLike_delayed _ _ _ ceased, asked.release.2, rfl, asked.release_cases⟩
    rw [invocation tracker, invocation start]

/-- A tracker with live updates and an event is detached, or starts another run while a second event
arrives. -/
theorem past_forgotten_while_live :
    let first : RunId := ⟨List.replicate 32 0, rfl⟩
    let second : RunId := ⟨List.replicate 32 1, rfl⟩
    let event : RunEvent := ⟨4, .running, none, none, none, some 8.0⟩
    let request : StartRequest := ⟨.median, 9, []⟩
    let run : Run := ⟨second, .idle, none, none, 0, 9, .median, [], none, none⟩
    let start := initial (some "token") 2000
    let signals : List Signal :=
      [.invoked 0 (.attach first), .clock 700, .accepted 1, .delivered 1 event]
    let tracker := start.run signals
    let detached := (tracker.step (.invoked 1 .detach)).1
    let whole : List Signal :=
      [.delivered 1 event, .invoked 2 (.attach second), .refused 2, .clock 2700]
    let later : List Signal := [.invoked 2 (.attach second), .refused 1, .clock 2000]
    let asked := (tracker.step (.invoked 1 (.startRun request))).1.run [.delivered 1 event]
    let new := (start.step (.invoked 1 (.startRun request))).1
    tracker.errands = [] ∧
      whole.filter (·.isSince tracker.sessions) =
        later.map (·.delayed tracker.sessions tracker.now) ∧
      (detached.run whole).snapshot = (start.run later).snapshot ∧
      detached.performs whole = (start.performs later).map (·.delayed tracker.sessions) ∧
      ¬ start.Rejects (.startRun request) ∧
      (asked.step (.answered 1 (.ok run))).1.snapshot =
        (new.step (.answered 1 (.ok run))).1.snapshot := by
  intro first second event request run start signals tracker detached whole later asked new
  have settled : tracker.errands = [] := rfl
  have alike : whole.filter (·.isSince tracker.sessions) =
      later.map (·.delayed tracker.sessions tracker.now) := rfl
  have accepts : ¬ start.Rejects (.startRun request) := by
    rw [Rejects]
    decide
  have background : ∀ signal ∈ [Signal.delivered 1 event], signal.ticket? = none := by
    simp [Signal.ticket?]
  obtain ⟨afterDetach, afterStart⟩ := past_forgotten (some "token") 2000 settled
  obtain ⟨snapshot, effects⟩ := (afterDetach 1).2 whole later alike
  have same := (afterStart 1 request [.delivered 1 event] run accepts background).2.1
  exact ⟨settled, alike, snapshot, effects, accepts, same⟩

end Tracker
end Cupping.Tracking

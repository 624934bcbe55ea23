import Cupping.Proofs.Tracking.Moments

/-!
Whose data a tracker holds. A session is about the tracked run, a run that is known is the tracked
one as long as the service sends the runs that it is asked for, and where no run is tracked nothing
is left of an earlier one.
-/

namespace Cupping.Tracking

namespace Snapshot

@[simp]
theorem runId_log (snapshot : Snapshot) (message : String) :
    (snapshot.log message).runId = snapshot.runId :=
  rfl

@[simp]
theorem runId_store (snapshot : Snapshot) (run : Run) :
    (snapshot.store run).runId = snapshot.runId :=
  rfl

@[simp]
theorem runId_receive (snapshot : Snapshot) (event : RunEvent) :
    (snapshot.receive event).runId = snapshot.runId := by
  unfold receive
  split <;> rfl

@[simp]
theorem runId_turnTo (snapshot : Snapshot) (id : RunId) :
    (snapshot.turnTo id).runId = some id := by
  by_cases same : snapshot.runId = some id
  · rw [turnTo, if_pos same, same]
  · rw [turnTo, if_neg same, fresh]

/-- Nothing is known of any run. -/
structure IsBlank (snapshot : Snapshot) : Prop where
  run : snapshot.run = none
  scores : snapshot.scores = []
  eventSeen : snapshot.eventSeen = false
  connection : snapshot.connection = .disconnected

theorem isBlank_fresh (id : Option RunId) : (fresh id).IsBlank :=
  ⟨rfl, rfl, rfl, rfl⟩

/-- What is known belongs to the tracked run, and without one nothing is known. -/
structure IsOfOneRun (snapshot : Snapshot) : Prop where
  run : ∀ run, snapshot.run = some run → snapshot.runId = some run.id
  blank : snapshot.runId = none → snapshot.IsBlank

theorem isOfOneRun_fresh (id : Option RunId) : (fresh id).IsOfOneRun := by
  constructor
  · intro run known
    cases known
  · intro _
    exact isBlank_fresh id

end Snapshot

/-- A session goes on in its own name; live updates are not asked for a second time. -/
structure Session.GoesOn (earlier later : Session) : Prop where
  number : later.number = earlier.number
  runId : later.runId = earlier.runId
  asks : later.feed = .requesting → earlier.feed = .requesting

theorem Session.GoesOn.refl (session : Session) : session.GoesOn session :=
  ⟨rfl, rfl, id⟩

/-- A session that asks for live updates has done nothing else before. -/
theorem Session.GoesOn.eq_of_requesting {earlier later : Session} (goesOn : earlier.GoesOn later)
    (requesting : later.feed = .requesting) : earlier = later := by
  have asked := goesOn.asks requesting
  cases earlier
  cases later
  cases goesOn.number
  cases goesOn.runId
  cases asked
  cases requesting
  rfl

/-- The subscription that an effect asks for: its session and its run. -/
def Effect.subscription? : Effect → Option (Nat × RunId)
  | .subscribe session id _ => some (session, id)
  | .ask .. | .close .. | .poll .. | .finish .. => none

namespace Tracker

/-- The run that is tracked after a signal. -/
def turnsTo? (tracker : Tracker) : Signal → Option RunId
  | .invoked _ (.attach id) => some id
  | .invoked _ .detach => none
  | .answered ticket (.ok run) =>
    match tracker.errands.lookup ticket with
    | some (.openRun id) => some id
    | some .startRun => some run.id
    | _ => tracker.snapshot.runId
  | _ => tracker.snapshot.runId

/-- Whatever session there is next is the present one, and it is not left without a next poll unless
there is no period. -/
def Continues (tracker next : Tracker) : Prop :=
  ∀ later, next.session = some later →
    ∃ earlier, tracker.session = some earlier ∧ earlier.GoesOn later ∧
      (Idle later.feed → Idle earlier.feed ∨ tracker.period = 0)

theorem continues_of_eq {tracker next : Tracker} (same : next.session = tracker.session) :
    tracker.Continues next :=
  fun later present => ⟨later, same ▸ present, .refl later, .inl⟩

/-- What becomes of the tracked run and its session. The tracker goes on with both, or it leaves the
session when it turns to a run or to none, or it turns to a run and asks for its live updates. -/
inductive Turns (tracker : Tracker) (target : Option RunId) : Tracker × List Effect → Prop where
  | go (same : target = tracker.snapshot.runId)
      (runId : next.snapshot.runId = tracker.snapshot.runId) (session : tracker.Continues next)
      (quiet : effects.filterMap Effect.subscription? = []) : Turns tracker target (next, effects)
  | leave (runId : next.snapshot.runId = target) (session : next.session = none)
      (quiet : effects.filterMap Effect.subscription? = []) : Turns tracker target (next, effects)
  | enter {id : RunId} {number : Nat} (credential : tracker.liveToken? ≠ none)
      (turned : target = some id) (runId : next.snapshot.runId = some id)
      (session : next.session = some ⟨number, id, .requesting⟩)
      (asked : effects.filterMap Effect.subscription? = [(number, id)]) :
      Turns tracker target (next, effects)

theorem Turns.runId {tracker : Tracker} {target : Option RunId} {result : Tracker × List Effect}
    (turns : tracker.Turns target result) : result.1.snapshot.runId = target := by
  cases turns with
  | go same runId => exact runId.trans same.symm
  | leave runId => exact runId
  | enter credential turned runId => exact runId.trans turned.symm

theorem Turns.stay {tracker next : Tracker} {effects : List Effect}
    (runId : next.snapshot.runId = tracker.snapshot.runId)
    (session : next.session = tracker.session)
    (quiet : effects.filterMap Effect.subscription? = []) :
    tracker.Turns tracker.snapshot.runId (next, effects) :=
  .go rfl runId (continues_of_eq session) quiet

/-- To tell the outcome of an operation is no turn. -/
theorem Turns.finish {tracker : Tracker} {target : Option RunId} {result : Tracker × List Effect}
    (turns : tracker.Turns target result) (ticket : Nat) (outcome : Outcome) :
    tracker.Turns target (result.1, result.2 ++ [.finish ticket outcome]) := by
  have told (effects : List Effect) :
      (effects ++ [Effect.finish ticket outcome]).filterMap Effect.subscription? =
        effects.filterMap Effect.subscription? := by
    simp [Effect.subscription?]
  cases turns with
  | go same runId session quiet => exact .go same runId session ((told _).trans quiet)
  | leave runId session quiet => exact .leave runId session ((told _).trans quiet)
  | enter credential turned runId session asked =>
    exact .enter credential turned runId session ((told _).trans asked)

theorem subscription_release (tracker : Tracker) :
    tracker.release.2.filterMap Effect.subscription? = [] := by
  cases present : tracker.session with
  | none => simp [release, present]
  | some session =>
    by_cases live : session.feed = .live <;> simp [release, present, live, Effect.subscription?]

theorem turns_track (tracker : Tracker) {id : RunId} (prepare : Snapshot → Snapshot)
    (prepared : (prepare tracker.snapshot).runId = some id) :
    tracker.Turns (some id) (tracker.track id prepare) := by
  cases credential : tracker.liveToken? with
  | none =>
    rw [track_of_none credential]
    exact .leave prepared rfl (subscription_release tracker)
  | some token =>
    rw [track_of_some credential]
    refine .enter (by simp [credential]) rfl prepared rfl ?_
    rw [List.filterMap_append, subscription_release]
    rfl

/-- Only to be attached or detached is taken up at once. Whatever else an operation is, it changes
only what is waited for. -/
theorem invoke_cases (tracker : Tracker) (ticket : Nat) (operation : Operation) :
    (∃ id, operation = .attach id) ∨ operation = .detach ∨
      ∃ errands effects, tracker.invoke ticket operation = (tracker.withErrands errands, effects) ∧
        effects.filterMap Effect.subscription? = [] ∧
        tracker.turnsTo? (.invoked ticket operation) = tracker.snapshot.runId := by
  cases operation with
  | attach id => exact .inl ⟨id, rfl⟩
  | detach => exact .inr (.inl rfl)
  | loadRun | openRun | listRuns => exact .inr (.inr ⟨_, _, rfl, rfl, rfl⟩)
  | startRun request =>
    simp only [invoke]
    split <;> exact .inr (.inr ⟨_, _, rfl, rfl, rfl⟩)
  | submitScore score =>
    simp only [invoke]
    split
    · exact .inr (.inr ⟨_, _, rfl, rfl, rfl⟩)
    · split <;> exact .inr (.inr ⟨_, _, rfl, rfl, rfl⟩)

theorem turns_invoke (tracker : Tracker) (ticket : Nat) (operation : Operation) :
    tracker.Turns (tracker.turnsTo? (.invoked ticket operation))
      (tracker.invoke ticket operation) := by
  rcases tracker.invoke_cases ticket operation with
    ⟨id, rfl⟩ | rfl | ⟨errands, effects, asked, quiet, same⟩
  · have turned := turns_track tracker (·.turnTo id) (tracker.snapshot.runId_turnTo id)
    exact turned.finish ticket .done
  · have left : tracker.Turns none tracker.detach :=
      .leave rfl rfl (subscription_release tracker)
    exact left.finish ticket .done
  · rw [asked, same]
    exact .stay rfl rfl quiet

/-- Whether an operation still waits for its answer makes no difference. -/
theorem Turns.of_settle {tracker : Tracker} {ticket : Nat} {target : Option RunId}
    {result : Tracker × List Effect} (turns : (tracker.settle ticket).Turns target result) :
    tracker.Turns target result := by
  cases turns with
  | go same runId session quiet => exact .go same runId session quiet
  | leave runId session quiet => exact .leave runId session quiet
  | enter credential turned runId session asked =>
    exact .enter credential turned runId session asked

theorem turns_succeed (tracker : Tracker) (run : Run) (errand : Errand) :
    tracker.Turns (match errand with
      | .openRun id => some id
      | .startRun => some run.id
      | .loadRun | .submitScore .. => tracker.snapshot.runId) (tracker.succeed run errand) := by
  cases errand with
  | loadRun =>
    refine .stay ?_ rfl rfl
    simp only [update]
    split <;> rfl
  | openRun id =>
    exact turns_track tracker (fun snapshot => (snapshot.turnTo id).store run)
      (tracker.snapshot.runId_turnTo id)
  | startRun =>
    simp only [succeed]
    exact turns_track tracker _ rfl
  | submitScore trialNumber score =>
    refine .stay ?_ rfl rfl
    simp only [update]
    split <;> rfl

theorem turns_answer (tracker : Tracker) (ticket : Nat) (result : Except Fault Run) :
    tracker.Turns (tracker.turnsTo? (.answered ticket result)) (tracker.answer ticket result) := by
  cases found : tracker.errands.lookup ticket with
  | none =>
    rw [answer_of_none found]
    cases result <;> simpa [turnsTo?, found] using Turns.stay rfl rfl rfl
  | some errand =>
    cases result with
    | error fault =>
      rw [answer_error found]
      cases errand <;> exact .stay rfl rfl rfl
    | ok run =>
      rw [answer_ok found]
      have turned := (turns_succeed (tracker.settle ticket) run errand).of_settle.finish ticket
        (.run (.ok run))
      simp only [turnsTo?, found]
      cases errand <;> exact turned

/-- What a session makes of a signal keeps the tracked run. -/
theorem turns_inSession {tracker : Tracker} {act : Session → Tracker × List Effect}
    (acts : ∀ session, tracker.session = some session →
      tracker.Turns tracker.snapshot.runId (act session))
    (number : Nat) : tracker.Turns tracker.snapshot.runId (tracker.inSession number act) := by
  unfold inSession
  split
  · rename_i session found
    exact acts session (current?_eq_some found).1
  · exact .stay rfl rfl rfl

theorem continues_setFeed {tracker : Tracker} {session : Session}
    (present : tracker.session = some session) {feed : Feed} (other : feed ≠ .requesting)
    (paced : Idle feed → tracker.period = 0) :
    tracker.Continues (tracker.setFeed session feed) := by
  intro later changed
  obtain rfl := Option.some.inj changed
  exact ⟨session, present, ⟨rfl, rfl, fun asks => absurd asks other⟩, fun idle => .inr (paced idle)⟩

theorem continues_startPolling {tracker : Tracker} {session : Session}
    (present : tracker.session = some session) :
    tracker.Continues (tracker.startPolling session) := by
  refine continues_setFeed present (by simp) fun idle => ?_
  simpa [Idle] using idle

theorem turns_accept {tracker : Tracker} {session : Session}
    (present : tracker.session = some session) :
    tracker.Turns tracker.snapshot.runId (tracker.accept session) := by
  unfold accept
  split
  · exact .go rfl rfl (continues_setFeed present (by simp) (by simp [Idle])) rfl
  · exact .stay rfl rfl rfl

theorem turns_refuse {tracker : Tracker} {session : Session}
    (present : tracker.session = some session) :
    tracker.Turns tracker.snapshot.runId (tracker.refuse session) := by
  unfold refuse
  split
  · exact .go rfl rfl (continues_startPolling present) rfl
  · exact .stay rfl rfl rfl

theorem turns_deliver (tracker : Tracker) (session : Session) (event : RunEvent) :
    tracker.Turns tracker.snapshot.runId (tracker.deliver session event) := by
  unfold deliver
  split
  · exact .stay (tracker.snapshot.runId_receive event) rfl rfl
  · exact .stay rfl rfl rfl

/-- When live updates are over, the session is concluded or falls back to polls. -/
theorem finishLive_cases (tracker : Tracker) (session : Session) :
    tracker.finishLive session = (tracker, []) ∨
      ∃ next, (next = tracker.conclude ∨ next = tracker.startPolling session) ∧
        tracker.finishLive session = (next, [.close session.number session.runId]) := by
  unfold finishLive
  split
  · by_cases finished : tracker.snapshot.isFinished = true
    · exact .inr ⟨_, .inl rfl, by rw [if_pos finished]⟩
    · exact .inr ⟨_, .inr rfl, by rw [if_neg finished]⟩
  · exact .inl rfl

theorem turns_finishLive {tracker : Tracker} {session : Session}
    (present : tracker.session = some session) :
    tracker.Turns tracker.snapshot.runId (tracker.finishLive session) := by
  rcases tracker.finishLive_cases session with ignored | ⟨next, rfl | rfl, ended⟩
  · rw [ignored]
    exact .stay rfl rfl rfl
  · rw [ended]
    exact .leave rfl rfl rfl
  · rw [ended]
    exact .go rfl rfl (continues_startPolling present) rfl

/-- The answer to a poll is noted. It concludes the session, or the next poll is waited for. -/
theorem takePoll_cases (tracker : Tracker) (session : Session) (result : Except Fault Run) :
    tracker.takePoll session result = (tracker, []) ∨
      ∃ due change, session.feed = .asking due ∧
        (∀ snapshot : Snapshot, (change snapshot).runId = snapshot.runId ∧
          (change snapshot).connection = snapshot.connection) ∧
        (tracker.takePoll session result =
            ((tracker.setFeed session (.polling (some due))).update change, []) ∨
          tracker.takePoll session result =
            ((tracker.update change).conclude.update (·.log "Run finished."), [])) := by
  unfold takePoll
  split
  · rename_i due asking
    cases result with
    | error fault =>
      exact .inr ⟨due, (·.fail fault), asking, fun _ => ⟨rfl, rfl⟩, .inl rfl⟩
    | ok run =>
      refine .inr ⟨due, (·.store run), asking, fun _ => ⟨rfl, rfl⟩, ?_⟩
      by_cases finished : run.isFinished = true
      · exact .inr (by simp only [if_pos finished])
      · exact .inl (by simp only [if_neg finished])
  · exact .inl rfl

theorem turns_takePoll {tracker : Tracker} {session : Session}
    (present : tracker.session = some session) (result : Except Fault Run) :
    tracker.Turns tracker.snapshot.runId (tracker.takePoll session result) := by
  rcases tracker.takePoll_cases session result with
    ignored | ⟨due, change, -, keeps, taken | taken⟩
  · rw [ignored]
    exact .stay rfl rfl rfl
  · rw [taken]
    exact .go rfl (keeps _).1 (continues_setFeed present (by simp) (by simp [Idle])) rfl
  · rw [taken]
    exact .leave (keeps _).1 rfl rfl

theorem turns_readClock (tracker : Tracker) (now : Nat) :
    tracker.Turns tracker.snapshot.runId (tracker.readClock now) := by
  unfold readClock
  split
  · rename_i session present
    split
    · split
      · exact .go rfl rfl (continues_setFeed present (by simp) (by simp [Idle])) rfl
      · exact .stay rfl rfl rfl
    · exact .stay rfl rfl rfl
  · exact .stay rfl rfl rfl

/-- A signal leads to the run that it tells of, or leaves the tracked run and its session. -/
theorem turns_step (tracker : Tracker) (signal : Signal) :
    tracker.Turns (tracker.turnsTo? signal) (tracker.step signal) := by
  cases signal with
  | invoked ticket operation => exact turns_invoke tracker ticket operation
  | answered ticket result => exact turns_answer tracker ticket result
  | listed ticket result => exact .stay rfl rfl rfl
  | accepted number => exact turns_inSession (fun session => turns_accept) number
  | refused number => exact turns_inSession (fun session => turns_refuse) number
  | delivered number event =>
    exact turns_inSession (fun session _ => turns_deliver tracker session event) number
  | ended number => exact turns_inSession (fun session => turns_finishLive) number
  | polled number result =>
    exact turns_inSession (fun session present => turns_takePoll present result) number
  | clock now => exact turns_readClock tracker now
  | dropped => exact .leave rfl rfl (subscription_release tracker)

/-- The session after a step is the one before, which goes on, or it has been begun just now. -/
theorem session_step {tracker : Tracker} {signal : Signal} {current : Session}
    (present : (tracker.step signal).1.session = some current) :
    (∃ earlier, tracker.session = some earlier ∧ earlier.GoesOn current ∧
      (Idle current.feed → Idle earlier.feed ∨ tracker.period = 0) ∧
      (tracker.step signal).1.snapshot.runId = tracker.snapshot.runId) ∨
    (tracker.liveToken? ≠ none ∧ current.feed = .requesting ∧
      (tracker.step signal).1.snapshot.runId = some current.runId ∧
      (tracker.step signal).2.filterMap Effect.subscription? =
        [(current.number, current.runId)]) := by
  generalize reached : tracker.step signal = result at present ⊢
  cases reached ▸ turns_step tracker signal with
  | go same runId session quiet =>
    obtain ⟨earlier, before, goesOn, idle⟩ := session current present
    exact .inl ⟨earlier, before, goesOn, idle, runId⟩
  | leave runId gone quiet =>
    rw [gone] at present
    cases present
  | enter credential turned runId begun asked =>
    obtain rfl := Option.some.inj (begun.symm.trans present)
    exact .inr ⟨credential, rfl, runId, asked⟩

/-- The session is about the tracked run. -/
def Follows (tracker : Tracker) : Prop :=
  ∀ current, tracker.session = some current → tracker.snapshot.runId = some current.runId

theorem Follows.step {tracker : Tracker} (follows : tracker.Follows) (signal : Signal) :
    (tracker.step signal).1.Follows := by
  intro current present
  rcases session_step present with ⟨earlier, before, goesOn, -, runId⟩ | ⟨-, -, runId, -⟩
  · rw [runId, follows earlier before, goesOn.runId]
  · exact runId

theorem follows_run (token : Option String) (period : Nat) (signals : List Signal) :
    ((initial token period).run signals).Follows := by
  induction signals using List.reverseRecOn with
  | nil =>
    intro current present
    cases present
  | append_singleton signals signal ih =>
    rw [run_append_singleton]
    exact ih.step signal

/-- Whether a run that the service sends for an identifier has that identifier. What it sends when a
run is started or a trial is scored can be any run. -/
def IsTruthful (tracker : Tracker) : Signal → Prop
  | .answered ticket (.ok run) =>
    ∀ id, tracker.errands.lookup ticket = some (.openRun id) → run.id = id
  | .polled number (.ok run) =>
    ∀ session, tracker.current? number = some session → run.id = session.runId
  | _ => True

/-- A run that is stored is the one that is tracked from then on. -/
theorem turnsTo?_of_stored {tracker : Tracker} {signal : Signal} {run : Run}
    (follows : tracker.Follows) (truthful : tracker.IsTruthful signal)
    (stored : tracker.stored? signal = some run) : tracker.turnsTo? signal = some run.id := by
  cases signal with
  | answered ticket result =>
    cases result with
    | error fault => cases stored
    | ok sent =>
      simp only [stored?] at stored
      simp only [turnsTo?]
      cases found : tracker.errands.lookup ticket with
      | none => simp [found] at stored
      | some errand =>
        rw [found] at stored
        cases errand with
        | loadRun | submitScore =>
          obtain ⟨tracked, same⟩ := Option.ite_none_right_eq_some.mp stored
          obtain rfl := Option.some.inj same
          exact tracked
        | openRun id =>
          obtain rfl := Option.some.inj stored
          exact congrArg some (truthful id found).symm
        | startRun =>
          obtain rfl := Option.some.inj stored
          rfl
  | polled number result =>
    cases result with
    | error fault => cases stored
    | ok sent =>
      cases found : tracker.current? number with
      | none => simp [stored?, found] at stored
      | some session =>
        have same : sent = run := by
          simp only [stored?, found, Option.map_some] at stored
          split at stored
          · exact Option.some.inj stored
          · cases stored
        have own := truthful session found
        rw [← same, own]
        exact follows session (current?_eq_some found).1
  | invoked | listed | accepted | refused | delivered | ended | clock | dropped => cases stored

/-- What is known of a run stays known only as long as the run is tracked. -/
theorem turnsTo?_of_not_forgets {tracker : Tracker} {signal : Signal}
    (kept : tracker.forgets signal = false) : tracker.turnsTo? signal = tracker.snapshot.runId := by
  cases signal with
  | invoked ticket operation =>
    cases operation with
    | attach id =>
      have same : tracker.snapshot.runId = some id := by simpa [forgets] using kept
      exact same.symm
    | detach => cases kept
    | loadRun | openRun | listRuns | startRun | submitScore => rfl
  | answered ticket result =>
    cases result with
    | error fault => rfl
    | ok run =>
      cases found : tracker.errands.lookup ticket with
      | none => simp [turnsTo?, found]
      | some errand => cases errand <;> simp_all [turnsTo?, forgets]
  | listed | accepted | refused | delivered | ended | polled | clock | dropped => rfl

theorem keptRun?_eq_some {tracker : Tracker} {signal : Signal} {run : Run}
    (kept : tracker.keptRun? signal = some run) :
    tracker.forgets signal = false ∧
      ∃ earlier, tracker.snapshot.run = some earlier ∧ run.id = earlier.id := by
  unfold keptRun? at kept
  split at kept
  · cases kept
  · rename_i remembered
    refine ⟨by simpa using remembered, ?_⟩
    split at kept
    · obtain ⟨earlier, known, rfl⟩ := Option.map_eq_some_iff.mp kept
      exact ⟨earlier, known, rfl⟩
    · exact ⟨run, kept, rfl⟩

/-- Only to be detached leads from a run to none. -/
theorem turnsTo?_eq_none {tracker : Tracker} {signal : Signal}
    (nowhere : tracker.turnsTo? signal = none) :
    (∃ ticket, signal = .invoked ticket .detach) ∨ tracker.snapshot.runId = none := by
  cases signal with
  | invoked ticket operation =>
    cases operation with
    | attach id => cases nowhere
    | detach => exact .inl ⟨ticket, rfl⟩
    | loadRun | openRun | listRuns | startRun | submitScore => exact .inr nowhere
  | answered ticket result =>
    cases result with
    | error fault => exact .inr nowhere
    | ok run =>
      right
      simp only [turnsTo?] at nowhere
      split at nowhere
      · cases nowhere
      · cases nowhere
      · exact nowhere
  | listed | accepted | refused | delivered | ended | polled | clock | dropped => exact .inr nowhere

/-- A tracker without session and tracked run does not begin to know anything unless it turns to a
run. -/
theorem isBlank_step {tracker : Tracker} {signal : Signal} (idle : tracker.session = none)
    (untracked : tracker.snapshot.runId = none) (blank : tracker.snapshot.IsBlank)
    (still : tracker.turnsTo? signal = none) : (tracker.step signal).1.snapshot.IsBlank := by
  have ignored (number : Nat) (act : Session → Tracker × List Effect) :
      tracker.inSession number act = (tracker, []) := by
    simp [inSession, current?, idle]
  cases signal with
  | invoked ticket operation =>
    rcases tracker.invoke_cases ticket operation with ⟨id, rfl⟩ | rfl | ⟨errands, effects, asked, -⟩
    · cases still
    · exact Snapshot.isBlank_fresh none
    · rw [step, asked]
      exact blank
  | answered ticket result =>
    cases found : tracker.errands.lookup ticket with
    | none =>
      rw [step, answer_of_none found]
      exact blank
    | some errand =>
      cases result with
      | error fault =>
        rw [step, answer_error found]
        cases errand <;> exact ⟨blank.run, blank.scores, blank.eventSeen, blank.connection⟩
      | ok run =>
        rw [step, answer_ok found]
        cases errand with
        | loadRun | submitScore => simpa [succeed, update, settle, untracked] using blank
        | openRun | startRun => simp [turnsTo?, found] at still
  | listed ticket result => exact blank
  | accepted number => simpa [step, ignored] using blank
  | refused number => simpa [step, ignored] using blank
  | delivered number event => simpa [step, ignored] using blank
  | ended number => simpa [step, ignored] using blank
  | polled number result => simpa [step, ignored] using blank
  | clock now => exact (snapshot_readClock tracker now).symm ▸ blank
  | dropped => exact blank

theorem Follows.session_eq_none {tracker : Tracker} (follows : tracker.Follows)
    (untracked : tracker.snapshot.runId = none) : tracker.session = none := by
  cases present : tracker.session with
  | none => rfl
  | some current =>
    have tracked := follows current present
    rw [untracked] at tracked
    cases tracked

theorem isOfOneRun_step {tracker : Tracker} {signal : Signal}
    (own : tracker.snapshot.IsOfOneRun) (follows : tracker.Follows)
    (truthful : tracker.IsTruthful signal) : (tracker.step signal).1.snapshot.IsOfOneRun := by
  have turned := (turns_step tracker signal).runId
  constructor
  · intro run known
    rw [turned]
    rw [run_step] at known
    rcases Option.or_eq_some_iff.mp known with stored | ⟨-, kept⟩
    · exact turnsTo?_of_stored follows truthful stored
    · obtain ⟨remembered, earlier, before, same⟩ := keptRun?_eq_some kept
      rw [turnsTo?_of_not_forgets remembered, same]
      exact own.run earlier before
  · intro untracked
    rw [turned] at untracked
    rcases turnsTo?_eq_none untracked with ⟨ticket, rfl⟩ | before
    · exact Snapshot.isBlank_fresh none
    · exact isBlank_step (follows.session_eq_none before) before (own.blank before) untracked

theorem isOfOneRun_run {token : Option String} {period : Nat} {signals : List Signal}
    (truthful : ∀ moment ∈ (initial token period).moments signals,
      moment.tracker.IsTruthful moment.signal) :
    ((initial token period).run signals).snapshot.IsOfOneRun := by
  induction signals using List.reverseRecOn with
  | nil => exact Snapshot.isOfOneRun_fresh none
  | append_singleton signals signal ih =>
    rw [moments_append_singleton] at truthful
    have before := ih fun moment member => truthful moment (List.mem_append_left _ member)
    have now := truthful ⟨(initial token period).run signals, signal⟩ (by simp)
    rw [run_append_singleton]
    exact isOfOneRun_step before (follows_run token period signals) now

/-- As long as the service sends the runs that it is asked for, a run that is known is the tracked
one, and without a tracked run there is no run, no score, no event and no connection. -/
theorem run_is_tracked (token : Option String) (period : Nat) {signals : List Signal}
    (truthful : ∀ moment ∈ (initial token period).moments signals,
      moment.tracker.IsTruthful moment.signal) :
    let snapshot := ((initial token period).run signals).snapshot
    (∀ run, snapshot.run = some run → snapshot.runId = some run.id) ∧
      (snapshot.runId = none → snapshot.run = none ∧ snapshot.scores = [] ∧
        snapshot.eventSeen = false ∧ snapshot.connection = .disconnected) := by
  intro snapshot
  have own : snapshot.IsOfOneRun := isOfOneRun_run truthful
  refine ⟨own.run, fun untracked => ?_⟩
  obtain ⟨run, scores, eventSeen, connection⟩ := own.blank untracked
  exact ⟨run, scores, eventSeen, connection⟩

set_option maxRecDepth 4000 in
/-- A run is opened, its live updates are refused, and a poll brings it anew. -/
theorem run_is_tracked_when_polled :
    let id : RunId := ⟨List.replicate 32 0, rfl⟩
    let opened : Run := ⟨id, .idle, none, none, 0, 4, .median, [], none, none⟩
    let polled : Run := ⟨id, .running, none, none, 1, 4, .median, [], none, none⟩
    let start := initial (some "token") 2000
    let signals : List Signal := [.invoked 0 (.openRun id), .answered 0 (.ok opened), .refused 1,
      .clock 2000, .polled 1 (.ok polled)]
    (∀ moment ∈ start.moments signals, moment.tracker.IsTruthful moment.signal) ∧
      (start.run signals).snapshot.run = some polled ∧
      (start.run signals).snapshot.runId = some polled.id := by
  intro id opened polled start signals
  have known : (start.run signals).snapshot.run = some polled := by decide
  have truthful : ∀ moment ∈ start.moments signals,
      moment.tracker.IsTruthful moment.signal := by
    simp only [signals, moments, List.forall_mem_cons, IsTruthful, true_and]
    refine ⟨?_, ?_, by simp⟩
    · intro asked waiting
      cases waiting
      rfl
    · intro session present
      cases present
      rfl
  have own := (run_is_tracked (some "token") 2000 truthful).1
  exact ⟨truthful, known, own polled known⟩

end Tracker
end Cupping.Tracking

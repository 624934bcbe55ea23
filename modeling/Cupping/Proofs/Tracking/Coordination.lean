import Cupping.Proofs.Tracking.Jobs

/-!
Sessions are replaced in small steps, but they look replaced at once. Whatever a coordinator does, a
tracker does on some signals: the same for each operation, in the same order, and the same to the
sources of news, but for subscriptions: a tracker makes one as soon as it replaces the session, the
job of the session when it begins, if it is not stopped before.
-/

namespace Cupping.Tracking

theorem Snapshot.load_connection (snapshot : Snapshot) (run : Run) (connection : Connection) :
    Coordinator.load run { snapshot with connection } =
      { Coordinator.load run snapshot with connection } := by
  by_cases tracked : snapshot.runId = some run.id <;> simp [Coordinator.load, store, tracked]

namespace Tracker

variable {tracker : Tracker} {ticket : Nat}

/-- The tracker, if it had another session and news came from somewhere else. -/
def showing (tracker : Tracker) (session : Option Session) (connection : Connection) : Tracker :=
  { tracker with session, snapshot := { tracker.snapshot with connection } }

/-- An operation that can fail only gets on the list of those that wait for an answer. -/
theorem exists_invoke (tracker : Tracker) (ticket : Nat) {operation : Operation}
    (fallible : operation.isFallible = true) :
    ∃ errands, (tracker.invoke ticket operation).1 = { tracker with errands } := by
  cases operation with
  | attach | detach => cases fallible
  | loadRun | openRun => exact ⟨_, rfl⟩
  | listRuns => exact ⟨tracker.errands, rfl⟩
  | startRun request =>
    simp only [invoke]
    split
    · exact ⟨tracker.errands, rfl⟩
    · exact ⟨_, rfl⟩
  | submitScore score =>
    simp only [invoke]
    split
    · exact ⟨tracker.errands, rfl⟩
    · split
      · exact ⟨tracker.errands, rfl⟩
      · exact ⟨_, rfl⟩

theorem invoke_showing (tracker : Tracker) (session : Option Session) (connection : Connection)
    (ticket : Nat) {operation : Operation} (fallible : operation.isFallible = true) :
    (tracker.showing session connection).invoke ticket operation =
      ((tracker.invoke ticket operation).1.showing session connection,
        (tracker.invoke ticket operation).2) := by
  cases operation with
  | attach | detach => cases fallible
  | loadRun | openRun | listRuns => rfl
  | startRun request =>
    simp only [invoke]
    split <;> rfl
  | submitScore score =>
    have same : (tracker.showing session connection).snapshot.awaiting? =
        tracker.snapshot.awaiting? := rfl
    simp only [invoke, same]
    split
    · rfl
    · split <;> rfl

theorem exists_answer {result : Except Fault Run} (leaves : tracker.LeavesSession ticket result) :
    ∃ snapshot errands, (tracker.answer ticket result).1 = { tracker with snapshot, errands } := by
  cases found : tracker.errands.lookup ticket with
  | none => exact ⟨tracker.snapshot, tracker.errands, by rw [answer_of_none found]⟩
  | some errand =>
    cases result with
    | error fault =>
      rw [answer_error found]
      cases errand <;> exact ⟨_, _, rfl⟩
    | ok run =>
      rw [answer_ok found]
      rcases leaves errand run found rfl with rfl | ⟨trialNumber, score, rfl⟩
      · exact ⟨_, _, rfl⟩
      · exact ⟨_, _, rfl⟩

/-- Where news come from does not matter to what a run that is fetched or scored leaves. -/
theorem update_showing (tracker : Tracker) (session : Option Session) (connection : Connection)
    (change : Snapshot → Snapshot)
    (blind : ∀ snapshot, change { snapshot with connection } =
      { change snapshot with connection }) :
    (tracker.showing session connection).update change =
      (tracker.update change).showing session connection := by
  simp only [update, showing, blind]

theorem answer_showing {result : Except Fault Run} (leaves : tracker.LeavesSession ticket result)
    (session : Option Session) (connection : Connection) :
    (tracker.showing session connection).answer ticket result =
      ((tracker.answer ticket result).1.showing session connection,
        (tracker.answer ticket result).2) := by
  cases found : tracker.errands.lookup ticket with
  | none =>
    have also : (tracker.showing session connection).errands.lookup ticket = none := found
    rw [answer_of_none found, answer_of_none also]
  | some errand =>
    have also : (tracker.showing session connection).errands.lookup ticket = some errand := found
    cases result with
    | error fault =>
      rw [answer_error found, answer_error also]
      cases errand <;> rfl
    | ok run =>
      rw [answer_ok found, answer_ok also]
      rcases leaves errand run found rfl with rfl | ⟨trialNumber, score, rfl⟩
      · have loaded := (tracker.settle ticket).update_showing session connection
          (Coordinator.load run) fun snapshot => snapshot.load_connection run connection
        exact congrArg (·, _) loaded
      · have scored := (tracker.settle ticket).update_showing session connection
          (fun snapshot => if snapshot.runId = some run.id then
            ((snapshot.addScore run.trialCount score).log
              ("Score submitted for trial " ++ toString trialNumber)).store run
            else snapshot) fun snapshot => by
              by_cases tracked : snapshot.runId = some run.id <;>
                simp [Snapshot.addScore, Snapshot.log, Snapshot.store, tracked]
        exact congrArg (·, _) scored

theorem connection_answer {result : Except Fault Run}
    (leaves : tracker.LeavesSession ticket result) :
    (tracker.answer ticket result).1.snapshot.connection = tracker.snapshot.connection :=
  have same := answer_showing leaves tracker.session tracker.snapshot.connection
  congrArg (·.1.snapshot.connection) same

theorem own_invoke (tracker : Tracker) (ticket : Nat) {operation : Operation}
    (fallible : operation.isFallible = true) :
    ∀ effect ∈ (tracker.invoke ticket operation).2, effect.ticket? = some ticket := by
  cases operation with
  | attach | detach => cases fallible
  | loadRun | openRun | listRuns => simp [invoke, ask, Effect.ticket?]
  | startRun request =>
    simp only [invoke]
    split <;> simp [ask, Effect.ticket?]
  | submitScore score =>
    simp only [invoke]
    split
    · simp [Effect.ticket?]
    · split <;> simp [ask, Effect.ticket?]

theorem own_answer {result : Except Fault Run} (leaves : tracker.LeavesSession ticket result) :
    ∀ effect ∈ (tracker.answer ticket result).2, effect.ticket? = some ticket := by
  cases found : tracker.errands.lookup ticket with
  | none => simp [answer_of_none found]
  | some errand =>
    cases result with
    | error fault => simp [answer_error found, Effect.ticket?]
    | ok run =>
      rcases leaves errand run found rfl with rfl | ⟨trialNumber, score, rfl⟩ <;>
        simp [answer_ok found, succeed, Effect.ticket?]

theorem run_one {next : Tracker} {signal : Signal} {effects : List Effect}
    (stepped : tracker.step signal = (next, effects)) :
    tracker.run [signal] = next ∧ tracker.performs [signal] = effects := by
  simp [run, performs, stepped]

/-- A run is fetched for an operation of which nothing else is known. -/
theorem load_aside (tracker : Tracker) {spare : Nat}
    (unused : tracker.errands.lookup spare = none) (id : RunId) (fetched : Run) :
    tracker.run [.invoked spare (.loadRun id), .answered spare (.ok fetched)] =
        tracker.update (Coordinator.load fetched) ∧
      tracker.performs [.invoked spare (.loadRun id), .answered spare (.ok fetched)] =
        [.ask spare (.getRun id), .finish spare (.run (.ok fetched))] := by
  have invoked : tracker.step (.invoked spare (.loadRun id)) =
      (tracker.withErrands (tracker.errands ++ [(spare, .loadRun)]),
        [.ask spare (.getRun id)]) := rfl
  have found : (tracker.withErrands (tracker.errands ++ [(spare, .loadRun)])).errands.lookup spare =
      some .loadRun := by
    simp [withErrands, List.lookup_append, unused]
  have settled : (tracker.withErrands (tracker.errands ++ [(spare, .loadRun)])).settle spare =
      tracker := by
    simp only [withErrands, settle, List.filter_append, filter_ne_of_lookup unused]
    simp
  have answered := answer_ok found fetched
  rw [settled] at answered
  constructor
  · simp only [run, List.foldl_cons, List.foldl_nil, invoked]
    simp only [step, answered]
    rfl
  · simp only [performs, invoked]
    simp only [step, answered]
    rfl

end Tracker

namespace Replacement

/-- The signal on which a tracker replaces the session so. -/
def signal (ticket : Nat) : Replacement → Signal
  | turn id => .invoked ticket (.attach id)
  | openUp _ run | startUp run => .answered ticket (.ok run)
  | leave => .invoked ticket .detach

theorem prepare_connection (replacement : Replacement) (snapshot : Snapshot)
    (before after : Connection) :
    { replacement.prepare { snapshot with connection := before } with connection := after } =
      { replacement.prepare snapshot with connection := after } := by
  have turned (id : RunId) :
      { ({ snapshot with connection := before } : Snapshot).turnTo id with connection := after } =
        { snapshot.turnTo id with connection := after } := by
    by_cases same : snapshot.runId = some id <;> simp [Snapshot.turnTo, same]
  cases replacement with
  | turn id => exact turned id
  | openUp id run => exact congrArg (·.store run) (turned id)
  | startUp | leave => rfl

end Replacement

/-- What a tracker does on the signal to replace the session. -/
theorem Tracker.step_signal (tracker : Tracker) (ticket : Nat) (replacement : Replacement)
    (ready : ∀ errand, replacement.errand? = some errand →
      tracker.errands.lookup ticket = some errand) :
    tracker.step (replacement.signal ticket) =
      let left := if replacement.errand?.isSome then tracker.settle ticket else tracker
      let replaced := match replacement.runId? with
        | some id => left.track id replacement.prepare
        | none => left.detach
      (replaced.1, replaced.2 ++ [.finish ticket replacement.outcome]) := by
  cases replacement with
  | turn id | leave => rfl
  | openUp id run => exact answer_ok (ready _ rfl) run
  | startUp run => exact answer_ok (ready _ rfl) run

/-- The operation that an action invokes or answers. -/
def Action.ticket? : Action → Option Nat
  | .signal received => received.ticket?
  | .hold _ | .stop _ | .renew | .begin _ => none

/-- Whether an effect is the request for live updates. -/
def Effect.subscribes : Effect → Bool
  | subscribe .. => true
  | ask .. | close .. | poll .. | finish .. => false

/-- Whether some effects are others with subscriptions left out. -/
structure Omits (fewer all : List Effect) : Prop where
  inOrder : fewer.Sublist all
  complete : fewer.filter (!·.subscribes) = all.filter (!·.subscribes)

namespace Omits

variable {few some all : List Effect}

theorem refl (effects : List Effect) : Omits effects effects :=
  ⟨.refl _, rfl⟩

theorem trans (first : Omits few some) (second : Omits some all) : Omits few all :=
  ⟨first.inOrder.trans second.inOrder, first.complete.trans second.complete⟩

theorem append {moreFew moreAll : List Effect} (first : Omits few all)
    (second : Omits moreFew moreAll) : Omits (few ++ moreFew) (all ++ moreAll) :=
  ⟨first.inOrder.append second.inOrder, by
    rw [List.filter_append, List.filter_append, first.complete, second.complete]⟩

end Omits

namespace Coordinator

/-- The subscriptions still to be made: those of the jobs that have not begun. -/
def owed (coordinator : Coordinator) : List Effect :=
  (coordinator.jobs.filter (!·.begun)).map fun job =>
    .subscribe job.session.number job.session.runId job.token

/-- The tracker that a coordinator looks like, with the session of its job, and with news from
somewhere. -/
def seen (coordinator : Coordinator) (connection : Connection) : Tracker :=
  (coordinator.tracker none).showing (coordinator.jobs.head?.map Job.session) connection

/-- Whether a coordinator looks as if news came from somewhere. It is known where they come from
unless a job is to begin or to be replaced. -/
structure Shows (coordinator : Coordinator) (connection : Connection) : Prop where
  working : ∀ job ∈ coordinator.jobs,
    connection = if job.begun then coordinator.snapshot.connection else .retrying
  resting : coordinator.jobs = [] → coordinator.slot.isFree = true →
    connection = coordinator.snapshot.connection

/-- Whether a tracker does on some signals what a coordinator comes to do. An operation `spare` may
fetch runs besides. -/
structure Mirrors (spare : Nat) (coordinator : Coordinator) (connection : Connection)
    (signals : List Signal) (result : Coordinator × List Effect) (next : Connection) : Prop where
  shows : result.1.Shows next
  reached : (coordinator.seen connection).run signals = result.1.seen next
  operations : result.2.filter (·.ticket?.isSome) =
    ((coordinator.seen connection).performs signals).filter (·.ticket?.any (· ≠ spare))
  news : Omits (result.2.filter (·.ticket?.isNone) ++ result.1.owed)
    (coordinator.owed ++
      ((coordinator.seen connection).performs signals).filter (·.ticket?.isNone))

variable {coordinator next : Coordinator} {connection : Connection} {spare ticket : Nat}
  {effects : List Effect} {signal : Signal}

theorem Shows.keep (shows : coordinator.Shows connection) {snapshot : Snapshot}
    (same : snapshot.connection = coordinator.snapshot.connection)
    (errands : List (Nat × Errand)) (waiting : List (Nat × Replacement)) :
    Shows { coordinator with snapshot, errands, waiting } connection := by
  constructor
  · intro job member
    rw [same]
    exact shows.working job member
  · intro nobody free
    rw [same]
    exact shows.resting nobody free

/-- Some actions do not show. -/
theorem Mirrors.silent (shows : next.Shows connection)
    (alike : next.seen connection = coordinator.seen connection)
    (owed : next.owed = coordinator.owed) :
    Mirrors spare coordinator connection [] (next, []) connection :=
  ⟨shows, alike.symm, rfl, by
    simpa [Tracker.performs, owed] using Omits.refl coordinator.owed⟩

/-- An operation acts at once. -/
theorem Mirrors.operation (shows : next.Shows connection) (owed : next.owed = coordinator.owed)
    (stepped : (coordinator.seen connection).step signal = (next.seen connection, effects))
    (own : ∀ effect ∈ effects, ∃ ticket, effect.ticket? = some ticket ∧ ticket ≠ spare) :
    Mirrors spare coordinator connection [signal] (next, effects) connection := by
  obtain ⟨reached, performed⟩ := Tracker.run_one stepped
  have silent : effects.filter (·.ticket?.isNone) = [] := by
    refine List.filter_eq_nil_iff.mpr fun effect member => ?_
    obtain ⟨ticket, same, -⟩ := own effect member
    simp [same]
  refine ⟨shows, reached, ?_, ?_⟩
  · rw [performed]
    refine List.filter_congr fun effect member => ?_
    obtain ⟨ticket, same, other⟩ := own effect member
    simp [same, other]
  · rw [performed, silent, owed, List.append_nil]
    exact .refl coordinator.owed

/-- The session acts, and none is to begin. -/
theorem Mirrors.session {after : Connection} (shows : next.Shows after)
    (none : coordinator.owed = []) (still : next.owed = [])
    (stepped : (coordinator.seen connection).step signal = (next.seen after, effects))
    (own : ∀ effect ∈ effects, effect.ticket? = .none) :
    Mirrors spare coordinator connection [signal] (next, effects) after := by
  obtain ⟨reached, performed⟩ := Tracker.run_one stepped
  refine ⟨shows, reached, ?_, ?_⟩
  · rw [performed]
    exact List.filter_congr fun effect member => by simp [own effect member]
  · rw [performed, none, still, List.append_nil]
    exact .refl _

theorem silent_owed (coordinator : Coordinator) :
    ∀ effect ∈ coordinator.owed, effect.ticket? = none := by
  intro effect member
  obtain ⟨job, -, rfl⟩ := List.mem_map.mp member
  rfl

/-- An operation comes to its end, with a session that is to begin. -/
theorem Mirrors.finish {after : Connection} {outcome : Outcome} (shows : next.Shows after)
    (none : coordinator.owed = [])
    (stepped : (coordinator.seen connection).step signal =
      (next.seen after, next.owed ++ [.finish ticket outcome])) (other : ticket ≠ spare) :
    Mirrors spare coordinator connection [signal] (next, [.finish ticket outcome]) after := by
  obtain ⟨reached, performed⟩ := Tracker.run_one stepped
  refine ⟨shows, reached, ?_, ?_⟩
  · have others : next.owed.filter (·.ticket?.any (· ≠ spare)) = [] :=
      List.filter_eq_nil_iff.mpr fun effect member => by simp [silent_owed next effect member]
    rw [performed, List.filter_append, others]
    simp [Effect.ticket?, other]
  · have whole : next.owed.filter (·.ticket?.isNone) = next.owed :=
      List.filter_eq_self.mpr fun effect member => by simp [silent_owed next effect member]
    rw [performed, none, List.filter_append, whole]
    simpa [Effect.ticket?] using! Omits.refl next.owed

/-- Telling jobs to stop does not show. -/
theorem mirrors_taken {slot : Slot} (shows : coordinator.Shows connection)
    (closed : slot.isFree = false) (waiting : List (Nat × Replacement)) :
    Mirrors spare coordinator connection []
      ({ coordinator with
          slot, waiting, jobs := coordinator.jobs.map ({ · with cancelled := true }) }, [])
      connection := by
  refine .silent ⟨fun job member => ?_, fun _ free => ?_⟩ ?_ ?_
  · obtain ⟨before, old, rfl⟩ := List.mem_map.mp member
    exact shows.working before old
  · -- a slot that is taken owes nothing to what is known
    simp [closed] at free
  · simp only [seen, List.head?_map, Option.map_map]
    rfl
  · simp only [owed, List.filter_map, List.map_map]
    rfl

theorem mirrors_ask {operation : Operation} (shows : coordinator.Shows connection)
    (fallible : operation.isFallible = true) (other : ticket ≠ spare) :
    Mirrors spare coordinator connection [.invoked ticket operation]
      ({ coordinator with
          errands := ((coordinator.tracker none).invoke ticket operation).1.errands },
        ((coordinator.tracker none).invoke ticket operation).2) connection := by
  refine .operation ⟨shows.working, shows.resting⟩ rfl ?_
    fun effect member => ⟨ticket, Tracker.own_invoke _ ticket fallible effect member, other⟩
  rw [Tracker.step, seen, Tracker.invoke_showing _ _ _ ticket fallible]
  obtain ⟨errands, invoked⟩ := (coordinator.tracker none).exists_invoke ticket fallible
  rw [invoked]
  rfl

theorem mirrors_settle {result : Except Fault Run} (shows : coordinator.Shows connection)
    (leaves : (coordinator.tracker none).LeavesSession ticket result) (other : ticket ≠ spare) :
    Mirrors spare coordinator connection [.answered ticket result]
      ({ coordinator with
          snapshot := ((coordinator.tracker none).answer ticket result).1.snapshot
          errands := ((coordinator.tracker none).answer ticket result).1.errands },
        ((coordinator.tracker none).answer ticket result).2) connection := by
  refine .operation (shows.keep (Tracker.connection_answer leaves) _ coordinator.waiting) rfl ?_
    fun effect member => ⟨ticket, Tracker.own_answer leaves effect member, other⟩
  rw [Tracker.step, seen, Tracker.answer_showing leaves]
  obtain ⟨snapshot, errands, answered⟩ := Tracker.exists_answer leaves
  rw [answered]
  rfl

theorem mirrors_fetched (shows : coordinator.Shows connection)
    (unused : coordinator.errands.lookup spare = none) (id : RunId) (run : Run)
    (waiting : List (Nat × Replacement)) :
    Mirrors spare coordinator connection
      [.invoked spare (.loadRun id), .answered spare (.ok run)]
      ({ coordinator with snapshot := load run coordinator.snapshot, waiting }, [])
      connection := by
  have same : (load run coordinator.snapshot).connection = coordinator.snapshot.connection := by
    simp only [load]
    split <;> rfl
  obtain ⟨reached, performed⟩ :=
    (coordinator.seen connection).load_aside unused id run
  refine ⟨shows.keep same coordinator.errands waiting, ?_, ?_, ?_⟩
  · rw [reached]
    exact Tracker.update_showing _ _ _ _ fun snapshot => snapshot.load_connection run connection
  · simp [performed, Effect.ticket?]
  · rw [performed]
    simpa [Effect.ticket?] using! Omits.refl coordinator.owed

theorem mirrors_pass (sound : coordinator.Sound) (shows : coordinator.Shows connection)
    (idle : ∀ job ∈ coordinator.jobs, job.begun = false) (now : Nat) :
    Mirrors spare coordinator connection [.clock now] ({ coordinator with now }, [])
      connection := by
  refine .operation ⟨shows.working, shows.resting⟩ rfl ?_ (by simp)
  have staffed := sound.staffed
  generalize whole : coordinator.jobs = jobs at staffed
  cases staffed with
  | nobody => simp [seen, tracker, Tracker.showing, Tracker.step, Tracker.readClock, whole]
  | @one job current newest placed told waits =>
    have requesting := waits (idle job (by simp [whole]))
    simp [seen, tracker, Tracker.showing, Tracker.step, Tracker.readClock, whole, requesting]

theorem mirrors_act {job : Job} (shows : coordinator.Shows connection)
    (only : coordinator.jobs = [job]) (begun : job.begun = true)
    (own : signal.session? = some job.session.number ∨ ∃ now, signal = .clock now) :
    ∃ next, Mirrors spare coordinator connection [signal]
      ({ coordinator with
          now := ((coordinator.tracker (some job.session)).step signal).1.now
          snapshot := ((coordinator.tracker (some job.session)).step signal).1.snapshot
          jobs := (((coordinator.tracker (some job.session)).step signal).1.session.map
            fun session => { job with session }).toList },
        ((coordinator.tracker (some job.session)).step signal).2) next := by
  have whole : coordinator.seen connection = coordinator.tracker (some job.session) := by
    have known := shows.working job (only ▸ List.mem_singleton_self job)
    rw [if_pos begun] at known
    simp [seen, only, known, Tracker.showing, tracker]
  have silent : signal.ticket? = none := by
    rcases own with meant | ⟨now, rfl⟩
    · cases signal with
      | invoked | answered | listed => cases meant
      | accepted | refused | delivered | ended | polled | clock | dropped => rfl
    · rfl
  obtain ⟨now, snapshot, feed, stepped⟩ := Tracker.exists_step_own
    (coordinator.tracker (some job.session)) rfl own
  refine ⟨snapshot.connection, .session ⟨fun working member => ?_, fun _ _ => ?_⟩ ?_ ?_ ?_ ?_⟩
  · obtain ⟨session, -, rfl⟩ := by simpa using member
    rw [if_pos begun, stepped]
  · rw [stepped]
  · simp [owed, only, begun]
  · simp [owed, begun]
  · rw [whole]
    refine Prod.ext ?_ rfl
    rw [stepped]
    simp [seen, tracker, Tracker.showing, Function.comp_def]
  · intro effect member
    simpa [silent] using Tracker.ticket_step member

theorem mirrors_stop (sound : coordinator.Sound) {job : Job}
    (only : coordinator.jobs = [job]) (told : job.cancelled = true) :
    Mirrors spare coordinator connection [.dropped]
      ({ coordinator with jobs := [] },
        if job.session.feed = .live then [.close job.session.number job.session.runId] else [])
      connection := by
  have staffed := sound.staffed
  rw [only] at staffed
  obtain ⟨taken, waits⟩ : coordinator.slot.isFree = false ∧
      (job.begun = false → job.session.feed = .requesting) := by
    cases staffed with
    | one current newest placed tells waits => exact ⟨by simpa [told] using tells, waits⟩
  have performed : (coordinator.seen connection).performs [.dropped] =
      if job.session.feed = .live then [.close job.session.number job.session.runId] else [] := by
    simp [Tracker.performs, Tracker.step, Tracker.release, seen, Tracker.showing, only]
  refine ⟨⟨by simp, fun _ free => by simp [taken] at free⟩, rfl, ?_, ?_⟩
  · rw [performed]
    split <;> simp [Effect.ticket?]
  · rw [performed]
    cases begun : job.begun with
    | true => simpa [owed, only, begun] using! Omits.refl _
    | false =>
      -- the subscription of a job that never began is left out
      simp only [waits begun, reduceCtorEq, if_false, owed, only, List.filter_nil]
      exact ⟨List.nil_sublist _, by simp [begun, Effect.subscribes]⟩

theorem mirrors_begin {job : Job} (shows : coordinator.Shows connection)
    (only : coordinator.jobs = [job]) (idle : job.begun = false) :
    Mirrors spare coordinator connection []
      ({ coordinator with
          snapshot := { coordinator.snapshot with connection := .retrying }
          jobs := [{ job with begun := true }] },
        [.subscribe job.session.number job.session.runId job.token]) connection := by
  have requesting : connection = .retrying := by
    have known := shows.working job (only ▸ List.mem_singleton_self job)
    rwa [idle] at known
  refine ⟨⟨fun working member => ?_, by simp⟩, ?_, rfl, ?_⟩
  · rw [List.mem_singleton.mp member]
    exact requesting
  · simp [seen, only, requesting, Tracker.showing, tracker, Tracker.run]
  · simpa [owed, only, idle, Tracker.performs, Effect.ticket?] using! Omits.refl _

theorem seen_of_nobody (vacant : coordinator.jobs = []) (connection : Connection) :
    coordinator.seen connection = (coordinator.tracker none).showing none connection := by
  rw [seen, vacant]
  rfl

theorem owed_of_nobody (vacant : coordinator.jobs = []) : coordinator.owed = [] := by
  rw [owed, vacant]
  rfl

/-- With nobody at work, a coordinator replaces the session as a tracker does, but for the
subscription, which is to come. -/
theorem seen_renewSlot (vacant : coordinator.jobs = []) (connection : Connection)
    (replacement : Replacement) :
    ∃ after, (coordinator.renewSlot replacement).Shows after ∧
      (match replacement.runId? with
        | some id => (coordinator.seen connection).track id replacement.prepare
        | none => (coordinator.seen connection).detach) =
        ((coordinator.renewSlot replacement).seen after,
          (coordinator.renewSlot replacement).owed) := by
  have released : (coordinator.seen connection).release = (coordinator.seen connection, []) := by
    rw [seen_of_nobody vacant]
    rfl
  have prepared (after : Connection) :
      { replacement.prepare (coordinator.seen connection).snapshot with connection := after } =
        { replacement.prepare coordinator.snapshot with connection := after } :=
    replacement.prepare_connection coordinator.snapshot connection after
  have rests {next : Coordinator} (vacant : next.jobs = [])
      (known : next.snapshot.connection = .disconnected) : next.Shows .disconnected :=
    ⟨by simp [vacant], fun _ _ => known.symm⟩
  simp only [renewSlot]
  split
  · rename_i target
    refine ⟨.disconnected, ?_⟩
    cases replacement with
    | turn | openUp | startUp => cases target
    | leave =>
      refine ⟨rests vacant rfl, ?_⟩
      simp only [Replacement.runId?, Tracker.detach, released]
      rw [seen_of_nobody vacant connection, seen_of_nobody, owed_of_nobody]
      · rfl
      · exact vacant
      · exact vacant
  · rename_i id target credential
    have blank : (coordinator.seen connection).liveToken? = none := credential
    refine ⟨.disconnected, rests vacant rfl, ?_⟩
    simp only [target]
    rw [Tracker.track_of_none blank, prepared, released, seen_of_nobody vacant connection,
      seen_of_nobody, owed_of_nobody]
    · rfl
    · exact vacant
    · exact vacant
  · rename_i id token target credential
    have known : (coordinator.seen connection).liveToken? = some token := credential
    refine ⟨.retrying, ⟨by simp [vacant, spawn, update, nextGeneration],
      by simp [vacant, spawn, update, nextGeneration]⟩, ?_⟩
    simp only [target]
    rw [Tracker.track_of_some known, prepared, released, seen_of_nobody vacant connection]
    simp only [seen, owed, spawn, update, nextGeneration, vacant, List.nil_append]
    rfl

theorem mirrors_renew {replacement : Replacement} (vacant : coordinator.jobs = [])
    (connection : Connection)
    (ready : ∀ errand, replacement.errand? = some errand →
      coordinator.errands.lookup ticket = some errand) (other : ticket ≠ spare) :
    ∃ next, Mirrors spare coordinator connection [replacement.signal ticket]
      (coordinator.replace ticket replacement) next := by
  have stepped := (coordinator.seen connection).step_signal ticket replacement ready
  have settled : (if replacement.errand?.isSome then (coordinator.seen connection).settle ticket
      else coordinator.seen connection) =
        (if replacement.errand?.isSome then
          { coordinator with errands := coordinator.errands.filter (·.1 ≠ ticket) }
        else coordinator).seen connection := by
    split <;> rfl
  have also : (if replacement.errand?.isSome then
      { coordinator with errands := coordinator.errands.filter (·.1 ≠ ticket) }
      else coordinator).jobs = [] := by
    split <;> exact vacant
  obtain ⟨after, shows, renewed⟩ := seen_renewSlot also connection replacement
  rw [settled] at stepped
  simp only [renewed] at stepped
  exact ⟨after, .finish shows (owed_of_nobody vacant) stepped other⟩

/-- Whether nothing is known of an operation. -/
structure Unused (coordinator : Coordinator) (spare : Nat) : Prop where
  asked : coordinator.errands.lookup spare = none
  queued : ∀ entry ∈ coordinator.queue, entry.1 ≠ spare

theorem Unused.line {replacement : Replacement} (unused : coordinator.Unused spare)
    (other : ticket ≠ spare) (snapshot : Snapshot) :
    Unused { coordinator with
      snapshot, waiting := coordinator.waiting ++ [(ticket, replacement)] } spare := by
  refine ⟨unused.asked, fun entry member => ?_⟩
  rw [queue_line] at member
  rcases List.mem_append.mp member with old | last
  · exact unused.queued entry old
  · rw [List.mem_singleton.mp last]
    exact other

theorem Unused.advance {action : Action} {result : Coordinator × List Effect}
    (unused : coordinator.Unused spare) (advance : Advance coordinator action result)
    (other : action.ticket? ≠ some spare) : result.1.Unused spare := by
  have waiting : ∀ entry ∈ coordinator.waiting, entry.1 ≠ spare := fun entry member =>
    unused.queued entry (List.mem_append_right _ member)
  have waits (signal : Signal) (same : action = .signal signal) :
      ((coordinator.tracker none).step signal).1.errands.lookup spare = none := by
    have meant : signal.ticket? ≠ some spare := by
      rw [same] at other
      exact other
    rw [Tracker.errands_step, Tracker.lookup_waits _ _ meant]
    exact unused.asked
  cases advance with
  | idle | list | pass | act | stop | begin => exact ⟨unused.asked, unused.queued⟩
  | wait new ready =>
    exact unused.line (fun same => other (by rw [← same]; rfl)) coordinator.snapshot
  | ask fallible => exact ⟨waits _ rfl, unused.queued⟩
  | fetched | started => exact unused.line (fun same => other (by rw [← same]; rfl)) _
  | settle new leaves => exact ⟨waits _ rfl, unused.queued⟩
  | drop free => exact ⟨unused.asked, waiting⟩
  | hold free found =>
    refine ⟨unused.asked, fun entry member => ?_⟩
    rcases List.mem_cons.mp member with rfl | later
    · exact waiting _ (mem_of_lookup found)
    · exact waiting entry (List.mem_filter.mp later).1
  | @renew ticket replacement session taken vacant =>
    have different : ticket ≠ spare := unused.queued (ticket, replacement) (by
      simp [queue_of_held taken])
    constructor
    · simp only [replace, errands_renewSlot]
      split
      · exact (lookup_filter_ne different.symm).trans unused.asked
      · exact unused.asked
    · simp only [replace, queue_renewSlot]
      split <;> exact waiting

/-- Whatever a coordinator does next, a tracker does on some signals. -/
theorem mirrors_advance {action : Action} {result : Coordinator × List Effect}
    (sound : coordinator.Sound) (unused : coordinator.Unused spare)
    (shows : coordinator.Shows connection) (advance : Advance coordinator action result)
    (other : action.ticket? ≠ some spare) :
    ∃ signals after, Mirrors spare coordinator connection signals result after := by
  cases advance with
  | idle => exact ⟨[], connection, .silent shows rfl rfl⟩
  | wait | started => exact ⟨[], connection, .silent ⟨shows.working, shows.resting⟩ rfl rfl⟩
  | ask fallible =>
    exact ⟨_, connection, mirrors_ask shows fallible fun same => other (by rw [← same]; rfl)⟩
  | @fetched ticket id run new asked =>
    exact ⟨_, connection, mirrors_fetched shows unused.asked id run _⟩
  | settle new leaves =>
    exact ⟨_, connection, mirrors_settle shows leaves fun same => other (by rw [← same]; rfl)⟩
  | @list ticket answer =>
    refine ⟨[.listed ticket answer], connection, .operation shows rfl rfl fun effect member => ?_⟩
    rw [List.mem_singleton.mp member]
    exact ⟨ticket, rfl, fun same => other (by rw [← same]; rfl)⟩
  | pass idle => exact ⟨_, connection, mirrors_pass sound shows idle _⟩
  | act only begun own =>
    obtain ⟨after, mirrors⟩ := mirrors_act shows only begun own
    exact ⟨_, after, mirrors⟩
  | drop free => exact ⟨[], connection, mirrors_taken shows rfl coordinator.waiting⟩
  | hold free waits => exact ⟨[], connection, mirrors_taken shows rfl _⟩
  | stop only told => exact ⟨_, connection, mirrors_stop sound only told⟩
  | @renew ticket replacement session taken vacant =>
    have first : (ticket, replacement) ∈ coordinator.queue := by simp [queue_of_held taken]
    obtain ⟨after, mirrors⟩ := mirrors_renew vacant connection
      (sound.answered (ticket, replacement) first) (unused.queued (ticket, replacement) first)
    exact ⟨_, after, mirrors⟩
  | begin only idle => exact ⟨[], connection, mirrors_begin shows only idle⟩

theorem Mirrors.append {between after : Connection} {first second : List Signal}
    {result : Coordinator × List Effect}
    (before : Mirrors spare coordinator connection first (next, effects) between)
    (later : Mirrors spare next between second result after) :
    Mirrors spare coordinator connection (first ++ second) (result.1, effects ++ result.2)
      after := by
  have performed : (coordinator.seen connection).performs (first ++ second) =
      (coordinator.seen connection).performs first ++ (next.seen between).performs second := by
    rw [Tracker.performs_append, before.reached]
  refine ⟨later.shows, ?_, ?_, ?_⟩
  · rw [Tracker.run_append, before.reached, later.reached]
  · rw [performed, List.filter_append, List.filter_append, before.operations, later.operations]
  · rw [performed, List.filter_append, List.filter_append]
    have late := (Omits.refl (effects.filter (·.ticket?.isNone))).append later.news
    have early := before.news.append
      (.refl (((next.seen between).performs second).filter (·.ticket?.isNone)))
    simp only [List.append_assoc] at late early ⊢
    exact late.trans early

theorem mirrors_run (sound : coordinator.Sound) (unused : coordinator.Unused spare)
    (shows : coordinator.Shows connection) {actions : List Action}
    (others : ∀ action ∈ actions, action.ticket? ≠ some spare) :
    ∃ signals after, Mirrors spare coordinator connection signals
      (coordinator.run actions, coordinator.performs actions) after := by
  induction actions generalizing coordinator connection with
  | nil => exact ⟨[], connection, .silent shows rfl rfl⟩
  | cons action rest ih =>
    have advance := sound.advance_step action
    have other := others action (.head _)
    obtain ⟨first, between, before⟩ := mirrors_advance sound unused shows advance other
    obtain ⟨second, after, later⟩ := ih (sound.advance advance) (unused.advance advance other)
      before.shows fun action member => others action (.tail _ member)
    exact ⟨first ++ second, after, before.append later⟩

/-- A coordinator looks as if it replaced sessions at once: a tracker comes to look the same and
does the same, on signals in which an operation that nobody uses may fetch runs. -/
theorem looks_at_once (token : Option String) (period : Nat) {spare : Nat} {actions : List Action}
    (others : ∀ action ∈ actions, action.ticket? ≠ some spare) :
    let reached := (initial token period).run actions
    let done := (initial token period).performs actions
    ∃ signals connection, reached.Shows connection ∧
      (Tracker.initial token period).run signals = reached.seen connection ∧
      done.filter (·.ticket?.isSome) =
        ((Tracker.initial token period).performs signals).filter (·.ticket?.any (· ≠ spare)) ∧
      Omits (done.filter (·.ticket?.isNone) ++ reached.owed)
        (((Tracker.initial token period).performs signals).filter (·.ticket?.isNone)) := by
  have unused : (initial token period).Unused spare :=
    ⟨rfl, by simp [initial, queue, Slot.holder?]⟩
  have shows : (initial token period).Shows .disconnected :=
    ⟨by simp [initial], fun _ _ => rfl⟩
  obtain ⟨signals, connection, mirrors⟩ :=
    mirrors_run (sound_start token period) unused shows others
  have whole : (initial token period).seen .disconnected = Tracker.initial token period := rfl
  have nothing : (initial token period).owed = [] := rfl
  obtain ⟨shows, reached, operations, news⟩ := mirrors
  rw [whole] at reached operations news
  rw [nothing, List.nil_append] at news
  exact ⟨signals, connection, shows, reached, operations, news⟩

/-- Two runs in a row are each given up for another one. The session of the first has its live updates
closed before anything is asked for in its place; that of the second never asks for any. -/
example :
    let id (digit : Fin 16) : RunId := ⟨List.replicate 32 digit, rfl⟩
    let actions : List Action :=
      [.signal (.invoked 0 (.attach (id 1))), .hold 0, .renew, .begin 1, .signal (.accepted 1),
        .signal (.invoked 1 (.attach (id 2))), .hold 1, .renew, .stop 1, .renew,
        .signal (.invoked 2 (.attach (id 3))), .hold 2, .stop 2, .renew, .begin 3]
    ((initial (some "key") 2000).performs actions).filterMap Effect.occurrence? =
      [.subscribed 1, .closed 1, .subscribed 3] := by
  decide +kernel

theorem exists_unused (actions : List Action) :
    ∃ bound, ∀ spare, bound ≤ spare → ∀ action ∈ actions, action.ticket? ≠ some spare := by
  induction actions with
  | nil => exact ⟨0, by simp⟩
  | cons action rest ih =>
    obtain ⟨bound, above⟩ := ih
    refine ⟨max bound (action.ticket?.getD 0 + 1), fun spare large other member same => ?_⟩
    rcases List.mem_cons.mp member with rfl | later
    · rw [same, Option.getD_some] at large
      omega
    · exact above spare (by omega) other later same

/-- While nothing is to begin or to be replaced, all that a coordinator knows a tracker comes to
know. -/
theorem knows_at_rest (token : Option String) (period : Nat) (actions : List Action)
    (free : ((initial token period).run actions).slot.isFree = true)
    (begun : ∀ job ∈ ((initial token period).run actions).jobs, job.begun = true) :
    ∃ signals, (Tracker.initial token period).run signals =
      ((initial token period).run actions).tracker
        (((initial token period).run actions).jobs.head?.map Job.session) := by
  obtain ⟨spare, above⟩ := exists_unused actions
  obtain ⟨signals, connection, shows, reached, -⟩ :=
    looks_at_once token period (above spare spare.le_refl)
  refine ⟨signals, reached.trans ?_⟩
  have known : connection = ((initial token period).run actions).snapshot.connection := by
    cases whole : ((initial token period).run actions).jobs with
    | nil => exact shows.resting whole free
    | cons job rest =>
      have member : job ∈ ((initial token period).run actions).jobs := by simp [whole]
      rw [shows.working job member, if_pos (begun job member)]
  rw [seen, known]
  rfl

end Coordinator
end Cupping.Tracking

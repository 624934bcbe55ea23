import Cupping.Proofs.Tracking.Errands

/-!
Operations that fail. One that is rejected at once leaves no trace. One that the service refuses
leaves a note of its failure and nothing else: all that the tracker did meanwhile it would have done
anyway.
-/

namespace Cupping.Tracking

/-- The operation that an effect belongs to; what sessions do belongs to none. -/
def Effect.ticket? : Effect → Option Nat
  | ask ticket _ | finish ticket _ => some ticket
  | subscribe .. | close .. | poll .. => none

/-- What people read once a service has refused an operation: the failure, and a message in front of
the others, of which twenty are kept. -/
def Snapshot.noteAloud (snapshot : Snapshot) (what told : String) : Snapshot :=
  { snapshot with
    lastError := some told
    activity :=
      ⟨((what ++ ": " ++ told) :: snapshot.activity.messages).take 20,
        snapshot.activity.logged + 1⟩ }

namespace Operation

/-- Whether an operation can fail. -/
def isFallible : Operation → Bool
  | attach _ | detach => false
  | loadRun _ | openRun _ | listRuns | startRun _ | submitScore _ => true

/-- The answer of the service that it did not do what an operation needs. -/
def refusal (ticket : Nat) (fault : Fault) : Operation → Signal
  | listRuns => .listed ticket (.error fault)
  | _ => .answered ticket (.error fault)

/-- What a failed operation comes to. -/
def failed (fault : Fault) : Operation → Outcome
  | listRuns => .runs (.error fault)
  | _ => .run (.error fault)

/-- What is known of the run once it is noted there that the service refused an operation. -/
def noting (fault : Fault) (snapshot : Snapshot) : Operation → Snapshot
  | attach _ | detach | listRuns => snapshot
  | loadRun _ | openRun _ => { snapshot with lastError := some fault.brief }
  | startRun _ => snapshot.noteAloud "Run start failed" fault.brief
  | submitScore _ => snapshot.noteAloud "Score submission failed" fault.brief

end Operation

namespace Tracker

/-- What some signals make a tracker do, in order. -/
def performs (tracker : Tracker) : List Signal → List Effect
  | [] => []
  | signal :: rest => (tracker.step signal).2 ++ (tracker.step signal).1.performs rest

theorem performs_append (tracker : Tracker) (first second : List Signal) :
    tracker.performs (first ++ second) =
      tracker.performs first ++ (tracker.run first).performs second := by
  induction first generalizing tracker with
  | nil => rfl
  | cons signal rest ih => simp [performs, ih, run]

section
variable {ticket : Nat} {signal : Signal} {signals : List Signal}

theorem lookup_waits (tracker : Tracker) (errands : List (Nat × Errand))
    (other : signal.ticket? ≠ some ticket) :
    (tracker.waits errands signal).lookup ticket = errands.lookup ticket := by
  cases signal with
  | invoked invokedTicket operation =>
    have different : (ticket == invokedTicket) = false :=
      beq_eq_false_iff_ne.mpr fun same => other (congrArg some same.symm)
    cases asked : tracker.errand? operation <;>
      simp [waits, asked, List.lookup_append, List.lookup_cons, different]
  | answered answeredTicket result =>
    exact lookup_filter_ne fun same => other (congrArg some same.symm)
  | listed | accepted | refused | delivered | ended | polled | clock | dropped => rfl

theorem waits_filter (tracker : Tracker) (errands : List (Nat × Errand))
    (other : signal.ticket? ≠ some ticket) :
    tracker.waits (errands.filter (·.1 ≠ ticket)) signal =
      (tracker.waits errands signal).filter (·.1 ≠ ticket) := by
  cases signal with
  | invoked invokedTicket operation =>
    have different : invokedTicket ≠ ticket := by simpa [Signal.ticket?] using other
    cases asked : tracker.errand? operation <;> simp [waits, asked, different]
  | answered answeredTicket result =>
    simp only [waits, List.filter_filter, Bool.and_comm]
  | listed | accepted | refused | delivered | ended | polled | clock | dropped => rfl

/-- A tracker that no longer waits for an answer acts as before, unless the answer comes. -/
theorem settle_step (tracker : Tracker) (other : signal.ticket? ≠ some ticket) :
    (tracker.settle ticket).step signal =
      ((tracker.step signal).1.settle ticket, (tracker.step signal).2) := by
  have agree (answered : Nat) (same : signal.ticket? = some answered) :
      (tracker.errands.filter (·.1 ≠ ticket)).lookup answered =
        tracker.errands.lookup answered :=
    lookup_filter_ne fun equal => other (equal ▸ same)
  have stepped := step_withErrands (tracker.errands.filter (·.1 ≠ ticket)) tracker signal agree
  rw [waits_filter tracker tracker.errands other, ← errands_step] at stepped
  exact stepped

theorem settle_run (tracker : Tracker) (others : ∀ signal ∈ signals, signal.ticket? ≠ some ticket) :
    (tracker.settle ticket).run signals = (tracker.run signals).settle ticket ∧
      (tracker.settle ticket).performs signals = tracker.performs signals := by
  induction signals generalizing tracker with
  | nil => exact ⟨rfl, rfl⟩
  | cons signal rest ih =>
    have stepped := tracker.settle_step (others signal (.head _))
    obtain ⟨reached, done⟩ := ih (tracker.step signal).1 fun later member =>
      others later (.tail _ member)
    constructor
    · change (((tracker.settle ticket).step signal).1).run rest = _
      rw [stepped]
      exact reached
    · rw [performs, stepped, done]
      rfl

theorem lookup_run (tracker : Tracker) (others : ∀ signal ∈ signals, signal.ticket? ≠ some ticket) :
    (tracker.run signals).errands.lookup ticket = tracker.errands.lookup ticket := by
  induction signals generalizing tracker with
  | nil => rfl
  | cons signal rest ih =>
    have stepped : (tracker.step signal).1.errands.lookup ticket =
        tracker.errands.lookup ticket := by
      rw [errands_step]
      exact lookup_waits tracker tracker.errands (others signal (.head _))
    exact (ih (tracker.step signal).1 fun later member => others later (.tail _ member)).trans
      stepped

end

theorem silent_release (tracker : Tracker) :
    ∀ effect ∈ tracker.release.2, effect.ticket? = none := by
  intro effect member
  cases present : tracker.session with
  | none => simp [release, present] at member
  | some session =>
    by_cases live : session.feed = .live
    · simp only [release, present, live, if_true, List.mem_singleton] at member
      rw [member]
      rfl
    · simp [release, present, live] at member

theorem silent_track (tracker : Tracker) (id : RunId) (prepare : Snapshot → Snapshot) :
    ∀ effect ∈ (tracker.track id prepare).2, effect.ticket? = none := by
  intro effect member
  cases credential : tracker.liveToken? with
  | none =>
    rw [track_of_none credential] at member
    exact silent_release tracker effect member
  | some token =>
    rw [track_of_some credential] at member
    rcases List.mem_append.mp member with old | new
    · exact silent_release tracker effect old
    · rw [List.mem_singleton.mp new]
      rfl

theorem silent_succeed (tracker : Tracker) (run : Run) (errand : Errand) :
    ∀ effect ∈ (tracker.succeed run errand).2, effect.ticket? = none := by
  cases errand with
  | loadRun => simp [succeed]
  | openRun id => exact silent_track tracker id _
  | startRun => exact silent_track tracker run.id _
  | submitScore trialNumber score => simp [succeed]

/-- What sessions do belongs to no operation. -/
theorem silent_inSession {tracker : Tracker} {act : Session → Tracker × List Effect}
    (acts : ∀ session, ∀ effect ∈ (act session).2, effect.ticket? = none) (number : Nat) :
    ∀ effect ∈ (tracker.inSession number act).2, effect.ticket? = none := by
  unfold inSession
  split
  · rename_i session found
    exact acts session
  · simp

theorem silent_finishLive (tracker : Tracker) (session : Session) :
    ∀ effect ∈ (tracker.finishLive session).2, effect.ticket? = none := by
  unfold finishLive
  split <;> simp [Effect.ticket?]

theorem silent_readClock (tracker : Tracker) (now : Nat) :
    ∀ effect ∈ (tracker.readClock now).2, effect.ticket? = none := by
  unfold readClock
  split
  · split
    · split <;> simp [Effect.ticket?]
    · simp
  · simp

theorem ticket_invoke {tracker : Tracker} {ticket : Nat} {operation : Operation} {effect : Effect}
    (member : effect ∈ (tracker.invoke ticket operation).2) :
    effect.ticket? = none ∨ effect.ticket? = some ticket := by
  have own {after : Effect} (member : effect ∈ [after]) (same : after.ticket? = some ticket) :
      effect.ticket? = none ∨ effect.ticket? = some ticket :=
    .inr (List.mem_singleton.mp member ▸ same)
  cases operation with
  | attach id =>
    rcases List.mem_append.mp member with old | new
    · exact .inl (silent_track tracker id (·.turnTo id) effect old)
    · exact own new rfl
  | detach =>
    rcases List.mem_append.mp member with old | new
    · exact .inl (silent_release tracker effect old)
    · exact own new rfl
  | loadRun id => exact own member rfl
  | openRun id => exact own member rfl
  | listRuns => exact own member rfl
  | startRun request =>
    simp only [invoke] at member
    split at member <;> exact own member rfl
  | submitScore score =>
    simp only [invoke] at member
    split at member
    · exact own member rfl
    · split at member <;> exact own member rfl

/-- Whatever a tracker does for an operation, it does when the operation is invoked or answered. -/
theorem ticket_step {tracker : Tracker} {signal : Signal} {effect : Effect}
    (member : effect ∈ (tracker.step signal).2) :
    effect.ticket? = none ∨ effect.ticket? = signal.ticket? := by
  cases signal with
  | invoked ticket operation => exact ticket_invoke member
  | answered ticket result =>
    simp only [step] at member
    cases found : tracker.errands.lookup ticket with
    | none =>
      rw [answer_of_none found] at member
      simp at member
    | some errand =>
      cases result with
      | ok run =>
        rw [answer_ok found] at member
        rcases List.mem_append.mp member with old | new
        · exact .inl (silent_succeed _ run errand effect old)
        · exact .inr (List.mem_singleton.mp new ▸ rfl)
      | error fault =>
        rw [answer_error found] at member
        exact .inr (List.mem_singleton.mp member ▸ rfl)
  | listed ticket result => exact .inr (List.mem_singleton.mp member ▸ rfl)
  | accepted number =>
    refine .inl (silent_inSession (fun session => ?_) number effect member)
    unfold accept
    split <;> simp
  | refused number =>
    refine .inl (silent_inSession (fun session => ?_) number effect member)
    unfold refuse
    split <;> simp
  | delivered number event =>
    refine .inl (silent_inSession (fun session => ?_) number effect member)
    unfold deliver
    split <;> simp
  | ended number =>
    exact .inl (silent_inSession (silent_finishLive tracker) number effect member)
  | polled number result =>
    refine .inl (silent_inSession (fun session => ?_) number effect member)
    unfold takePoll
    split <;> simp
  | clock now => exact .inl (silent_readClock tracker now effect member)
  | dropped => exact .inl (silent_release tracker effect member)

theorem ticket_performs {tracker : Tracker} {ticket : Nat} {signals : List Signal}
    (others : ∀ signal ∈ signals, signal.ticket? ≠ some ticket) :
    ∀ effect ∈ tracker.performs signals, effect.ticket? ≠ some ticket := by
  induction signals generalizing tracker with
  | nil => simp [performs]
  | cons signal rest ih =>
    intro effect member
    rcases List.mem_append.mp member with now | later
    · rcases ticket_step now with none | same
      · simp [none]
      · exact same ▸ others signal (.head _)
    · exact ih (fun later member => others later (.tail _ member)) effect later

/-- Whether an operation is rejected before the service is asked: the number of trials is out of
bounds, no trial needs a score, or the score is out of bounds. -/
def Rejects (tracker : Tracker) : Operation → Prop
  | .startRun request => ¬ (1 ≤ request.trials.toNat ∧ request.trials.toNat ≤ 200)
  | .submitScore score =>
    (∀ run trial, tracker.snapshot.run = some run → run.latestTrial = some trial →
      trial.state ≠ .suggested) ∨
    ¬ score.isFinite ∨ score < 0.0 ∨ 10.0 < score
  | _ => False

end Tracker

theorem make_startRequest (method : ScoringMethod) (trials : UInt32) (persons : List String) :
    (¬ (1 ≤ trials.toNat ∧ trials.toNat ≤ 200) ∧
      ∃ detail, StartRequest.make method trials persons = .error (.input detail)) ∨
    ((1 ≤ trials.toNat ∧ trials.toNat ≤ 200) ∧
      ∃ request, StartRequest.make method trials persons = .ok request) := by
  have zero : trials = 0 ↔ trials.toNat = 0 := UInt32.toNat_inj.symm
  by_cases outside : trials = 0 ∨ StartRequest.maxTrials < trials.toNat
  · refine .inl ⟨?_, _, if_pos outside⟩
    rw [zero, StartRequest.maxTrials] at outside
    omega
  · refine .inr ⟨?_, _, if_neg outside⟩
    rw [zero, StartRequest.maxTrials] at outside
    omega

theorem make_scoreRequest (trialId : Int64) (score : Float) :
    ((¬ score.isFinite ∨ score < 0.0 ∨ 10.0 < score) ∧
      ∃ detail, ScoreRequest.make trialId score = .error (.input detail)) ∨
    (¬ (¬ score.isFinite ∨ score < 0.0 ∨ 10.0 < score) ∧
      ScoreRequest.make trialId score = .ok ⟨trialId, score⟩) := by
  by_cases allowed : ScoreRequest.isScore score = true
  · refine .inr ⟨?_, if_pos allowed⟩
    simpa [ScoreRequest.isScore, and_assoc] using allowed
  · refine .inl ⟨?_, _, if_neg allowed⟩
    simpa [ScoreRequest.isScore, imp_iff_not_or, or_assoc] using allowed

theorem awaiting?_eq_none_iff (snapshot : Snapshot) :
    snapshot.awaiting? = none ↔ ∀ run trial, snapshot.run = some run →
      run.latestTrial = some trial → trial.state ≠ .suggested := by
  simp only [Snapshot.awaiting?, Run.awaiting?, Option.bind_eq_none_iff, Option.map_eq_none_iff,
    Option.filter_eq_none_iff, decide_eq_true_eq]
  exact ⟨fun none run trial known latest => none run known trial latest,
    fun none run known trial latest => none run trial known latest⟩

namespace Tracker

/-- A rejected operation ends at once, and the tracker stays as it is. -/
theorem invoke_of_rejects {tracker : Tracker} {operation : Operation}
    (rejects : tracker.Rejects operation) (ticket : Nat) :
    ∃ detail, tracker.invoke ticket operation =
      (tracker, [.finish ticket (.run (.error (.input detail)))]) := by
  cases operation with
  | startRun request =>
    rcases make_startRequest request.method request.trials request.persons with
      ⟨-, detail, made⟩ | ⟨inside, -⟩
    · exact ⟨detail, by simp [invoke, made]⟩
    · exact absurd inside rejects
  | submitScore score =>
    cases awaited : tracker.snapshot.awaiting? with
    | none => exact ⟨"No trial is waiting for a score.", by simp [invoke, awaited, nothingAwaited]⟩
    | some awaiting =>
      have outside : ¬ score.isFinite ∨ score < 0.0 ∨ 10.0 < score := by
        refine rejects.resolve_left fun none => ?_
        rw [← awaiting?_eq_none_iff, awaited] at none
        cases none
      rcases make_scoreRequest awaiting.2.id score with ⟨-, detail, made⟩ | ⟨inside, -⟩
      · exact ⟨detail, by simp [invoke, awaited, made]⟩
      · exact absurd outside inside
  | attach | detach | loadRun | openRun | listRuns => exact rejects.elim

/-- The tracker once it waits for the answer to an operation. -/
def waitingFor (tracker : Tracker) (ticket : Nat) (operation : Operation) : Tracker :=
  tracker.withErrands (tracker.waits tracker.errands (.invoked ticket operation))

/-- Any other operation that can fail asks the service once and waits for its answer. -/
theorem invoke_of_accepts {tracker : Tracker} {operation : Operation}
    (accepts : ¬ tracker.Rejects operation) (fallible : operation.isFallible = true)
    (ticket : Nat) :
    (∃ call, tracker.invoke ticket operation =
        (tracker.waitingFor ticket operation, [.ask ticket call])) ∧
      (operation = .listRuns ∨ ∃ errand, tracker.errand? operation = some errand) := by
  cases operation with
  | loadRun id => exact ⟨⟨_, rfl⟩, .inr ⟨_, rfl⟩⟩
  | openRun id => exact ⟨⟨_, rfl⟩, .inr ⟨_, rfl⟩⟩
  | listRuns =>
    have unchanged : tracker.waitingFor ticket .listRuns = tracker := by
      simp [waitingFor, waits, errand?, withErrands]
    exact ⟨⟨.listRuns, by rw [unchanged, invoke]⟩, .inl rfl⟩
  | startRun request =>
    rcases make_startRequest request.method request.trials request.persons with
      ⟨outside, -⟩ | ⟨-, allowed, made⟩
    · exact absurd outside accepts
    · have asked : tracker.errand? (.startRun request) = some .startRun := by
        simp [errand?, made, Except.toOption]
      refine ⟨⟨.startRun allowed, ?_⟩, .inr ⟨_, asked⟩⟩
      simp [invoke, made, ask, waitingFor, waits, asked, withErrands]
  | submitScore score =>
    obtain ⟨suggested, inside⟩ := not_or.mp accepts
    rw [← awaiting?_eq_none_iff] at suggested
    obtain ⟨⟨run, trial⟩, awaited⟩ := Option.ne_none_iff_exists'.mp suggested
    rcases make_scoreRequest trial.id score with ⟨outside, -⟩ | ⟨-, made⟩
    · exact absurd outside inside
    · have asked : tracker.errand? (.submitScore score) =
          some (.submitScore trial.number score) := by
        simp [errand?, awaited, made, Except.toOption]
      refine ⟨⟨.submitScore run.id ⟨trial.id, score⟩, ?_⟩, .inr ⟨_, asked⟩⟩
      simp [invoke, awaited, made, ask, waitingFor, waits, asked, withErrands]
  | attach | detach => cases fallible

theorem settle_eq_self {tracker : Tracker} {ticket : Nat}
    (missing : tracker.errands.lookup ticket = none) : tracker.settle ticket = tracker := by
  rw [settle, filter_ne_of_lookup missing]

/-- Taking an operation back leaves the tracker it was invoked on. -/
theorem settle_waitingFor {tracker : Tracker} {ticket : Nat}
    (missing : tracker.errands.lookup ticket = none) (operation : Operation) :
    (tracker.waitingFor ticket operation).settle ticket = tracker := by
  have gone : ((tracker.errand? operation).map (ticket, ·)).toList.filter (·.1 ≠ ticket) = [] := by
    cases tracker.errand? operation <;> simp
  have restored : (tracker.waits tracker.errands (.invoked ticket operation)).filter
      (·.1 ≠ ticket) = tracker.errands := by
    rw [waits, List.filter_append, gone, List.append_nil, filter_ne_of_lookup missing]
  simp only [settle, waitingFor, withErrands, restored]

/-- The service's refusal is noted as the operation that it is meant for notes it. -/
theorem fail_eq {tracker other : Tracker} {operation : Operation} {errand : Errand}
    (asked : tracker.errand? operation = some errand) (fault : Fault) :
    other.fail fault errand = other.update (operation.noting fault) := by
  cases operation with
  | loadRun id | openRun id =>
    obtain rfl := Option.some.inj asked
    rfl
  | startRun request =>
    obtain ⟨allowed, -, rfl⟩ := Option.map_eq_some_iff.mp asked
    rfl
  | submitScore score =>
    obtain ⟨awaiting, -, made⟩ := Option.bind_eq_some_iff.mp asked
    obtain ⟨request, -, rfl⟩ := Option.map_eq_some_iff.mp made
    rfl
  | attach | detach | listRuns => cases asked

theorem refusal_eq {tracker : Tracker} {operation : Operation} {errand : Errand}
    (asked : tracker.errand? operation = some errand) (ticket : Nat) (fault : Fault) :
    operation.refusal ticket fault = .answered ticket (.error fault) ∧
      operation.failed fault = .run (.error fault) := by
  cases operation with
  | listRuns => cases asked
  | attach | detach | loadRun | openRun | startRun | submitScore => exact ⟨rfl, rfl⟩

theorem lookup_waitingFor {tracker : Tracker} {ticket : Nat}
    (missing : tracker.errands.lookup ticket = none) (operation : Operation) :
    (tracker.waitingFor ticket operation).errands.lookup ticket = tracker.errand? operation := by
  cases asked : tracker.errand? operation <;>
    simp [waitingFor, withErrands, waits, asked, List.lookup_append, missing]

/-- The service's refusal of an operation that waits is noted, and returned. -/
theorem step_refusal {tracker invoked : Tracker} {ticket : Nat} {operation : Operation}
    (waiting : tracker.errands.lookup ticket = invoked.errand? operation)
    (awaited : operation = .listRuns ∨ ∃ errand, invoked.errand? operation = some errand)
    (fault : Fault) :
    tracker.step (operation.refusal ticket fault) =
      ((tracker.settle ticket).update (operation.noting fault),
        [.finish ticket (operation.failed fault)]) := by
  rcases awaited with rfl | ⟨errand, asked⟩
  · rw [settle_eq_self waiting]
    rfl
  · obtain ⟨refused, failed⟩ := refusal_eq asked ticket fault
    rw [refused, failed, step, answer_error (waiting.trans asked), fail_eq asked]

/-- How an operation fails that the service refuses: between its invocation and its answer all goes
on as if it had not been invoked, it is asked for once, and its failure is noted and returned. -/
structure FailsQuietly (start : Tracker) (earlier between : List Signal) (ticket : Nat)
    (operation : Operation) : Prop where
  waits : (start.run (earlier ++ .invoked ticket operation :: between)).settle ticket =
    start.run (earlier ++ between)
  notes : ∀ fault,
    start.run (earlier ++ .invoked ticket operation :: between ++
        [operation.refusal ticket fault]) =
      (start.run (earlier ++ between)).update (operation.noting fault)
  asks : ∃ call, ∀ fault,
    start.performs (earlier ++ .invoked ticket operation :: between ++
        [operation.refusal ticket fault]) =
      start.performs earlier ++ .ask ticket call :: (start.run earlier).performs between ++
        [.finish ticket (operation.failed fault)]

theorem failsQuietly {start : Tracker} {earlier between : List Signal} {ticket : Nat}
    {operation : Operation} (missing : (start.run earlier).errands.lookup ticket = none)
    (others : ∀ signal ∈ between, signal.ticket? ≠ some ticket)
    (fallible : operation.isFallible = true)
    (accepts : ¬ (start.run earlier).Rejects operation) :
    start.FailsQuietly earlier between ticket operation := by
  obtain ⟨⟨call, invoked⟩, awaited⟩ := invoke_of_accepts accepts fallible ticket
  let waiting := (start.run earlier).waitingFor ticket operation
  have undone : waiting.settle ticket = start.run earlier := settle_waitingFor missing operation
  have kept : waiting.errands.lookup ticket = (start.run earlier).errand? operation :=
    lookup_waitingFor missing operation
  have reached (more : List Signal) :
      start.run (earlier ++ .invoked ticket operation :: more) = waiting.run more := by
    rw [run_append]
    exact congrArg (fun outcome => outcome.1.run more) invoked
  have did (more : List Signal) : start.performs (earlier ++ .invoked ticket operation :: more) =
      start.performs earlier ++ .ask ticket call :: waiting.performs more := by
    rw [performs_append]
    exact congrArg (fun outcome => _ ++ (outcome.2 ++ outcome.1.performs more)) invoked
  obtain ⟨settled, same⟩ := waiting.settle_run others
  rw [undone] at settled same
  have answered := step_refusal ((waiting.lookup_run others).trans kept) awaited
  rw [← settled, ← run_append] at answered
  refine ⟨?_, fun fault => ?_, call, fun fault => ?_⟩
  · rw [reached, ← settled, run_append]
  · rw [List.append_assoc, List.cons_append, reached, run_append_singleton, answered]
  · rw [List.append_assoc, List.cons_append, did, performs_append, same]
    simp [performs, answered]

/-- An operation that fails leaves the tracking intact. If it is rejected, nothing happens. If the
service refuses it, the tracker is left as it would be without the operation but for the note of the
failure, and all it did for the operation was to ask once and to return what the service said. -/
theorem failed_operation (token : Option String) (period : Nat) {earlier between : List Signal}
    {ticket : Nat} {operation : Operation}
    (own : ∀ signal ∈ earlier ++ between, signal.ticket? ≠ some ticket)
    (fallible : operation.isFallible = true) :
    let start := initial token period
    ((start.run earlier).Rejects operation → ∃ detail,
      (start.run earlier).step (.invoked ticket operation) =
        (start.run earlier, [.finish ticket (.run (.error (.input detail)))])) ∧
      (¬ (start.run earlier).Rejects operation →
        start.FailsQuietly earlier between ticket operation) ∧
      ∀ effect ∈ start.performs (earlier ++ between), effect.ticket? ≠ some ticket := by
  intro start
  have before : ∀ signal ∈ earlier, signal.ticket? ≠ some ticket := fun signal member =>
    own signal (List.mem_append_left _ member)
  have meanwhile : ∀ signal ∈ between, signal.ticket? ≠ some ticket := fun signal member =>
    own signal (List.mem_append_right _ member)
  have missing : (start.run earlier).errands.lookup ticket = none := start.lookup_run before
  exact ⟨fun rejects => invoke_of_rejects rejects ticket,
    fun accepts => failsQuietly missing meanwhile fallible accepts, ticket_performs own⟩

/-- A score that the service refuses while live updates arrive: the messages so far stay, behind that
of the failure. -/
theorem failed_submission :
    let id : RunId := ⟨List.replicate 32 0, rfl⟩
    let trial : RunTrial := ⟨7, 4, .empty, none, .suggested⟩
    let run : Run := ⟨id, .running, none, none, 3, 9, .median, [], none, some trial⟩
    let start := initial (some "token") 2000
    let earlier : List Signal :=
      [.invoked 0 (.attach id), .accepted 1, .invoked 1 (.loadRun id), .answered 1 (.ok run)]
    let between : List Signal := [.delivered 1 ⟨4, .running, none, none, none, none⟩]
    let submitted := earlier ++ .invoked 2 (.submitScore 8.0) :: between
    let refused : Signal := .answered 2 (.error (.refusal 503 "Optimizer busy"))
    (∀ signal ∈ earlier ++ between, signal.ticket? ≠ some 2) ∧
      ¬ (start.run earlier).Rejects (.submitScore 8.0) ∧
      start.FailsQuietly earlier between 2 (.submitScore 8.0) ∧
      (start.run (submitted ++ [refused])).snapshot =
        ⟨some id, some run, [], .connected,
          ⟨["Score submission failed: Optimizer busy", "Event: trial=4, status=running",
            "Live updates connected."], 3⟩, true, some "Optimizer busy"⟩ ∧
      (start.performs (submitted ++ [refused])).length =
        (start.performs (earlier ++ between)).length + 2 := by
  intro id trial run start earlier between submitted refused
  have own : ∀ signal ∈ earlier ++ between, signal.ticket? ≠ some 2 := by
    simp [earlier, between, Signal.ticket?]
  have accepts : ¬ (start.run earlier).Rejects (.submitScore 8.0) := by
    rintro (unsuggested | infinite | low | high)
    · exact unsuggested run trial rfl rfl rfl
    · exact absurd infinite (by decide)
    · exact absurd low (by decide)
    · exact absurd high (by decide)
  have quiet : start.FailsQuietly earlier between 2 (.submitScore 8.0) :=
    (failed_operation (some "token") 2000 own rfl).2.1 accepts
  refine ⟨own, accepts, quiet, ?_, ?_⟩
  · have noted : start.run (submitted ++ [refused]) = _ :=
      quiet.notes (.refusal 503 "Optimizer busy")
    rw [noted]
    rfl
  · obtain ⟨call, asks⟩ := quiet.asks
    have performed : start.performs (submitted ++ [refused]) = _ :=
      asks (.refusal 503 "Optimizer busy")
    rw [performed, performs_append]
    simp only [List.length_append, List.length_cons, List.length_nil]
    omega

end Tracker
end Cupping.Tracking

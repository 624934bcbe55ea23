import Cupping.Proofs.Tracking.Failure
import Cupping.Proofs.Tracking.Identity

/-!
Answers that come late. Whoever asked gets the answer in any case, but once the tracker has turned
away from the run that was asked about, what is known of the run tracked by then stays as it is.
What counts is the run that is tracked when the answer arrives: a tracker that has come back to the
run takes the answer in.
-/

namespace Cupping.Tracking

namespace Tracker

/-- Where a signal turns the tracker: to a run, or to none if it is detached. -/
def turn? (tracker : Tracker) : Signal → Option (Option RunId)
  | .invoked _ (.attach id) => some (some id)
  | .invoked _ .detach => some none
  | .answered ticket (.ok run) =>
    match tracker.errands.lookup ticket with
    | some (.openRun id) => some (some id)
    | some .startRun => some (some run.id)
    | _ => none
  | _ => none

theorem turnsTo?_eq (tracker : Tracker) (signal : Signal) :
    tracker.turnsTo? signal = (tracker.turn? signal).getD tracker.snapshot.runId := by
  cases signal with
  | invoked ticket operation => cases operation <;> rfl
  | answered ticket result =>
    cases result with
    | error fault => rfl
    | ok run =>
      simp only [turnsTo?, turn?]
      cases tracker.errands.lookup ticket with
      | none => rfl
      | some errand => cases errand <;> rfl
  | listed | accepted | refused | delivered | ended | polled | clock | dropped => rfl

/-- The tracked run changes with a turn, and only with one. -/
theorem runId_step (tracker : Tracker) (signal : Signal) :
    (tracker.step signal).1.snapshot.runId =
      (tracker.turn? signal).getD tracker.snapshot.runId := by
  rw [(turns_step tracker signal).runId, turnsTo?_eq]

/-- A run that is not tracked stays so until the tracker turns to it. -/
theorem stays_away {tracker : Tracker} {id : RunId} {signals : List Signal}
    (away : tracker.snapshot.runId ≠ some id)
    (never : ∀ moment ∈ tracker.moments signals,
      moment.tracker.turn? moment.signal ≠ some (some id)) :
    (tracker.run signals).snapshot.runId ≠ some id := by
  induction signals generalizing tracker with
  | nil => exact away
  | cons signal rest ih =>
    obtain ⟨now, later⟩ := List.forall_mem_cons.mp never
    refine ih ?_ later
    rw [runId_step]
    cases turned : tracker.turn? signal with
    | none => exact away
    | some target => exact fun back => now (turned.trans (congrArg some back))

/-- Whether an operation asks the service about a run that the tracker keeps: to send the run, or to
score the trial that the run suggests. -/
def Asks (tracker : Tracker) (id : RunId) : Operation → Prop
  | .loadRun asked => asked = id
  | .submitScore score =>
    ¬ tracker.Rejects (.submitScore score) ∧ tracker.snapshot.run.map Run.id = some id
  | .attach _ | .detach | .openRun _ | .listRuns | .startRun _ => False

/-- What waits for an answer about a run that the tracker keeps. -/
theorem waiting_of_asks {tracker : Tracker} {id : RunId} {operation : Operation}
    (asks : tracker.Asks id operation) (ticket : Nat) :
    ∃ errand call, tracker.errand? operation = some errand ∧
      tracker.invoke ticket operation =
        (tracker.waitingFor ticket operation, [.ask ticket call]) ∧
      (errand = .loadRun ∨ ∃ trialNumber score, errand = .submitScore trialNumber score) := by
  cases operation with
  | loadRun asked => exact ⟨.loadRun, .getRun asked, rfl, rfl, .inl rfl⟩
  | submitScore score =>
    have accepts : ¬ tracker.Rejects (.submitScore score) := asks.1
    obtain ⟨⟨call, invoked⟩, listed | ⟨errand, waiting⟩⟩ := invoke_of_accepts accepts rfl ticket
    · cases listed
    · refine ⟨errand, call, waiting, invoked, .inr ?_⟩
      obtain ⟨awaiting, -, made⟩ := Option.bind_eq_some_iff.mp waiting
      obtain ⟨request, -, rfl⟩ := Option.map_eq_some_iff.mp made
      exact ⟨_, _, rfl⟩
  | attach | detach | openRun | listRuns | startRun => exact asks.elim

/-- An answer about a run that is not tracked is told to whoever asked, and that is all. -/
theorem answer_of_untracked {tracker : Tracker} {ticket : Nat} {errand : Errand} {run : Run}
    (waiting : tracker.errands.lookup ticket = some errand)
    (kept : errand = .loadRun ∨ ∃ trialNumber score, errand = .submitScore trialNumber score)
    (untracked : tracker.snapshot.runId ≠ some run.id) :
    tracker.answer ticket (.ok run) =
      (tracker.settle ticket, [.finish ticket (.run (.ok run))]) := by
  rw [answer_ok waiting]
  have other : (tracker.settle ticket).snapshot.runId ≠ some run.id := untracked
  rcases kept with rfl | ⟨trialNumber, score, rfl⟩
  · simp only [succeed, update, if_neg other, List.nil_append]
  · simp only [succeed, update, if_neg other, List.nil_append]

/-- The tracked run is asked about, and before the answer comes the tracker is detached or turns to
another run. -/
structure LeavesUnanswered (start : Tracker) (id : RunId) (ticket : Nat) (operation : Operation)
    (earlier between : List Signal) (leaving : Signal) (later : List Signal) : Prop where
  /-- No other operation has the ticket, and the answer does not come meanwhile. -/
  own : ∀ signal ∈ earlier ++ (between ++ leaving :: later), signal.ticket? ≠ some ticket
  tracked : (start.run earlier).snapshot.runId = some id
  asks : (start.run earlier).Asks id operation
  leaves : ∃ target, target ≠ some id ∧
    (start.run (earlier ++ .invoked ticket operation :: between)).turn? leaving = some target

section
variable {start : Tracker} {id : RunId} {ticket : Nat} {operation : Operation}
  {earlier between later : List Signal} {leaving : Signal}

/-- The operation still waits at the end. -/
theorem LeavesUnanswered.waiting
    (left : start.LeavesUnanswered id ticket operation earlier between leaving later)
    (fresh : start.errands.lookup ticket = none) :
    ∃ errand, (start.run earlier).errand? operation = some errand ∧
      (errand = .loadRun ∨ ∃ trialNumber score, errand = .submitScore trialNumber score) ∧
      (start.run (earlier ++ .invoked ticket operation ::
        (between ++ leaving :: later))).errands.lookup ticket = some errand := by
  obtain ⟨errand, call, asked, invoked, kept⟩ := waiting_of_asks left.asks ticket
  have before : (start.run earlier).errands.lookup ticket = none :=
    (start.lookup_run fun signal member =>
      left.own signal (List.mem_append_left _ member)).trans fresh
  have meanwhile := ((start.run earlier).waitingFor ticket operation).lookup_run
    fun signal member => left.own signal (List.mem_append_right _ member)
  have reached : start.run (earlier ++ .invoked ticket operation :: (between ++ leaving :: later)) =
      ((start.run earlier).waitingFor ticket operation).run (between ++ leaving :: later) := by
    rw [run_append]
    exact congrArg (fun outcome => outcome.1.run (between ++ leaving :: later)) invoked
  refine ⟨errand, asked, kept, ?_⟩
  rw [reached, meanwhile, lookup_waitingFor before, asked]

/-- The run is not tracked at the end, unless the tracker has turned to it again. -/
theorem LeavesUnanswered.untracked
    (left : start.LeavesUnanswered id ticket operation earlier between leaving later)
    (never : ∀ moment ∈ (start.run (earlier ++ .invoked ticket operation ::
        (between ++ [leaving]))).moments later,
      moment.tracker.turn? moment.signal ≠ some (some id)) :
    (start.run (earlier ++ .invoked ticket operation ::
      (between ++ leaving :: later))).snapshot.runId ≠ some id := by
  obtain ⟨target, other, turned⟩ := left.leaves
  have parts : earlier ++ .invoked ticket operation :: (between ++ leaving :: later) =
      (earlier ++ .invoked ticket operation :: (between ++ [leaving])) ++ later := by
    simp
  rw [parts, run_append]
  refine stays_away ?_ never
  rw [← List.cons_append, ← List.append_assoc, run_append_singleton, runId_step, turned]
  exact other

end

theorem accepts_submitScore {tracker : Tracker} {run : Run} {trial : RunTrial} {score : Float}
    (known : tracker.snapshot.run = some run) (latest : run.latestTrial = some trial)
    (suggested : trial.state = .suggested) (allowed : ScoreRequest.isScore score = true) :
    ¬ tracker.Rejects (.submitScore score) := by
  rintro (unsuggested | outside)
  · exact unsuggested run trial known latest suggested
  · simp only [ScoreRequest.isScore, Bool.and_eq_true, Bool.not_eq_true',
      decide_eq_false_iff_not] at allowed
    obtain ⟨⟨finite, notLow⟩, notHigh⟩ := allowed
    rcases outside with infinite | low | high
    · exact infinite finite
    · exact notLow low
    · exact notHigh high

/-- A run is asked about, and before the answer comes the tracker is detached or turns to another
run. The answer is told to whoever asked. If it is the run that was asked about, and the tracker has
not turned back to it, nothing else changes; if it is a failure, only the note of it is added. -/
theorem late_answer (token : Option String) (period : Nat) {id : RunId} {ticket : Nat}
    {operation : Operation} {earlier between later : List Signal} {leaving : Signal}
    (left : (initial token period).LeavesUnanswered id ticket operation earlier between leaving
      later) :
    let arrived := (initial token period).run (earlier ++ .invoked ticket operation ::
      (between ++ leaving :: later))
    ((∀ moment ∈ ((initial token period).run (earlier ++ .invoked ticket operation ::
          (between ++ [leaving]))).moments later,
        moment.tracker.turn? moment.signal ≠ some (some id)) →
      ∀ run : Run, run.id = id →
        arrived.step (.answered ticket (.ok run)) =
          (arrived.settle ticket, [.finish ticket (.run (.ok run))])) ∧
      ∀ fault, arrived.step (.answered ticket (.error fault)) =
        ((arrived.settle ticket).update (operation.noting fault),
          [.finish ticket (.run (.error fault))]) := by
  intro arrived
  obtain ⟨errand, asked, kept, waiting⟩ := left.waiting rfl
  constructor
  · rintro never run rfl
    exact answer_of_untracked waiting kept (left.untracked never)
  · intro fault
    rw [step, answer_error waiting, fail_eq asked]

/-- The answer to a score comes after the tracker has opened another run. -/
theorem late_answer_to_score :
    let id : RunId := ⟨List.replicate 32 0, rfl⟩
    let other : RunId := ⟨List.replicate 32 1, rfl⟩
    let trial : RunTrial := ⟨7, 4, .empty, none, .suggested⟩
    let run : Run := ⟨id, .running, none, none, 3, 9, .median, [], none, some trial⟩
    let opened : Run := ⟨other, .running, none, none, 0, 9, .median, [], none, none⟩
    let start := initial (some "token") 2000
    let earlier : List Signal :=
      [.invoked 0 (.attach id), .accepted 1, .invoked 1 (.loadRun id), .answered 1 (.ok run)]
    let between : List Signal := [.invoked 3 (.openRun other), .clock 10]
    let leaving : Signal := .answered 3 (.ok opened)
    let later : List Signal := [.accepted 2]
    let arrived := start.run (earlier ++ .invoked 2 (.submitScore 8.0) ::
      (between ++ leaving :: later))
    start.LeavesUnanswered id 2 (.submitScore 8.0) earlier between leaving later ∧
      (∀ moment ∈ (start.run (earlier ++ .invoked 2 (.submitScore 8.0) ::
          (between ++ [leaving]))).moments later,
        moment.tracker.turn? moment.signal ≠ some (some id)) ∧
      (arrived.step (.answered 2 (.ok { run with trialCount := 4 }))).1.snapshot =
        arrived.snapshot ∧
      (arrived.step (.answered 2 (.error (.refusal 503 "Busy")))).1.snapshot =
        { arrived.snapshot with
          lastError := some "Busy"
          activity := ⟨["Score submission failed: Busy", "Live updates connected."], 2⟩ } := by
  intro id other trial run opened start earlier between leaving later arrived
  have left : start.LeavesUnanswered id 2 (.submitScore 8.0) earlier between leaving later := by
    refine ⟨?_, rfl, ⟨?_, rfl⟩, some other, by decide, rfl⟩
    · simp [earlier, between, leaving, later, Signal.ticket?]
    · exact accepts_submitScore (rfl : _ = some run) rfl rfl (by decide)
  have never : ∀ moment ∈ (start.run (earlier ++ .invoked 2 (.submitScore 8.0) ::
      (between ++ [leaving]))).moments later,
      moment.tracker.turn? moment.signal ≠ some (some id) := by
    simp [later, moments, turn?]
  obtain ⟨taken, refused⟩ := late_answer (some "token") 2000 left
  refine ⟨left, never, ?_, ?_⟩
  · rw [taken never _ rfl]
    rfl
  · rw [refused]
    rfl

/-- A tracker that has come back to the run takes the answer in: a score that was submitted before
it was detached is noted after it is attached again. -/
theorem late_answer_after_return :
    ¬ ∀ (token : Option String) (period : Nat) (id : RunId) (ticket : Nat)
      (operation : Operation) (earlier between later : List Signal) (leaving : Signal) (run : Run),
      (initial token period).LeavesUnanswered id ticket operation earlier between leaving later →
        run.id = id →
        let arrived := (initial token period).run (earlier ++ .invoked ticket operation ::
          (between ++ leaving :: later))
        (arrived.step (.answered ticket (.ok run))).1.snapshot = arrived.snapshot := by
  intro unchanged
  let id : RunId := ⟨List.replicate 32 0, rfl⟩
  let trial : RunTrial := ⟨7, 4, .empty, none, .suggested⟩
  let run : Run := ⟨id, .running, none, none, 3, 9, .median, [], none, some trial⟩
  let earlier : List Signal :=
    [.invoked 0 (.attach id), .invoked 1 (.loadRun id), .answered 1 (.ok run)]
  let later : List Signal := [.invoked 4 (.attach id)]
  have left : (initial none 2000).LeavesUnanswered id 2 (.submitScore 8.0) earlier []
      (.invoked 3 .detach) later := by
    refine ⟨?_, rfl, ⟨?_, rfl⟩, none, by simp, rfl⟩
    · simp [earlier, later, Signal.ticket?]
    · exact accepts_submitScore (rfl : _ = some run) rfl rfl (by decide)
  have same := congrArg Snapshot.scores
    (unchanged none 2000 id 2 (.submitScore 8.0) earlier [] later (.invoked 3 .detach) run left rfl)
  exact absurd (congrArg List.length same) (by decide)

end Tracker
end Cupping.Tracking

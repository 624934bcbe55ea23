import Cupping.Proofs.Tracking.History
import Mathlib.Data.List.Induction

/-!
Operations that wait for an answer. What a tracker does with a signal depends on them only if the
signal is such an answer, and each of them was once invoked.
-/

namespace Cupping.Tracking

/-- The operation that a signal invokes or answers. -/
def Signal.ticket? : Signal → Option Nat
  | invoked ticket _ | answered ticket _ | listed ticket _ => some ticket
  | accepted _ | refused _ | delivered .. | ended _ | polled .. | clock _ | dropped => none

theorem lookup_filter_ne {entries : List (Nat × α)} {ticket other : Nat}
    (different : other ≠ ticket) :
    (entries.filter (·.1 ≠ ticket)).lookup other = entries.lookup other := by
  induction entries with
  | nil => rfl
  | cons entry rest ih =>
    obtain ⟨key, value⟩ := entry
    by_cases dropped : key = ticket
    · have unlike : (other == key) = false := by simpa [dropped] using different
      rw [List.filter_cons_of_neg (by simpa using dropped), ih, List.lookup_cons, unlike]
    · rw [List.filter_cons_of_pos (by simpa using dropped), List.lookup_cons, List.lookup_cons, ih]

theorem filter_ne_of_lookup {entries : List (Nat × α)} {ticket : Nat}
    (missing : entries.lookup ticket = none) : entries.filter (·.1 ≠ ticket) = entries := by
  refine List.filter_eq_self.mpr fun entry member => ?_
  have different := List.lookup_eq_none_iff.mp missing entry member
  exact decide_eq_true fun same => by simp [same] at different

namespace Tracker

/-- What an operation waits for once it has been invoked, if it is not rejected. -/
def errand? (tracker : Tracker) : Operation → Option Errand
  | .attach _ | .detach | .listRuns => none
  | .loadRun _ => some .loadRun
  | .openRun id => some (.openRun id)
  | .startRun request =>
    (StartRequest.make request.method request.trials request.persons).toOption.map
      fun _ => .startRun
  | .submitScore score =>
    tracker.snapshot.awaiting?.bind fun awaiting =>
      (ScoreRequest.make awaiting.2.id score).toOption.map
        fun _ => .submitScore awaiting.2.number score

/-- What a signal makes of what operations wait for. -/
def waits (tracker : Tracker) (errands : List (Nat × Errand)) : Signal → List (Nat × Errand)
  | .invoked ticket operation => errands ++ ((tracker.errand? operation).map (ticket, ·)).toList
  | .answered ticket _ => errands.filter (·.1 ≠ ticket)
  | _ => errands

/-- The tracker, if operations waited for something else. -/
def withErrands (tracker : Tracker) (errands : List (Nat × Errand)) : Tracker :=
  { tracker with errands }

/-- A transition that does not look at what operations wait for. -/
def Blind (errands : List (Nat × Errand)) (act : Tracker → Tracker × List Effect) : Prop :=
  ∀ tracker, act (tracker.withErrands errands) =
    ((act tracker).1.withErrands errands, (act tracker).2)

variable (errands : List (Nat × Errand))

theorem blind_track (id : RunId) (prepare : Snapshot → Snapshot) :
    Blind errands (·.track id prepare) := by
  intro tracker
  have same : (tracker.withErrands errands).liveToken? = tracker.liveToken? := rfl
  cases credential : tracker.liveToken? with
  | none =>
    simp only [track_of_none credential, track_of_none (same.trans credential)]
    rfl
  | some token =>
    simp only [track_of_some credential, track_of_some (same.trans credential)]
    rfl

theorem invoke_withErrands (tracker : Tracker) (ticket : Nat) (operation : Operation) :
    (tracker.withErrands errands).invoke ticket operation =
      ((tracker.invoke ticket operation).1.withErrands
          (tracker.waits errands (.invoked ticket operation)),
        (tracker.invoke ticket operation).2) := by
  cases operation with
  | attach id =>
    have tracked := blind_track errands id (·.turnTo id) tracker
    simp [invoke, waits, errand?, tracked]
  | detach => simp [invoke, waits, errand?, detach, release, withErrands]
  | loadRun id => rfl
  | openRun id => rfl
  | listRuns => simp [invoke, waits, errand?, withErrands]
  | startRun request =>
    simp only [invoke, waits, errand?]
    cases StartRequest.make request.method request.trials request.persons with
    | error fault => simp [Except.toOption]
    | ok allowed => rfl
  | submitScore score =>
    have seen : (tracker.withErrands errands).snapshot = tracker.snapshot := rfl
    simp only [invoke, waits, errand?, seen]
    cases tracker.snapshot.awaiting? with
    | none => simp
    | some awaiting =>
      dsimp only
      cases made : ScoreRequest.make awaiting.2.id score with
      | error fault => simp [made, Except.toOption]
      | ok allowed => simp [made, Except.toOption]; rfl

theorem blind_succeed (run : Run) (errand : Errand) : Blind errands (·.succeed run errand) := by
  cases errand with
  | loadRun => exact fun _ => rfl
  | openRun id => exact blind_track errands id fun snapshot => (snapshot.turnTo id).store run
  | startRun =>
    exact blind_track errands run.id fun _ =>
      ((Snapshot.fresh (some run.id)).log ("Run started: " ++ run.id.write)).store run
  | submitScore trialNumber score => exact fun _ => rfl

theorem answer_withErrands {errands : List (Nat × Errand)} {tracker : Tracker} {ticket : Nat}
    (agree : errands.lookup ticket = tracker.errands.lookup ticket) (result : Except Fault Run) :
    (tracker.withErrands errands).answer ticket result =
      ((tracker.answer ticket result).1.withErrands
          (tracker.waits errands (.answered ticket result)),
        (tracker.answer ticket result).2) := by
  cases found : tracker.errands.lookup ticket with
  | none =>
    have missing := agree.trans found
    rw [answer_of_none found, answer_of_none missing, waits, filter_ne_of_lookup missing]
  | some errand =>
    cases result with
    | ok run =>
      rw [answer_ok found, answer_ok (agree.trans found)]
      have succeeded := blind_succeed (errands.filter (·.1 ≠ ticket)) run errand
        (tracker.settle ticket)
      exact congrArg (fun outcome => (outcome.1, outcome.2 ++ _)) succeeded
    | error fault =>
      rw [answer_error found, answer_error (agree.trans found)]
      cases errand <;> rfl

theorem blind_inSession {errands : List (Nat × Errand)}
    {act : Tracker → Session → Tracker × List Effect}
    (acts : ∀ session, Blind errands (act · session)) (number : Nat) :
    Blind errands (fun tracker => tracker.inSession number (act tracker)) := by
  intro tracker
  have same : (tracker.withErrands errands).current? number = tracker.current? number := rfl
  simp only [inSession, same]
  cases tracker.current? number with
  | none => rfl
  | some session => exact acts session tracker

theorem blind_accept (session : Session) : Blind errands (·.accept session) := by
  intro tracker
  simp only [accept]
  split <;> rfl

theorem blind_refuse (session : Session) : Blind errands (·.refuse session) := by
  intro tracker
  simp only [refuse]
  split <;> rfl

theorem blind_deliver (event : RunEvent) (session : Session) :
    Blind errands (·.deliver session event) := by
  intro tracker
  simp only [deliver]
  split <;> rfl

theorem blind_finishLive (session : Session) : Blind errands (·.finishLive session) := by
  intro tracker
  have same : (tracker.withErrands errands).snapshot = tracker.snapshot := rfl
  simp only [finishLive, same]
  split
  · split <;> rfl
  · rfl

theorem blind_takePoll (result : Except Fault Run) (session : Session) :
    Blind errands (·.takePoll session result) := by
  intro tracker
  simp only [takePoll]
  split
  · cases result with
    | error fault => rfl
    | ok run =>
      dsimp only
      split <;> rfl
  · rfl

theorem blind_readClock (now : Nat) : Blind errands (·.readClock now) := by
  intro tracker
  have session : (tracker.withErrands errands).session = tracker.session := rfl
  have period : (tracker.withErrands errands).period = tracker.period := rfl
  simp only [readClock, session, period]
  split
  · split
    · split <;> rfl
    · rfl
  · rfl

/-- What operations wait for shows only when one of them is answered. -/
theorem step_withErrands (tracker : Tracker) (signal : Signal)
    (agree : ∀ ticket, signal.ticket? = some ticket →
      errands.lookup ticket = tracker.errands.lookup ticket) :
    (tracker.withErrands errands).step signal =
      ((tracker.step signal).1.withErrands (tracker.waits errands signal),
        (tracker.step signal).2) := by
  cases signal with
  | invoked ticket operation => exact invoke_withErrands errands tracker ticket operation
  | answered ticket result => exact answer_withErrands (agree ticket rfl) result
  | listed ticket result => rfl
  | accepted number => exact blind_inSession (blind_accept errands) number tracker
  | refused number => exact blind_inSession (blind_refuse errands) number tracker
  | delivered number event => exact blind_inSession (blind_deliver errands event) number tracker
  | ended number => exact blind_inSession (blind_finishLive errands) number tracker
  | polled number result => exact blind_inSession (blind_takePoll errands result) number tracker
  | clock now => exact blind_readClock errands now tracker
  | dropped => rfl

theorem errands_step (tracker : Tracker) (signal : Signal) :
    (tracker.step signal).1.errands = tracker.waits tracker.errands signal := by
  have same := step_withErrands tracker.errands tracker signal fun _ _ => rfl
  exact congrArg (·.1.errands) same

theorem run_append_singleton (tracker : Tracker) (signals : List Signal) (signal : Signal) :
    tracker.run (signals ++ [signal]) = ((tracker.run signals).step signal).1 := by
  simp [run]

/-- What is waited for has been asked for by an operation. -/
theorem invoked_of_waiting {token : Option String} {period ticket : Nat} {signals : List Signal}
    {errand : Errand}
    (member : (ticket, errand) ∈ ((initial token period).run signals).errands) :
    ∃ earlier operation, .invoked ticket operation ∈ signals ∧
      ((initial token period).run earlier).errand? operation = some errand := by
  induction signals using List.reverseRecOn with
  | nil => simp [run, initial] at member
  | append_singleton signals signal ih =>
    have older (old : (ticket, errand) ∈ ((initial token period).run signals).errands) :
        ∃ earlier operation, .invoked ticket operation ∈ signals ++ [signal] ∧
          ((initial token period).run earlier).errand? operation = some errand := by
      obtain ⟨earlier, operation, invoked, asked⟩ := ih old
      exact ⟨earlier, operation, List.mem_append_left _ invoked, asked⟩
    rw [run_append_singleton, errands_step] at member
    cases signal with
    | invoked other operation =>
      rcases List.mem_append.mp member with old | new
      · exact older old
      · obtain ⟨found, asked, same⟩ := Option.map_eq_some_iff.mp (Option.mem_toList.mp new)
        obtain ⟨rfl, rfl⟩ := Prod.mk.inj same
        exact ⟨signals, operation, by simp, asked⟩
    | answered other result => exact older (List.mem_filter.mp member).1
    | listed | accepted | refused | delivered | ended | polled | clock | dropped =>
      exact older member

theorem eq_submitScore {tracker : Tracker} {operation : Operation} {trialNumber : UInt32}
    {score : Float} (asked : tracker.errand? operation = some (.submitScore trialNumber score)) :
    operation = .submitScore score := by
  cases operation with
  | submitScore given =>
    obtain ⟨awaiting, -, made⟩ := Option.bind_eq_some_iff.mp asked
    obtain ⟨request, -, same⟩ := Option.map_eq_some_iff.mp made
    rw [(Errand.submitScore.inj same).2]
  | startRun request =>
    obtain ⟨allowed, -, same⟩ := Option.map_eq_some_iff.mp asked
    cases same
  | attach | detach | loadRun | openRun | listRuns => cases asked

end Tracker
end Cupping.Tracking

import Cupping.Proofs.Tracking.Moments

/-!
The tracked run is the last one that arrived in full since the last reset, brought up to date by the
last event after it. Events that arrive before any run does are lost on it.
-/

namespace Cupping

/-- A run brought up to date by some events. -/
def Run.afterAll (run : Run) (events : List RunEvent) : Run :=
  events.foldl Run.after run

/-- Of several events only the last one shows, since every event tells all that events can tell. -/
theorem Run.afterAll_eq (run : Run) (events : List RunEvent) :
    run.afterAll events = match events.getLast? with
      | none => run
      | some event => run.after event := by
  induction events using List.reverseRecOn with
  | nil => rfl
  | append_singleton earlier event ih =>
    have latest : run.afterAll (earlier ++ [event]) = (run.afterAll earlier).after event := by
      simp [afterAll]
    rw [latest, ih, List.getLast?_concat]
    cases earlier.getLast? <;> rfl

namespace Tracking

namespace Moment

/-- The run that arrives in full at this moment. -/
def stored? (moment : Moment) : Option Run :=
  moment.tracker.stored? moment.signal

/-- The event that arrives at this moment. -/
def received? (moment : Moment) : Option RunEvent :=
  moment.tracker.received? moment.signal

/-- What is known of the run after this moment, by what was known of it before. -/
def noteRun (known : Option Run) (moment : Moment) : Option Run :=
  moment.stored?.or (known.map fun run => run.afterAll moment.received?.toList)

end Moment

/-- Either no run has arrived, or the last one to arrive is known with the events since. -/
theorem foldl_noteRun (moments : List Moment) :
    ((∀ moment ∈ moments, moment.stored? = none) ∧ moments.foldl Moment.noteRun none = none) ∨
      ∃ before moment after full, moments = before ++ moment :: after ∧
        moment.stored? = some full ∧ (∀ later ∈ after, later.stored? = none) ∧
        moments.foldl Moment.noteRun none =
          some (full.afterAll (after.filterMap Moment.received?)) := by
  induction moments using List.reverseRecOn with
  | nil => exact .inl ⟨by simp, rfl⟩
  | append_singleton earlier last ih =>
    rw [List.foldl_append, List.foldl_cons, List.foldl_nil]
    cases arrived : last.stored? with
    | some full =>
      refine .inr ⟨earlier, last, [], full, rfl, arrived, by simp, ?_⟩
      simp [Moment.noteRun, arrived, Run.afterAll]
    | none =>
      rcases ih with ⟨none, unknown⟩ | ⟨before, moment, after, full, split, stored, since, known⟩
      · refine .inl ⟨fun moment member => ?_, by simp [Moment.noteRun, arrived, unknown]⟩
        rcases List.mem_append.mp member with old | new
        · exact none moment old
        · rw [List.mem_singleton.mp new, arrived]
      · refine .inr ⟨before, moment, after ++ [last], full, by simp [split], stored, ?_, ?_⟩
        · intro later member
          rcases List.mem_append.mp member with old | new
          · exact since later old
          · rw [List.mem_singleton.mp new, arrived]
        · have heard : (after ++ [last]).filterMap Moment.received? =
              after.filterMap Moment.received? ++ last.received?.toList := by
            cases news : last.received? <;> simp [news]
          simp [Moment.noteRun, arrived, known, heard, Run.afterAll]

namespace Tracker

theorem noteRun_step (tracker : Tracker) (signal : Signal) :
    (tracker.step signal).1.snapshot.run =
      Moment.noteRun (if tracker.forgets signal then none else tracker.snapshot.run)
        ⟨tracker, signal⟩ := by
  rw [run_step, Moment.noteRun, keptRun?, Moment.stored?, Moment.received?]
  by_cases forgotten : tracker.forgets signal = true
  · simp [forgotten]
  · simp only [forgotten, Bool.false_eq_true, if_false]
    cases tracker.received? signal <;> simp [Run.afterAll]

/-- The tracked run is unknown until one arrives in full after a reset. From then on it is the last
that did, with the status and the best values of the last event since. -/
theorem latest_run (token : Option String) (period : Nat) (signals : List Signal) :
    let known := ((initial token period).run signals).snapshot.run
    let since := (initial token period).sinceReset signals
    ((∀ moment ∈ since, moment.stored? = none) ∧ known = none) ∨
      ∃ before moment after full, since = before ++ moment :: after ∧
        moment.stored? = some full ∧ (∀ later ∈ after, later.stored? = none) ∧
        known = some (match (after.filterMap Moment.received?).getLast? with
          | none => full
          | some event => { full with
              status := event.status
              bestScore := event.bestScore
              bestParameters := event.bestParameters }) := by
  intro known since
  have made : known = since.foldl Moment.noteRun none :=
    kept_run (·.snapshot.run) rfl noteRun_step signals
  rw [made]
  rcases foldl_noteRun since with unknown | ⟨before, moment, after, full, split, stored, last, same⟩
  · exact .inl unknown
  · refine .inr ⟨before, moment, after, full, split, stored, last, ?_⟩
    rw [same, Run.afterAll_eq]
    cases (after.filterMap Moment.received?).getLast? <;> rfl

end Tracker
end Tracking
end Cupping

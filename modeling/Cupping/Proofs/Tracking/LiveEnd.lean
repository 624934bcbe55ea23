import Cupping.Proofs.Tracking.Fallback
import Cupping.Proofs.Tracking.KnownRun
import Cupping.Proofs.Tracking.SingleSource

/-!
The end of live updates. Whether a session ends with them or falls back to polling is decided by
what is known of the run: an event that tells of its end only counts for a run that is known.
-/

namespace Cupping.Tracking

theorem listening_eq_singleton {session : Option Session} {number : Nat}
    (live : listening session = [number]) :
    ∃ current, session = some current ∧ current.feed = .live ∧ current.number = number := by
  cases session with
  | none => simp [listening] at live
  | some current =>
    by_cases feed : current.feed = .live
    · exact ⟨current, rfl, feed, by simpa [listening_live feed] using live⟩
    · simp [listening_quiet feed] at live

theorem Within.not_live {session : Option Session} {number : Nat}
    (fallen : Within Fallen session number) : listening session ≠ [number] := by
  intro live
  obtain ⟨current, present, feed, same⟩ := listening_eq_singleton live
  exact (fallen current present same).2 feed

theorem fallen_of_idle {session : Option Session} {number : Nat}
    (idle : Within Idle session number) : Within Fallen session number := by
  intro current present same
  rw [idle current present same]
  simp [Fallen]

theorem Move.count_le (moved : Move session count news after total) : count ≤ total := by
  cases moved <;> simp

/-- A session with live updates keeps them or will never have them again. -/
theorem Move.live_or_fallen (moved : Move session count news after total) (known : number ≤ count)
    (live : listening session = [number]) :
    listening after = [number] ∨ Within Fallen after number := by
  obtain ⟨current, rfl, feed, same⟩ := listening_eq_singleton live
  cases moved with
  | stay => exact .inl live
  | leave => exact .inr .none
  | enter id => exact .inr (.of_ne (by simp only; omega))
  | listen asked => simp [asked] at feed
  | lose due live => exact .inr (.of_kind (by simp [Fallen]) number)
  | wait due answered => rcases answered with asked | ⟨next, asking⟩ <;> simp_all
  | poll next waiting => simp [waiting] at feed

namespace Tracker

/-- The runs that some signals store in full, in order. -/
def stored (tracker : Tracker) : List Signal → List Run
  | [] => []
  | signal :: rest => (tracker.stored? signal).toList ++ (tracker.step signal).1.stored rest

theorem endsSession_of_forgets {tracker : Tracker} {signal : Signal}
    (forgotten : tracker.forgets signal = true) : tracker.endsSession signal = true := by
  cases signal with
  | invoked ticket operation => cases operation <;> simp_all [forgets, endsSession]
  | answered ticket result =>
    cases result with
    | error fault => simp [forgets] at forgotten
    | ok run =>
      cases found : tracker.errands.lookup ticket with
      | none => simp [forgets, found] at forgotten
      | some errand => cases errand <;> simp_all [forgets, endsSession]
  | listed | accepted | refused | delivered | ended | polled | clock | dropped =>
    simp [forgets] at forgotten

/-- A session with live updates at both ends of a run has them all the time. -/
theorem live_step {tracker : Tracker} {signal : Signal} {rest : List Signal} {number : Nat}
    (known : number ≤ tracker.sessions) (live : listening tracker.session = [number])
    (reached : listening (tracker.run (signal :: rest)).session = [number]) :
    number ≤ (tracker.step signal).1.sessions ∧
      listening (tracker.step signal).1.session = [number] := by
  have moved := tracker.step_moves signal
  have later : number ≤ (tracker.step signal).1.sessions := Nat.le_trans known moved.count_le
  refine ⟨later, (moved.live_or_fallen known live).resolve_right fun fallen => ?_⟩
  exact (within_run lasting_fallen later fallen rest).2.not_live reached

theorem received?_eq_none {tracker : Tracker} {signal : Signal} {number : Nat}
    (live : listening tracker.session = [number])
    (silent : ∀ event, signal ≠ .delivered number event) :
    tracker.received? signal = none := by
  cases signal with
  | delivered other event =>
    have different : number ≠ other := fun same => silent event (same ▸ rfl)
    obtain ⟨current, present, feed, same⟩ := listening_eq_singleton live
    simp [received?, current?, present, same, different]
  | invoked | answered | listed | accepted | refused | ended | polled | clock | dropped => rfl

/-- While a session has live updates and no event arrives, the last run stored is the one known. -/
theorem run_while_live {tracker : Tracker} {number : Nat} {signals : List Signal}
    (known : number ≤ tracker.sessions) (live : listening tracker.session = [number])
    (reached : listening (tracker.run signals).session = [number])
    (silent : ∀ event, .delivered number event ∉ signals) :
    (tracker.run signals).snapshot.run =
      (tracker.stored signals).getLast?.or tracker.snapshot.run := by
  induction signals generalizing tracker with
  | nil => rfl
  | cons signal rest ih =>
    obtain ⟨later, still⟩ := live_step known live reached
    have kept : tracker.forgets signal = false := by
      refine Bool.eq_false_iff.mpr fun forgotten => ?_
      have ends := endsSession_of_forgets forgotten
      exact (fallen_of_idle (isOver_of_endsSession ends known).2).not_live still
    have unheard : tracker.received? signal = none :=
      received?_eq_none live fun event same => silent event (same ▸ .head _)
    have stepped : (tracker.step signal).1.snapshot.run =
        (tracker.stored? signal).or tracker.snapshot.run := by
      simp [run_step, keptRun?, kept, unheard]
    have rested := ih later still reached fun event member => silent event (.tail _ member)
    change ((tracker.step signal).1.run rest).snapshot.run = _
    rw [rested, stepped, stored, List.getLast?_append, Option.or_assoc]
    cases tracker.stored? signal <;> rfl

/-- Whether the end of the run is known once an event has told of it and some more signals have
followed: the last run stored since is finished, or none has been stored and a run was known when the
event arrived. -/
def KnowsOfEnd (tracker : Tracker) (number : Nat) (event : RunEvent) (between : List Signal) :
    Prop :=
  match ((tracker.step (.delivered number event)).1.stored between).getLast? with
  | some run => run.isFinished = true
  | none => tracker.snapshot.run.isSome = true

/-- Whether a session whose live updates end after some signals ends with them: the tracker is left
disconnected, and at no time does the session poll or tell of a fallback. -/
structure EndsWithUpdates (tracker : Tracker) (signals : List Signal) (number : Nat) : Prop where
  connection : (tracker.run (signals ++ [.ended number])).snapshot.connection = .disconnected
  ceased : (tracker.run (signals ++ [.ended number])).IsOver number
  unpolled : ∀ later, .polled number ∉ tracker.history (signals ++ .ended number :: later)
  silent : ∀ later before signal, before ++ [signal] <+: signals ++ .ended number :: later →
    signal.session? = some number →
      ∀ message ∈ (tracker.run before).logged signal, ¬ TellsOfFallback message

/-- Whether a session whose live updates end after some signals falls back to polling. -/
structure FallsBack (tracker : Tracker) (signals : List Signal) (number : Nat) : Prop where
  connection : (tracker.run (signals ++ [.ended number])).snapshot.connection = .polling
  polling : (tracker.run (signals ++ [.ended number])).IsPolling number
  told : ∃ message ∈ (tracker.run signals).logged (.ended number), TellsOfFallback message

theorem step_delivered {tracker : Tracker} {current : Session} {number : Nat}
    (found : tracker.current? number = some current) (feed : current.feed = .live)
    (event : RunEvent) :
    tracker.step (.delivered number event) = (tracker.update (·.receive event), []) := by
  simp [step, inSession, found, deliver, feed]

theorem step_ended {tracker : Tracker} {current : Session} {number : Nat}
    (found : tracker.current? number = some current) (feed : current.feed = .live) :
    tracker.step (.ended number) =
      (if tracker.snapshot.isFinished then tracker.conclude else tracker.startPolling current,
        [.close current.number current.runId]) := by
  simp [step, inSession, found, finishLive, feed]

/-- The session that receives live updates, with what has to do with it. -/
theorem current?_of_listening {tracker : Tracker} {number : Nat}
    (live : listening tracker.session = [number]) :
    ∃ current, tracker.current? number = some current ∧ tracker.session = some current ∧
      current.feed = .live ∧ current.number = number := by
  obtain ⟨current, present, feed, same⟩ := listening_eq_singleton live
  exact ⟨current, by simp [current?, present, same], present, feed, same⟩

/-- Live updates end with the run known to be finished just if its end is known. -/
theorem isFinished_iff {tracker : Tracker} {number : Nat} {event : RunEvent}
    {between : List Signal} (finished : event.status = .finished)
    (known : number ≤ tracker.sessions)
    (live : listening tracker.session = [number])
    (latest : ∀ other, .delivered number other ∉ between)
    (lasting : listening (tracker.run (.delivered number event :: between)).session = [number]) :
    (tracker.run (.delivered number event :: between)).snapshot.isFinished = true ↔
      tracker.KnowsOfEnd number event between := by
  obtain ⟨later, still⟩ := live_step known live lasting
  obtain ⟨current, found, -, feed, -⟩ := current?_of_listening live
  have arrived : (tracker.step (.delivered number event)).1.snapshot.run =
      tracker.snapshot.run.map (·.after event) := by
    simp [step_delivered found feed, update]
  have reached := run_while_live later still lasting latest
  rw [arrived] at reached
  change (((tracker.step (.delivered number event)).1.run between).snapshot.run).any _ = true ↔ _
  rw [reached, KnowsOfEnd]
  cases ((tracker.step (.delivered number event)).1.stored between).getLast? with
  | some run => simp
  | none =>
    cases tracker.snapshot.run with
    | none => simp
    | some run => simp [Run.isFinished, Run.after, finished]

/-- There is no session with a number any more. -/
def IsGone (tracker : Tracker) (number : Nat) : Prop :=
  number ≤ tracker.sessions ∧ Within (fun _ => False) tracker.session number

theorem IsGone.run {tracker : Tracker} {number : Nat} (gone : tracker.IsGone number)
    (later : List Signal) : (tracker.run later).IsGone number :=
  within_run ⟨id, id, fun _ _ => id, fun _ _ => id⟩ gone.1 gone.2 later

theorem IsGone.not_isPolling {tracker : Tracker} {number : Nat} (gone : tracker.IsGone number) :
    ¬ tracker.IsPolling number := by
  rintro ⟨current, due, present, same, -⟩
  exact gone.2 current present same

theorem IsGone.isOver {tracker : Tracker} {number : Nat} (gone : tracker.IsGone number) :
    tracker.IsOver number :=
  ⟨gone.1, fun current present same => (gone.2 current present same).elim⟩

section
variable {token : Option String} {period number : Nat} {signals : List Signal}

theorem sessions_of_listening
    (live : listening ((initial token period).run signals).session = [number]) :
    ((initial token period).run signals).sessions = number := by
  obtain ⟨current, present, -, same⟩ := listening_eq_singleton live
  exact ((Accounted.of_initial token period signals).newest current present).1.symm.trans same

/-- A session that has live updates now has not fallen back before. -/
theorem not_isPolling_of_listening {front : List Signal}
    (live : listening ((initial token period).run signals).session = [number])
    (earlier : front <+: signals) : ¬ ((initial token period).run front).IsPolling number := by
  intro polling
  obtain ⟨rest, rfl⟩ := earlier
  obtain ⟨current, due, present, same, -⟩ := id polling
  have newest := (Accounted.of_initial token period front).newest current present
  have known : number ≤ ((initial token period).run front).sessions :=
    Nat.le_of_eq (same.symm.trans newest.1)
  rw [run_append] at live
  exact (within_run lasting_fallen known polling.fallen rest).2.not_live live

/-- A session that has live updates now has not polled. -/
theorem unpolled_of_listening
    (live : listening ((initial token period).run signals).session = [number]) :
    .polled number ∉ (initial token period).history signals := by
  obtain ⟨current, present, feed, rfl⟩ := listening_eq_singleton live
  have stands : ¬ Fallen current.feed := by simp [Fallen, feed]
  exact (Accounted.of_initial token period signals).unpolled current present stands

theorem endsWithUpdates
    (live : listening ((initial token period).run signals).session = [number])
    (finished : ((initial token period).run signals).snapshot.isFinished = true) :
    (initial token period).EndsWithUpdates signals number := by
  obtain ⟨current, found, present, feed, same⟩ := current?_of_listening live
  have stepped := step_ended found feed
  rw [if_pos finished] at stepped
  have concluded : (initial token period).run (signals ++ [.ended number]) =
      ((initial token period).run signals).conclude := by
    rw [run_append]
    exact congrArg Prod.fst stepped
  have gone : ((initial token period).run (signals ++ [.ended number])).IsGone number := by
    rw [concluded]
    exact ⟨Nat.le_of_eq (sessions_of_listening live).symm, .none⟩
  refine ⟨by rw [concluded]; rfl, gone.isOver, fun later member => ?_, ?_⟩
  · rw [List.append_cons signals, history_append, history_append] at member
    rcases List.mem_append.mp member with early | late
    · rcases List.mem_append.mp early with past | now
      · exact unpolled_of_listening live past
      · simp [history, occurrences, opened?, stepped, Effect.occurrence?] at now
    · exact gone.isOver.history later _ late rfl
  · intro later before signal earlier meant message member tells
    have polling : ((initial token period).run (before ++ [signal])).IsPolling number := by
      rw [run_append]
      exact isPolling_of_logged meant member tells
    rw [List.append_cons signals] at earlier
    have ended : signals ++ [.ended number] <+: signals ++ [.ended number] ++ later :=
      List.prefix_append _ later
    rcases List.prefix_or_prefix_of_prefix earlier ended with short | ⟨rest, long⟩
    · rcases List.prefix_concat_iff.mp short with whole | short
      · exact gone.not_isPolling (whole ▸ polling)
      · exact not_isPolling_of_listening live short polling
    · rw [← long, run_append] at polling
      exact (gone.run rest).not_isPolling polling

theorem fallsBack (live : listening ((initial token period).run signals).session = [number])
    (unfinished : ¬ ((initial token period).run signals).snapshot.isFinished = true) :
    (initial token period).FallsBack signals number := by
  obtain ⟨current, found, present, feed, same⟩ := current?_of_listening live
  have stepped := step_ended found feed
  rw [if_neg unfinished] at stepped
  have reached : (initial token period).run (signals ++ [.ended number]) =
      ((initial token period).run signals).startPolling current := by
    rw [run_append]
    exact congrArg Prod.fst stepped
  have told : ((initial token period).run signals).logged (.ended number) = [_] :=
    logged_eq_singleton (by rw [stepped]; rfl)
  refine ⟨by rw [reached]; rfl, by rw [reached]; exact ⟨_, _, rfl, same, rfl⟩, ?_⟩
  rw [told]
  exact ⟨_, .head _, tellsOfFallback_every _⟩

/-- If the last event before the end of live updates tells that the run is finished, the session
ends with them exactly if the end of the run is known, and else it falls back to polling. -/
theorem live_end_after_finished {earlier between : List Signal} {event : RunEvent}
    (finished : event.status = .finished)
    (live : listening ((initial token period).run earlier).session = [number])
    (latest : ∀ other, .delivered number other ∉ between)
    (lasting : listening ((initial token period).run
      (earlier ++ .delivered number event :: between)).session = [number]) :
    ((initial token period).EndsWithUpdates (earlier ++ .delivered number event :: between) number ↔
        ((initial token period).run earlier).KnowsOfEnd number event between) ∧
      (¬ ((initial token period).run earlier).KnowsOfEnd number event between →
        (initial token period).FallsBack
          (earlier ++ .delivered number event :: between) number) := by
  have known := Nat.le_of_eq (sessions_of_listening live).symm
  have decided := isFinished_iff finished known live latest (by rwa [run_append] at lasting)
  rw [← run_append] at decided
  have back (unknown : ¬ ((initial token period).run earlier).KnowsOfEnd number event between) :=
    fallsBack lasting (decided.not.mpr unknown)
  refine ⟨⟨fun ends => ?_, fun knows => endsWithUpdates lasting (decided.mpr knows)⟩, back⟩
  by_contra unknown
  have polling := (back unknown).connection
  rw [ends.connection] at polling
  contradiction

end

/-- A run that has been fetched by the time is known to end. -/
theorem live_end_fetched :
    let id : RunId := ⟨List.replicate 32 0, rfl⟩
    let run : Run := ⟨id, .running, none, none, 3, 4, .median, [], none, none⟩
    let event : RunEvent := ⟨4, .finished, none, none, none, none⟩
    let earlier : List Signal :=
      [.invoked 0 (.attach id), .invoked 1 (.loadRun id), .accepted 1, .answered 1 (.ok run)]
    let start := initial (some "token") 2000
    listening (start.run earlier).session = [1] ∧
      start.EndsWithUpdates (earlier ++ [.delivered 1 event, .clock 2000]) 1 :=
  ⟨rfl, (live_end_after_finished rfl rfl (by simp) rfl).1.mpr rfl⟩

/-- A run that has only been attached to is not known, so that its session polls although the last
event tells of its end. -/
theorem fallsBack_unfetched :
    let id : RunId := ⟨List.replicate 32 0, rfl⟩
    let event : RunEvent := ⟨4, .finished, none, none, none, none⟩
    let signals : List Signal := [.invoked 0 (.attach id), .accepted 1, .delivered 1 event]
    let start := initial (some "token") 2000
    listening (start.run signals).session = [1] ∧
      (start.run (signals ++ [.ended 1])).snapshot.connection = .polling ∧
      (start.run (signals ++ [.ended 1])).snapshot.activity.latest? =
        some "Live updates unavailable, polling every 2s." ∧
      start.history (signals ++ [.ended 1, .clock 2000]) =
        [.subscribed 1, .opened 1, .closed 1, .polled 1] ∧
      ¬ start.EndsWithUpdates signals 1 := by
  refine ⟨rfl, rfl, by decide, by decide, fun ends => ?_⟩
  exact absurd ends.connection (by decide)

end Tracker
end Cupping.Tracking

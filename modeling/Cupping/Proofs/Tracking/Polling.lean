import Cupping.Proofs.Tracking.PollSteps

/-!
The life of a session that has fallen back to polling. Its polls keep their distance, it takes in
every answer and tells nothing until one of them is a finished run, and with that answer it ends.
-/

namespace Cupping.Tracking

/-- The next poll, or the one after an answer still to come, is not before a time. -/
def NotBefore (time : Nat) : Feed → Prop
  | .polling due => ∀ next, due = some next → time ≤ next
  | .asking next => time ≤ next
  | .requesting | .live => False

theorem NotBefore.fallen {time : Nat} {feed : Feed} (paced : NotBefore time feed) :
    Fallen feed := by
  cases feed with
  | requesting | live => exact paced.elim
  | polling | asking => simp [Fallen]

/-- Times that keep their distance from a start and from each other: the first of them is one period
after the start, the second two, and so on, or later. -/
def Spaced (since period : Nat) (times : List Nat) : Prop :=
  ∀ k time, times[k]? = some time → since + (k + 1) * period ≤ time

theorem Spaced.append_singleton {since period time : Nat} {times : List Nat}
    (spaced : Spaced since period times) (last : since + (times.length + 1) * period ≤ time) :
    Spaced since period (times ++ [time]) := by
  intro k other found
  rcases Nat.lt_or_ge k times.length with before | beyond
  · rw [List.getElem?_append_left before] at found
    exact spaced k other found
  · rw [List.getElem?_append_right beyond] at found
    obtain ⟨bound, rfl⟩ := List.getElem?_eq_some_iff.mp found
    obtain rfl : k = times.length := by
      simp only [List.length_singleton] at bound
      omega
    simpa using last

/-- The time on the clock if a session polls at this moment. -/
def Moment.pollTime? (number : Nat) (moment : Moment) : Option Nat :=
  if .polled number ∈ moment.tracker.occurrences moment.signal then
    some (moment.tracker.step moment.signal).1.now
  else none

/-- The messages by which a session makes known what it is told at this moment. -/
def Moment.toldBy (number : Nat) (moment : Moment) : List String :=
  if moment.signal.session? = some number then moment.tracker.logged moment.signal else []

namespace Tracker

/-- The times at which a session polls. -/
def pollTimes (tracker : Tracker) (number : Nat) (signals : List Signal) : List Nat :=
  (tracker.moments signals).filterMap (Moment.pollTime? number)

/-- The answers that a session receives. -/
def answers (tracker : Tracker) (number : Nat) (signals : List Signal) :
    List (Except Fault Run) :=
  (tracker.moments signals).filterMap fun moment => moment.tracker.taken? number moment.signal

/-- The messages of a session, in order. -/
def messagesOf (tracker : Tracker) (number : Nat) (signals : List Signal) : List String :=
  (tracker.moments signals).flatMap (Moment.toldBy number)

/-- How a session stands that polls with a period since a time and has seen some signals: it has
received no finished run, tells nothing, and keeps the distance of its polls. -/
structure StillPolls (start : Tracker) (number period since : Nat) (later : List Signal) :
    Prop where
  session : ∃ current, (start.run later).session = some current ∧ current.number = number ∧
    NotBefore (since + ((start.pollTimes number later).length + 1) * period) current.feed ∧
    (Idle current.feed → period = 0)
  connection : (start.run later).snapshot.connection = .polling
  spaced : Spaced since period (start.pollTimes number later)
  /-- Each poll but the last is answered, and the last one unless it waits for its answer. -/
  answered : (start.pollTimes number later).length =
    (start.answers number later).length + if (start.run later).isAsking number then 1 else 0
  unfinished : ∀ result ∈ start.answers number later, isLast result = false
  silent : start.messagesOf number later = []

/-- How a session stands that has polled until a finished run: that was its last answer, which it
has told, and it is not there any more. -/
structure HasConcluded (start : Tracker) (number period since : Nat) (later : List Signal) :
    Prop where
  session : (start.run later).session = none
  connection : (start.run later).snapshot.connection = .disconnected
  spaced : Spaced since period (start.pollTimes number later)
  answered : (start.pollTimes number later).length = (start.answers number later).length
  finished : ∃ front run, start.answers number later = front ++ [.ok run] ∧
    run.isFinished = true ∧ ∀ result ∈ front, isLast result = false
  told : start.messagesOf number later = ["Run finished."]

variable {tracker : Tracker} {current : Session} {signal : Signal} {number : Nat}

theorem pollTime?_of_same (same : (tracker.step signal).1.session = tracker.session) :
    Moment.pollTime? number ⟨tracker, signal⟩ = none :=
  if_neg ((tracker.step_moves signal).unpolled same number)

theorem toldBy_of_ignored (ignored : signal.session? = some number →
      tracker.step signal = (tracker, [])) :
    Moment.toldBy number ⟨tracker, signal⟩ = [] := by
  unfold Moment.toldBy
  split
  · rename_i meant
    exact logged_eq_nil (by rw [ignored meant])
  · rfl

/-- What neither cancels a session that has fallen back, nor makes a poll or answers one. -/
theorem rests (present : tracker.session = some current) (fallen : Fallen current.feed)
    (kept : ¬ tracker.Cancels signal) (untaken : tracker.taken? current.number signal = none)
    (undue : ∀ now due, signal = .clock now → tracker.nextDue? = some due → now < due) :
    (tracker.step signal).1.session = tracker.session ∧
      Moment.toldBy current.number ⟨tracker, signal⟩ = [] := by
  constructor
  · cases meant : signal.session? with
    | none => exact session_of_unmeant meant (endsSession_of_kept meant kept) undue
    | some number => rw [step_eq_of_fallen present fallen meant untaken]
  · exact toldBy_of_ignored fun meant => step_eq_of_fallen present fallen meant untaken

theorem pollTime?_of_due {due now : Nat} (present : tracker.session = some current)
    (waiting : current.feed = .polling (some due)) (reached : due ≤ now) :
    Moment.pollTime? current.number ⟨tracker, .clock now⟩ = some now := by
  simp [Moment.pollTime?, occurrences, opened?, step_clock_of_due present waiting reached,
    Effect.occurrence?]

/-- Only a finished run is told of. -/
theorem toldBy_of_taken {result : Except Fault Run}
    (taken : tracker.taken? number signal = some result) :
    Moment.toldBy number ⟨tracker, signal⟩ = if isLast result then ["Run finished."] else [] := by
  obtain ⟨current, next, present, own, feed, rfl, stepped⟩ := step_of_taken taken
  have meant : Moment.toldBy number ⟨tracker, .polled number result⟩ =
      tracker.logged (.polled number result) := if_pos rfl
  rw [meant]
  cases result with
  | error fault => exact logged_eq_nil (by rw [stepped]; rfl)
  | ok run =>
    cases finished : run.isFinished with
    | true =>
      rw [isLast, finished, if_pos rfl]
      exact logged_eq_singleton (by rw [stepped]; simp [Snapshot.heed, finished])
    | false =>
      rw [isLast, finished, if_neg Bool.false_ne_true]
      exact logged_eq_nil (by rw [stepped]; simp [Snapshot.heed, finished])

theorem pollTime?_of_taken {result : Except Fault Run}
    (taken : tracker.taken? number signal = some result) (other : Nat) :
    Moment.pollTime? other ⟨tracker, signal⟩ = none := by
  obtain ⟨current, next, present, own, feed, rfl, stepped⟩ := step_of_taken taken
  simp [Moment.pollTime?, occurrences, opened?, stepped]

theorem pollTimes_append_singleton (tracker : Tracker) (number : Nat) (signals : List Signal)
    (signal : Signal) :
    tracker.pollTimes number (signals ++ [signal]) = tracker.pollTimes number signals ++
      (Moment.pollTime? number ⟨tracker.run signals, signal⟩).toList := by
  rw [pollTimes, moments_append_singleton, List.filterMap_append]
  cases found : Moment.pollTime? number ⟨tracker.run signals, signal⟩ <;> simp [pollTimes, found]

theorem answers_append_singleton (tracker : Tracker) (number : Nat) (signals : List Signal)
    (signal : Signal) :
    tracker.answers number (signals ++ [signal]) = tracker.answers number signals ++
      ((tracker.run signals).taken? number signal).toList := by
  rw [answers, moments_append_singleton, List.filterMap_append]
  cases found : (tracker.run signals).taken? number signal <;> simp [answers, found]

theorem messagesOf_append_singleton (tracker : Tracker) (number : Nat) (signals : List Signal)
    (signal : Signal) :
    tracker.messagesOf number (signals ++ [signal]) = tracker.messagesOf number signals ++
      Moment.toldBy number ⟨tracker.run signals, signal⟩ := by
  simp [messagesOf, moments_append_singleton]

theorem ne_dropped_of_kept (kept : ¬ tracker.Cancels signal) : signal ≠ .dropped := by
  rintro rfl
  exact kept ⟨rfl, rfl⟩

theorem shows_of_polling (connection : tracker.snapshot.connection = .polling)
    (present : tracker.session = some current) (fallen : Fallen current.feed) : tracker.Shows :=
  connection.trans (status_eq_polling.mpr ⟨current, present, fallen⟩).symm

theorem connection_of_fallen (shows : tracker.Shows) (present : tracker.session = some current)
    (fallen : Fallen current.feed) : tracker.snapshot.connection = .polling :=
  shows.trans (status_eq_polling.mpr ⟨current, present, fallen⟩)

theorem sessions_le_run (tracker : Tracker) (signals : List Signal) :
    tracker.sessions ≤ (tracker.run signals).sessions := by
  induction signals using List.reverseRecOn with
  | nil => exact Nat.le_refl _
  | append_singleton signals signal ih =>
    rw [run_append_singleton]
    exact Nat.le_trans ih ((tracker.run signals).step_moves signal).count_le

section Run

variable {start : Tracker} {period since : Nat} {later : List Signal}

/-- A signal that has nothing to do with the session leaves everything as it stands. -/
theorem StillPolls.rest (polls : start.StillPolls number period since later)
    (kept : ¬ (start.run later).Cancels signal)
    (untaken : (start.run later).taken? number signal = none)
    (undue : ∀ now due, signal = .clock now → (start.run later).nextDue? = some due → now < due) :
    start.StillPolls number period since (later ++ [signal]) := by
  obtain ⟨current, present, rfl, paced, idle⟩ := polls.session
  obtain ⟨same, told⟩ := rests present paced.fallen kept untaken undue
  have times : start.pollTimes current.number (later ++ [signal]) =
      start.pollTimes current.number later := by
    simp [pollTimes_append_singleton, pollTime?_of_same same]
  have answers : start.answers current.number (later ++ [signal]) =
      start.answers current.number later := by
    simp [answers_append_singleton, untaken]
  have shows := (shows_of_polling polls.connection present paced.fallen).step
    (ne_dropped_of_kept kept)
  have still := same.trans present
  constructor
  · rw [times, run_append_singleton]
    exact ⟨current, still, rfl, paced, idle⟩
  · rw [run_append_singleton]
    exact connection_of_fallen shows still paced.fallen
  · rw [times]
    exact polls.spaced
  · rw [times, answers, run_append_singleton, isAsking_of_session same]
    exact polls.answered
  · rw [answers]
    exact polls.unfinished
  · rw [messagesOf_append_singleton, polls.silent, told, List.append_nil]

/-- A poll that is due is made in time. -/
theorem StillPolls.poll {now due : Nat} (constant : start.period = period)
    (polls : start.StillPolls number period since later)
    (next : (start.run later).nextDue? = some due) (reached : due ≤ now) :
    start.StillPolls number period since (later ++ [.clock now]) := by
  obtain ⟨current, present, rfl, paced, idle⟩ := polls.session
  obtain ⟨session, there, waiting⟩ := nextDue?_eq_some.mp next
  obtain rfl := Option.some.inj (there.symm.trans present)
  have stepped := step_clock_of_due present waiting reached
  have timely : since + ((start.pollTimes session.number later).length + 1) * period ≤ due := by
    rw [waiting] at paced
    exact paced due rfl
  have times : start.pollTimes session.number (later ++ [.clock now]) =
      start.pollTimes session.number later ++ [now] := by
    simp [pollTimes_append_singleton, pollTime?_of_due present waiting reached]
  have answers : start.answers session.number (later ++ [.clock now]) =
      start.answers session.number later := by
    simp [answers_append_singleton, taken?]
  have before := polls.answered
  rw [isAsking_eq_false present waiting] at before
  have present : (start.run (later ++ [.clock now])).session =
      some { session with feed := .asking (nextPoll period due now) } := by
    rw [run_append_singleton, stepped, (settled_run start later).period, constant]
  constructor
  · refine ⟨_, present, rfl, ?_, by simp [Idle]⟩
    rw [times, List.length_append, List.length_singleton, Nat.succ_mul, ← Nat.add_assoc]
    exact Nat.le_trans (Nat.add_le_add_right timely period) (le_nextPoll period due now)
  · rw [run_append_singleton, stepped]
    exact polls.connection
  · rw [times]
    exact polls.spaced.append_singleton (Nat.le_trans timely reached)
  · rw [times, answers, isAsking_eq_true present rfl]
    simpa using before
  · rw [answers]
    exact polls.unfinished
  · rw [messagesOf_append_singleton, polls.silent]
    rfl

/-- With the answer the session goes on as before or, if that was a finished run, it ends. -/
theorem StillPolls.take {result : Except Fault Run}
    (polls : start.StillPolls number period since later)
    (taken : (start.run later).taken? number signal = some result) :
    start.StillPolls number period since (later ++ [signal]) ∨
      start.HasConcluded number period since (later ++ [signal]) := by
  obtain ⟨current, present, rfl, paced, idle⟩ := polls.session
  obtain ⟨session, next, there, same, asking, rfl, stepped⟩ := step_of_taken taken
  obtain rfl := Option.some.inj (there.symm.trans present)
  have times : start.pollTimes session.number (later ++ [.polled session.number result]) =
      start.pollTimes session.number later := by
    simp [pollTimes_append_singleton, pollTime?_of_taken taken]
  have answers : start.answers session.number (later ++ [.polled session.number result]) =
      start.answers session.number later ++ [result] := by
    simp [answers_append_singleton, taken]
  have told : start.messagesOf session.number (later ++ [.polled session.number result]) =
      if isLast result then ["Run finished."] else [] := by
    rw [messagesOf_append_singleton, polls.silent, toldBy_of_taken taken, List.nil_append]
  have counted := polls.answered
  rw [isAsking_eq_true present asking] at counted
  have connection := (start.run later).snapshot.connection_heed result
  cases last : isLast result with
  | true =>
    right
    obtain ⟨run, rfl, finished⟩ : ∃ run, result = .ok run ∧ run.isFinished = true := by
      cases result with
      | error fault => cases last
      | ok run => exact ⟨run, rfl, last⟩
    constructor
    · rw [run_append_singleton, stepped, last, if_pos rfl]
    · rw [run_append_singleton, stepped, connection, last, if_pos rfl]
    · rw [times]
      exact polls.spaced
    · rw [times, answers]
      simpa using counted
    · exact ⟨_, run, answers, finished, polls.unfinished⟩
    · rw [told, last, if_pos rfl]
  | false =>
    left
    have present : (start.run (later ++ [.polled session.number result])).session =
        some { session with feed := .polling (some next) } := by
      rw [run_append_singleton, stepped, last, if_neg Bool.false_ne_true]
    rw [asking] at paced
    constructor
    · refine ⟨_, present, rfl, ?_, by simp [Idle]⟩
      rw [times]
      rintro _ ⟨⟩
      exact paced
    · rw [run_append_singleton, stepped, connection, last, if_neg Bool.false_ne_true]
      exact polls.connection
    · rw [times]
      exact polls.spaced
    · rw [times, answers, isAsking_eq_false present rfl]
      simpa using counted
    · rw [answers]
      intro other member
      rcases List.mem_append.mp member with old | new
      · exact polls.unfinished other old
      · rw [List.mem_singleton.mp new, last]
    · rw [told, last, if_neg Bool.false_ne_true]

theorem HasConcluded.step (concluded : start.HasConcluded number period since later)
    (kept : ¬ (start.run later).Cancels signal) :
    start.HasConcluded number period since (later ++ [signal]) := by
  have gone := concluded.session
  have ignored {other : Nat} (meant : signal.session? = some other) :
      (start.run later).step signal = (start.run later, []) :=
    step_eq_of_idle (by rw [gone]; exact .none) meant
  have same : ((start.run later).step signal).1.session = (start.run later).session := by
    cases meant : signal.session? with
    | none =>
      refine session_of_unmeant meant (endsSession_of_kept meant kept) fun now due _ next => ?_
      obtain ⟨session, there, -⟩ := nextDue?_eq_some.mp next
      rw [gone] at there
      cases there
    | some number => rw [ignored meant]
  have untaken : (start.run later).taken? number signal = none := by
    cases taken : (start.run later).taken? number signal with
    | none => rfl
    | some result =>
      obtain ⟨session, -, there, -⟩ := step_of_taken taken
      rw [gone] at there
      cases there
  have shows : (start.run later).Shows := by
    rw [Shows, concluded.connection, gone]
    rfl
  have times : start.pollTimes number (later ++ [signal]) = start.pollTimes number later := by
    simp [pollTimes_append_singleton, pollTime?_of_same same]
  have answers : start.answers number (later ++ [signal]) = start.answers number later := by
    simp [answers_append_singleton, untaken]
  have told : Moment.toldBy number ⟨start.run later, signal⟩ = [] :=
    toldBy_of_ignored ignored
  constructor
  · rw [run_append_singleton, same, gone]
  · rw [run_append_singleton, shows.step (ne_dropped_of_kept kept), same, gone]
    rfl
  · rw [times]
    exact concluded.spaced
  · rw [times, answers]
    exact concluded.answered
  · rw [answers]
    exact concluded.finished
  · rw [messagesOf_append_singleton, concluded.told, told, List.append_nil]

/-- As long as the session is not replaced or given up, it polls or it has come to its end. -/
theorem polls_or_concluded (constant : start.period = period)
    (begun : start.StillPolls number period since [])
    (kept : ∀ moment ∈ start.moments later, ¬ moment.tracker.Cancels moment.signal) :
    start.StillPolls number period since later ∨ start.HasConcluded number period since later := by
  induction later using List.reverseRecOn with
  | nil => exact .inl begun
  | append_singleton later signal ih =>
    rw [moments_append_singleton] at kept
    have uncancelled : ¬ (start.run later).Cancels signal :=
      kept ⟨start.run later, signal⟩ (by simp)
    rcases ih fun moment member => kept moment (List.mem_append_left _ member) with
      polls | concluded
    · cases taken : (start.run later).taken? number signal with
      | some result => exact polls.take taken
      | none =>
        left
        by_cases reached : ∃ now due, signal = .clock now ∧
            (start.run later).nextDue? = some due ∧ due ≤ now
        · obtain ⟨now, due, rfl, next, reached⟩ := reached
          exact polls.poll constant next reached
        · refine polls.rest uncancelled taken fun now due same next => ?_
          by_contra late
          exact reached ⟨now, due, same, next, Nat.not_lt.mp late⟩
    · exact .inr (concluded.step uncancelled)

/-- A fallback to polling puts off the first poll for one period. -/
theorem stillPolls_startPolling (tracker : Tracker) (session : Session) :
    (tracker.startPolling session).StillPolls session.number tracker.period tracker.now [] := by
  constructor
  · refine ⟨_, rfl, rfl, ?_, ?_⟩
    · intro next due
      obtain ⟨-, same⟩ := Option.ite_none_left_eq_some.mp due
      simp [pollTimes, moments, ← Option.some.inj same]
    · intro idle
      by_contra paced
      have due := Feed.polling.inj idle
      rw [if_neg paced] at due
      cases due
  · rfl
  · intro k time found
    cases found
  · rw [run, List.foldl_nil, isAsking_eq_false rfl rfl]
    rfl
  · intro result member
    cases member
  · rfl

/-- A session that polls with a period and waits for no answer will make its next poll. -/
theorem StillPolls.next (polls : start.StillPolls number period since later) (paced : 0 < period) :
    (start.run later).isAsking number = true ∨
      ∃ due, ∀ now, due ≤ now → .polled number ∈ (start.run later).occurrences (.clock now) := by
  obtain ⟨current, present, rfl, timely, idle⟩ := polls.session
  rcases timely.fallen.cases with ⟨due, waiting⟩ | ⟨next, asking⟩
  · right
    cases due with
    | none => exact absurd (idle waiting) (Nat.ne_of_gt paced)
    | some due =>
      refine ⟨due, fun now reached => ?_⟩
      simp [occurrences, opened?, step_clock_of_due present waiting reached, Effect.occurrence?]
  · exact .inl (isAsking_eq_true present asking)

theorem HasConcluded.unpolled (concluded : start.HasConcluded number period since later)
    (known : number ≤ (start.run later).sessions) (more : List Signal) :
    .polled number ∉ (start.run later).history more := by
  intro member
  have gone : (start.run later).IsGone number := by
    refine ⟨known, ?_⟩
    rw [concluded.session]
    exact .none
  exact gone.isOver.history more _ member rfl

end Run

/-- A session that falls back to polling and is not replaced or given up polls until it receives a
finished run. Until then it shows that it polls, its polls come no sooner than one period after the
other, counted from the fallback, and it tells nothing. The first finished run is its last answer:
it is told once, the tracker shows that it is disconnected, and the session never polls again.
Every answer is taken in as it is. -/
theorem polls_until_finished (token : Option String) (period : Nat) {earlier later : List Signal}
    {cause : Signal} (turns : ((initial token period).run earlier).TurnsToPolling number cause)
    (kept : ∀ moment ∈ ((initial token period).run (earlier ++ [cause])).moments later,
      ¬ moment.tracker.Cancels moment.signal) :
    let since := ((initial token period).run earlier).now
    let start := (initial token period).run (earlier ++ [cause])
    let reached := start.run later
    (start.StillPolls number period since later ∧
        (0 < period → reached.isAsking number = true ∨
          ∃ due, ∀ now, due ≤ now → .polled number ∈ reached.occurrences (.clock now)) ∨
      start.HasConcluded number period since later ∧
        ∀ more, .polled number ∉ reached.history more) ∧
      ∀ moment ∈ start.moments later, ∀ result,
        moment.tracker.taken? number moment.signal = some result →
          (moment.tracker.step moment.signal).1.snapshot = moment.tracker.snapshot.heed result := by
  intro since start reached
  obtain ⟨current, present, rfl, stepped⟩ := step_of_turnsToPolling turns
  have constant := (settled_run (initial token period) earlier).period
  have begun : start.StillPolls current.number period since [] := by
    have polls := stillPolls_startPolling ((initial token period).run earlier) current
    rw [constant, ← stepped, ← run_append_singleton] at polls
    exact polls
  have known : current.number ≤ reached.sessions := by
    have newest := (Accounted.of_initial token period earlier).newest current present
    rw [newest.1]
    have passed := sessions_le_run ((initial token period).run earlier) ([cause] ++ later)
    rwa [← run_append, ← List.append_assoc, run_append] at passed
  constructor
  · rcases polls_or_concluded (settled_run (initial token period) _).period begun kept with
      polls | concluded
    · exact .inl ⟨polls, polls.next⟩
    · exact .inr ⟨concluded, concluded.unpolled known⟩
  · intro moment member result taken
    obtain ⟨session, next, -, -, -, -, taken⟩ := step_of_taken taken
    rw [taken]

/-- Three polls, one of them late: the first fails, the second brings a run that goes on, and the
third a run that is finished. -/
theorem polls_until_finished_when_refused :
    let id : RunId := ⟨List.replicate 32 0, rfl⟩
    let run : Run := ⟨id, .running, none, none, 3, 4, .median, [], none, none⟩
    let earlier : List Signal := [.clock 100, .invoked 0 (.attach id)]
    let later : List Signal :=
      [.clock 2100, .polled 1 (.error (.unreachable "no route")), .clock 5000, .polled 1 (.ok run),
        .clock 6999, .clock 7000, .polled 1 (.ok { run with status := .finished }), .clock 9000]
    let start := (initial (some "token") 2000).run (earlier ++ [.refused 1])
    start.pollTimes 1 later = [2100, 5000, 7000] ∧ start.HasConcluded 1 2000 100 later ∧
      ∀ more, .polled 1 ∉ (start.run later).history more := by
  intro id run earlier later start
  have turns : ((initial (some "token") 2000).run earlier).TurnsToPolling 1 (.refused 1) :=
    ⟨⟨_, rfl, rfl, by simp [Fallen]⟩, ⟨_, _, rfl, rfl, rfl⟩⟩
  have kept : ∀ moment ∈ start.moments later, ¬ moment.tracker.Cancels moment.signal := by decide
  obtain ⟨polls, -⟩ := polls_until_finished (some "token") 2000 turns kept
  rcases polls with ⟨polls, -⟩ | ⟨concluded, unpolled⟩
  · exact absurd polls.connection (by decide)
  · exact ⟨by decide, concluded, unpolled⟩

end Tracker
end Cupping.Tracking

import Cupping.Proofs.Tracking.Failure
import Cupping.Proofs.Tracking.Identity
import Cupping.Proofs.Tracking.LiveEnd

/-!
What the connection tells. It always names the source of news that the session has, and that source
is the one that the service has been asked for: an open channel, a request without an answer, or
polls. Only a session that is to poll without a period stays on display when it has stopped.
-/

namespace Cupping.Tracking

/-- The connection of a session, as it is to be shown. -/
def status : Option Session → Connection
  | none => .disconnected
  | some session =>
    match session.feed with
    | .requesting => .retrying
    | .live => .connected
    | .polling _ | .asking _ => .polling

theorem status_eq_retrying {session : Option Session} :
    status session = .retrying ↔
      ∃ current, session = some current ∧ current.feed = .requesting := by
  cases session with
  | none => simp [status]
  | some current => cases feed : current.feed <;> simp [status, feed]

theorem status_eq_connected {session : Option Session} :
    status session = .connected ↔ ∃ current, session = some current ∧ current.feed = .live := by
  cases session with
  | none => simp [status]
  | some current => cases feed : current.feed <;> simp [status, feed]

theorem status_eq_polling {session : Option Session} :
    status session = .polling ↔ ∃ current, session = some current ∧ Fallen current.feed := by
  cases session with
  | none => simp [status]
  | some current => cases feed : current.feed <;> simp [status, feed, Fallen]

theorem status_eq_disconnected {session : Option Session} :
    status session = .disconnected ↔ session = none := by
  cases session with
  | none => simp [status]
  | some current => cases feed : current.feed <;> simp [status, feed]

/-- Whether a signal is the answer to the subscription of a session. -/
def Signal.Answers (signal : Signal) (number : Nat) : Prop :=
  signal = .accepted number ∨ signal = .refused number

@[simp]
theorem Snapshot.connection_receive (snapshot : Snapshot) (event : RunEvent) :
    (snapshot.receive event).connection = snapshot.connection := by
  unfold receive
  split <;> rfl

namespace Tracker

/-- The connection is the one of the session. -/
def Shows (tracker : Tracker) : Prop :=
  tracker.snapshot.connection = status tracker.session

variable {tracker : Tracker}

theorem Shows.of_eq {next : Tracker} (shows : tracker.Shows)
    (connection : next.snapshot.connection = tracker.snapshot.connection)
    (session : next.session = tracker.session) : next.Shows := by
  rw [Shows, connection, session]
  exact shows

theorem shows_track (tracker : Tracker) (id : RunId) (prepare : Snapshot → Snapshot) :
    (tracker.track id prepare).1.Shows := by
  cases credential : tracker.liveToken? with
  | none =>
    rw [track_of_none credential]
    rfl
  | some token =>
    rw [track_of_some credential]
    rfl

theorem Shows.invoke (shows : tracker.Shows) (ticket : Nat) (operation : Operation) :
    (tracker.invoke ticket operation).1.Shows := by
  rcases tracker.invoke_cases ticket operation with ⟨id, rfl⟩ | rfl | ⟨errands, effects, asked, -⟩
  · exact shows_track tracker id (·.turnTo id)
  · rfl
  · rw [asked]
    exact shows

theorem Shows.succeed (shows : tracker.Shows) (run : Run) (errand : Errand) :
    (tracker.succeed run errand).1.Shows := by
  cases errand with
  | loadRun | submitScore =>
    refine shows.of_eq ?_ rfl
    simp only [Tracker.succeed, update]
    split <;> rfl
  | openRun id => exact shows_track tracker id _
  | startRun => exact shows_track tracker run.id _

theorem Shows.answer (shows : tracker.Shows) (ticket : Nat) (result : Except Fault Run) :
    (tracker.answer ticket result).1.Shows := by
  cases found : tracker.errands.lookup ticket with
  | none =>
    rw [answer_of_none found]
    exact shows
  | some errand =>
    have settled : (tracker.settle ticket).Shows := shows
    cases result with
    | ok run =>
      rw [answer_ok found]
      exact settled.succeed run errand
    | error fault =>
      rw [answer_error found]
      cases errand <;> exact shows

theorem Shows.inSession (shows : tracker.Shows) {act : Session → Tracker × List Effect}
    (acts : ∀ session, tracker.session = some session → (act session).1.Shows) (number : Nat) :
    (tracker.inSession number act).1.Shows := by
  unfold Tracker.inSession
  split
  · rename_i session found
    exact acts session (current?_eq_some found).1
  · exact shows

theorem Shows.accept (shows : tracker.Shows) (session : Session) :
    (tracker.accept session).1.Shows := by
  unfold Tracker.accept
  split
  · rfl
  · exact shows

theorem Shows.refuse (shows : tracker.Shows) (session : Session) :
    (tracker.refuse session).1.Shows := by
  unfold Tracker.refuse
  split
  · rfl
  · exact shows

theorem Shows.deliver (shows : tracker.Shows) (session : Session) (event : RunEvent) :
    (tracker.deliver session event).1.Shows := by
  unfold Tracker.deliver
  split
  · exact shows.of_eq (tracker.snapshot.connection_receive event) rfl
  · exact shows

theorem Shows.finishLive (shows : tracker.Shows) (session : Session) :
    (tracker.finishLive session).1.Shows := by
  rcases tracker.finishLive_cases session with ignored | ⟨next, rfl | rfl, ended⟩
  · rw [ignored]
    exact shows
  · rw [ended]
    rfl
  · rw [ended]
    rfl

/-- A poll goes on with polls, whatever it brings, unless the run is finished. -/
theorem Shows.takePoll (shows : tracker.Shows) {session : Session}
    (present : tracker.session = some session) (result : Except Fault Run) :
    (tracker.takePoll session result).1.Shows := by
  rcases tracker.takePoll_cases session result with
    ignored | ⟨due, change, asking, keeps, taken | taken⟩
  · rw [ignored]
    exact shows
  · have polling : tracker.snapshot.connection = .polling := by
      rw [shows, present, status, asking]
    rw [taken]
    exact (keeps _).2.trans polling
  · rw [taken]
    rfl

theorem Shows.readClock (shows : tracker.Shows) (now : Nat) : (tracker.readClock now).1.Shows := by
  unfold Tracker.readClock
  split
  · rename_i session present
    split
    · rename_i due waiting
      have polling : tracker.snapshot.connection = .polling := by
        rw [shows, present, status, waiting]
      split
      · exact polling
      · exact shows
    · exact shows
  · exact shows

/-- As long as the tracker is not given up, the connection it shows is the one of its session. -/
theorem Shows.step (shows : tracker.Shows) {signal : Signal} (kept : signal ≠ .dropped) :
    (tracker.step signal).1.Shows := by
  cases signal with
  | invoked ticket operation => exact shows.invoke ticket operation
  | answered ticket result => exact shows.answer ticket result
  | listed ticket result => exact shows
  | accepted number => exact shows.inSession (fun session _ => shows.accept session) number
  | refused number => exact shows.inSession (fun session _ => shows.refuse session) number
  | delivered number event =>
    exact shows.inSession (fun session _ => shows.deliver session event) number
  | ended number => exact shows.inSession (fun session _ => shows.finishLive session) number
  | polled number result =>
    exact shows.inSession (fun session present => shows.takePoll present result) number
  | clock now => exact shows.readClock now
  | dropped => exact absurd rfl kept

theorem shows_run {token : Option String} {period : Nat} {signals : List Signal}
    (kept : .dropped ∉ signals) : ((initial token period).run signals).Shows := by
  induction signals using List.reverseRecOn with
  | nil => rfl
  | append_singleton signals signal ih =>
    rw [run_append_singleton]
    refine (ih fun member => kept (List.mem_append_left _ member)).step ?_
    rintro rfl
    simp at kept

/-- The subscriptions that some signals lead to: their sessions and their runs. -/
def subscriptions (tracker : Tracker) (signals : List Signal) : List (Nat × RunId) :=
  (tracker.performs signals).filterMap Effect.subscription?

theorem subscriptions_append_singleton (tracker : Tracker) (signals : List Signal)
    (signal : Signal) :
    tracker.subscriptions (signals ++ [signal]) = tracker.subscriptions signals ++
      ((tracker.run signals).step signal).2.filterMap Effect.subscription? := by
  simp [subscriptions, performs_append, performs]

/-- A session has been subscribed to its run. -/
theorem mem_subscriptions {token : Option String} {period : Nat} {signals : List Signal}
    {current : Session} (present : ((initial token period).run signals).session = some current) :
    (current.number, current.runId) ∈ (initial token period).subscriptions signals := by
  induction signals using List.reverseRecOn generalizing current with
  | nil => cases present
  | append_singleton signals signal ih =>
    rw [run_append_singleton] at present
    rw [subscriptions_append_singleton, List.mem_append]
    rcases session_step present with ⟨earlier, before, goesOn, -⟩ | ⟨-, -, -, asked⟩
    · left
      rw [goesOn.number, goesOn.runId]
      exact ih before
    · right
      rw [asked]
      exact .head _

/-- A subscription begins a session that waits for live updates. -/
theorem session_of_subscription {signal : Signal} {number : Nat} {id : RunId}
    (asked : (number, id) ∈ (tracker.step signal).2.filterMap Effect.subscription?) :
    (tracker.step signal).1.session = some ⟨number, id, .requesting⟩ := by
  generalize reached : tracker.step signal = result at asked ⊢
  cases reached ▸ turns_step tracker signal with
  | go same runId session quiet =>
    rw [quiet] at asked
    cases asked
  | leave runId session quiet =>
    rw [quiet] at asked
    cases asked
  | enter credential turned runId begun subscribed =>
    rw [subscribed] at asked
    obtain ⟨rfl, rfl⟩ := Prod.mk.inj (List.mem_singleton.mp asked)
    exact begun

/-- An answered subscription is not waited for any longer. -/
theorem session_ne_of_answers {signal : Signal} {current : Session}
    (present : tracker.session = some current) (requesting : current.feed = .requesting)
    (answered : signal.Answers current.number) :
    (tracker.step signal).1.session ≠ some current := by
  have found : tracker.current? current.number = some current := by simp [current?, present]
  intro same
  rcases answered with rfl | rfl
  · simp only [step, inSession, found, accept, requesting] at same
    have feed := congrArg Session.feed (Option.some.inj same)
    rw [requesting] at feed
    cases feed
  · simp only [step, inSession, found, refuse, requesting] at same
    have feed := congrArg Session.feed (Option.some.inj same)
    rw [requesting] at feed
    cases feed

/-- A session that waits for live updates has been begun just now, or it has waited before and this
was no answer. -/
theorem requesting_step {signal : Signal} {current : Session}
    (present : (tracker.step signal).1.session = some current)
    (requesting : current.feed = .requesting) :
    (current.number, current.runId) ∈ (tracker.step signal).2.filterMap Effect.subscription? ∨
      tracker.session = some current ∧ ¬ signal.Answers current.number := by
  rcases session_step present with ⟨earlier, before, goesOn, -⟩ | ⟨-, -, -, asked⟩
  · obtain rfl := goesOn.eq_of_requesting requesting
    exact .inr ⟨before, fun answered => session_ne_of_answers before requesting answered present⟩
  · left
    rw [asked]
    exact .head _

theorem session_answer_of_not_ends {ticket : Nat} {result : Except Fault Run}
    (goesOn : tracker.endsSession (.answered ticket result) = false) :
    (tracker.answer ticket result).1.session = tracker.session := by
  cases found : tracker.errands.lookup ticket with
  | none => rw [answer_of_none found]
  | some errand =>
    cases result with
    | error fault =>
      rw [answer_error found]
      cases errand <;> rfl
    | ok run =>
      rw [answer_ok found]
      cases errand with
      | loadRun | submitScore => rfl
      | openRun | startRun => simp [endsSession, found] at goesOn

theorem nextDue?_eq_some {due : Nat} : tracker.nextDue? = some due ↔
    ∃ current, tracker.session = some current ∧ current.feed = .polling (some due) := by
  unfold nextDue?
  cases tracker.session with
  | none => simp
  | some current => cases feed : current.feed <;> simp [feed]

/-- Where no poll is due the clock changes nothing but the time. -/
theorem step_clock_of_undue {now : Nat} (undue : ∀ due, tracker.nextDue? = some due → now < due) :
    tracker.step (.clock now) = ({ tracker with now }, []) := by
  simp only [step, readClock]
  split
  · rename_i session present
    split
    · rename_i due waiting
      have next := nextDue?_eq_some.mpr ⟨session, present, waiting⟩
      rw [if_neg (Nat.not_le.mpr (undue due next))]
    · rfl
  · rfl

/-- What is meant for no session leaves the present one alone, unless it ends it or makes a poll. -/
theorem session_of_unmeant {signal : Signal} (unmeant : signal.session? = none)
    (goesOn : tracker.endsSession signal = false)
    (undue : ∀ now due, signal = .clock now → tracker.nextDue? = some due → now < due) :
    (tracker.step signal).1.session = tracker.session := by
  cases signal with
  | invoked ticket operation =>
    rcases tracker.invoke_cases ticket operation with ⟨id, rfl⟩ | rfl | ⟨errands, effects, asked, -⟩
    · cases goesOn
    · cases goesOn
    · rw [step, asked]
      rfl
  | answered ticket result => exact session_answer_of_not_ends goesOn
  | listed ticket result => rfl
  | clock now => rw [step_clock_of_undue fun due => undue now due rfl]
  | dropped => cases goesOn
  | accepted | refused | delivered | ended | polled => cases unmeant

theorem session_inSession_of_ignores {act : Session → Tracker × List Effect}
    {number : Nat} (ignores : ∀ session, tracker.session = some session →
      session.number = number → act session = (tracker, [])) :
    (tracker.inSession number act).1.session = tracker.session := by
  unfold inSession
  split
  · rename_i session found
    obtain ⟨same, own⟩ := current?_eq_some found
    rw [ignores session same own]
  · rfl

/-- While live updates are asked for, only their answer and what ends the session change it. -/
theorem requesting_keeps {signal : Signal} {current : Session}
    (present : tracker.session = some current) (requesting : current.feed = .requesting)
    (unanswered : ¬ signal.Answers current.number) (goesOn : tracker.endsSession signal = false) :
    (tracker.step signal).1.session = tracker.session := by
  have own (session : Session) (same : tracker.session = some session) : session = current :=
    Option.some.inj (same.symm.trans present)
  cases signal with
  | accepted number =>
    refine session_inSession_of_ignores fun session same mine => ?_
    obtain rfl := own session same
    exact absurd (.inl (mine ▸ rfl)) unanswered
  | refused number =>
    refine session_inSession_of_ignores fun session same mine => ?_
    obtain rfl := own session same
    exact absurd (.inr (mine ▸ rfl)) unanswered
  | delivered number event =>
    refine session_inSession_of_ignores fun session same mine => ?_
    simp [deliver, own session same, requesting]
  | ended number =>
    refine session_inSession_of_ignores fun session same mine => ?_
    simp [finishLive, own session same, requesting]
  | polled number result =>
    refine session_inSession_of_ignores fun session same mine => ?_
    simp [takePoll, own session same, requesting]
  | invoked | answered | listed | clock | dropped =>
    refine session_of_unmeant rfl goesOn fun now due _ next => ?_
    simp [nextDue?, present, requesting] at next

theorem requesting_run {current : Session} {later : List Signal}
    (present : tracker.session = some current) (requesting : current.feed = .requesting)
    (known : current.number ≤ tracker.sessions)
    (unanswered : ∀ signal ∈ later, ¬ signal.Answers current.number) :
    (tracker.run later).session = some current ∨ (tracker.run later).IsOver current.number := by
  induction later generalizing tracker with
  | nil => exact .inl present
  | cons signal rest ih =>
    cases ends : tracker.endsSession signal with
    | true => exact .inr ((isOver_of_endsSession ends known).run rest)
    | false =>
      have kept := requesting_keeps present requesting (unanswered signal (.head _)) ends
      exact ih (kept.trans present) (Nat.le_trans known (tracker.step_moves signal).count_le)
        fun later member => unanswered later (.tail _ member)

/-- A subscription waits for its answer: there has been none since it was asked for, and its session
is still there. -/
structure Awaits (start : Tracker) (signals : List Signal) (number : Nat) (id : RunId) : Prop where
  asked : ∃ before signal after, signals = before ++ signal :: after ∧
    (number, id) ∈ ((start.run before).step signal).2.filterMap Effect.subscription? ∧
    ∀ later ∈ after, ¬ later.Answers number
  stands : ¬ (start.run signals).IsOver number

/-- A session that waits for live updates has asked for them and not been answered since. -/
theorem asked_of_requesting {token : Option String} {period : Nat} {signals : List Signal}
    {current : Session} (present : ((initial token period).run signals).session = some current)
    (requesting : current.feed = .requesting) :
    ∃ before signal after, signals = before ++ signal :: after ∧
      (current.number, current.runId) ∈
        (((initial token period).run before).step signal).2.filterMap Effect.subscription? ∧
      ∀ later ∈ after, ¬ later.Answers current.number := by
  induction signals using List.reverseRecOn with
  | nil => cases present
  | append_singleton signals signal ih =>
    rw [run_append_singleton] at present
    rcases requesting_step present requesting with asked | ⟨before, unanswered⟩
    · exact ⟨signals, signal, [], rfl, asked, by simp⟩
    · obtain ⟨earlier, first, after, split, asked, quiet⟩ := ih before
      refine ⟨earlier, first, after ++ [signal], by simp [split], asked, fun later member => ?_⟩
      rcases List.mem_append.mp member with old | new
      · exact quiet later old
      · rw [List.mem_singleton.mp new]
        exact unanswered

theorem not_isOver {current : Session} (present : tracker.session = some current)
    (busy : ¬ Idle current.feed) : ¬ tracker.IsOver current.number :=
  fun ended => busy (ended.2 current present rfl)

/-- Exactly the subscription of a session that waits for live updates waits for its answer. -/
theorem awaits_iff {token : Option String} {period : Nat} {signals : List Signal} {number : Nat}
    {id : RunId} : (initial token period).Awaits signals number id ↔
      ((initial token period).run signals).session = some ⟨number, id, .requesting⟩ := by
  constructor
  · rintro ⟨⟨before, signal, after, rfl, asked, unanswered⟩, stands⟩
    have begun := session_of_subscription asked
    rw [List.append_cons, run_append, run_append_singleton] at stands ⊢
    have known : number ≤ (((initial token period).run before).step signal).1.sessions := by
      have newest := (Accounted.of_initial token period (before ++ [signal])).newest
      rw [run_append_singleton] at newest
      exact Nat.le_of_eq (newest _ begun).1
    exact (requesting_run begun rfl known unanswered).resolve_right stands
  · intro present
    exact ⟨asked_of_requesting present rfl, not_isOver present (by simp [Idle])⟩

/-- A session that is not left without a next poll. -/
def HasLiveSession (tracker : Tracker) : Prop :=
  ∃ current, tracker.session = some current ∧ ¬ Idle current.feed

/-- Nothing changes the credential or the period. -/
structure Settled (tracker next : Tracker) : Prop where
  token : next.token = tracker.token
  period : next.period = tracker.period

theorem settled_track (tracker : Tracker) (id : RunId) (prepare : Snapshot → Snapshot) :
    tracker.Settled (tracker.track id prepare).1 := by
  cases credential : tracker.liveToken? with
  | none =>
    rw [track_of_none credential]
    exact ⟨rfl, rfl⟩
  | some token =>
    rw [track_of_some credential]
    exact ⟨rfl, rfl⟩

theorem settled_invoke (tracker : Tracker) (ticket : Nat) (operation : Operation) :
    tracker.Settled (tracker.invoke ticket operation).1 := by
  rcases tracker.invoke_cases ticket operation with ⟨id, rfl⟩ | rfl | ⟨errands, effects, asked, -⟩
  · exact settled_track tracker id (·.turnTo id)
  · exact ⟨rfl, rfl⟩
  · rw [asked]
    exact ⟨rfl, rfl⟩

theorem settled_answer (tracker : Tracker) (ticket : Nat) (result : Except Fault Run) :
    tracker.Settled (tracker.answer ticket result).1 := by
  cases found : tracker.errands.lookup ticket with
  | none =>
    rw [answer_of_none found]
    exact ⟨rfl, rfl⟩
  | some errand =>
    cases result with
    | error fault =>
      rw [answer_error found]
      cases errand <;> exact ⟨rfl, rfl⟩
    | ok run =>
      rw [answer_ok found]
      have kept : (tracker.settle ticket).Settled
          ((tracker.settle ticket).succeed run errand).1 := by
        cases errand with
        | loadRun | submitScore => exact ⟨rfl, rfl⟩
        | openRun id => exact settled_track (tracker.settle ticket) id _
        | startRun => exact settled_track (tracker.settle ticket) run.id _
      exact ⟨kept.token, kept.period⟩

theorem settled_inSession {act : Session → Tracker × List Effect}
    (acts : ∀ session, tracker.Settled (act session).1) (number : Nat) :
    tracker.Settled (tracker.inSession number act).1 := by
  unfold inSession
  split
  · exact acts _
  · exact ⟨rfl, rfl⟩

theorem settled_step (tracker : Tracker) (signal : Signal) :
    tracker.Settled (tracker.step signal).1 := by
  cases signal with
  | invoked ticket operation => exact settled_invoke tracker ticket operation
  | answered ticket result => exact settled_answer tracker ticket result
  | listed ticket result => exact ⟨rfl, rfl⟩
  | accepted number =>
    refine settled_inSession (fun session => ?_) number
    unfold accept
    split <;> exact ⟨rfl, rfl⟩
  | refused number =>
    refine settled_inSession (fun session => ?_) number
    unfold refuse
    split <;> exact ⟨rfl, rfl⟩
  | delivered number event =>
    refine settled_inSession (fun session => ?_) number
    unfold deliver
    split <;> exact ⟨rfl, rfl⟩
  | ended number =>
    refine settled_inSession (fun session => ?_) number
    rcases tracker.finishLive_cases session with ignored | ⟨next, rfl | rfl, ended⟩
    · rw [ignored]
      exact ⟨rfl, rfl⟩
    all_goals
      rw [ended]
      exact ⟨rfl, rfl⟩
  | polled number result =>
    refine settled_inSession (fun session => ?_) number
    rcases tracker.takePoll_cases session result with ignored | ⟨due, change, -, -, taken | taken⟩
    · rw [ignored]
      exact ⟨rfl, rfl⟩
    all_goals
      rw [taken]
      exact ⟨rfl, rfl⟩
  | clock now =>
    simp only [step, readClock]
    split
    · split
      · split <;> exact ⟨rfl, rfl⟩
      · exact ⟨rfl, rfl⟩
    · exact ⟨rfl, rfl⟩
  | dropped => exact ⟨rfl, rfl⟩

theorem settled_run (tracker : Tracker) (signals : List Signal) :
    tracker.Settled (tracker.run signals) := by
  induction signals using List.reverseRecOn with
  | nil => exact ⟨rfl, rfl⟩
  | append_singleton signals signal ih =>
    rw [run_append_singleton]
    have last := settled_step (tracker.run signals) signal
    exact ⟨last.token.trans ih.token, last.period.trans ih.period⟩

/-- With a period between polls no session is left without a next one. -/
theorem not_idle {token : Option String} {period : Nat} {signals : List Signal}
    (paced : 0 < period) {current : Session}
    (present : ((initial token period).run signals).session = some current) :
    ¬ Idle current.feed := by
  induction signals using List.reverseRecOn generalizing current with
  | nil => cases present
  | append_singleton signals signal ih =>
    rw [run_append_singleton] at present
    rcases session_step present with ⟨earlier, before, -, idle, -⟩ | ⟨-, requesting, -⟩
    · have constant : ((initial token period).run signals).period = period :=
        (settled_run (initial token period) signals).period
      intro stopped
      rcases idle stopped with already | unpaced
      · exact ih before already
      · omega
    · simp [Idle, requesting]

/-- Without a credential there is no session, no connection, and nothing happens to any source. -/
structure IsOffline (tracker : Tracker) : Prop where
  credential : tracker.liveToken? = none
  session : tracker.session = none
  connection : tracker.snapshot.connection = .disconnected

theorem IsOffline.session_step (offline : tracker.IsOffline) (signal : Signal) :
    (tracker.step signal).1.session = none := by
  refine Option.eq_none_iff_forall_ne_some.mpr fun current present => ?_
  rcases Tracker.session_step present with ⟨earlier, before, -⟩ | ⟨credential, -⟩
  · rw [offline.session] at before
    cases before
  · exact credential offline.credential

theorem IsOffline.step (offline : tracker.IsOffline) (signal : Signal) :
    (tracker.step signal).1.IsOffline := by
  have settled := settled_step tracker signal
  have session := offline.session_step signal
  refine ⟨?_, session, ?_⟩
  · rw [liveToken?, settled.token]
    exact offline.credential
  · by_cases given : signal = .dropped
    · rw [given]
      exact offline.connection
    · have shows : tracker.Shows := by rw [Shows, offline.connection, offline.session, status]
      rw [shows.step given, session, status]

theorem IsOffline.occurrences (offline : tracker.IsOffline) (signal : Signal) :
    tracker.occurrences signal = [] := by
  have moved := tracker.step_moves signal
  rw [offline.session, offline.session_step signal] at moved
  generalize tracker.occurrences signal = news at moved ⊢
  generalize (tracker.step signal).1.sessions = total at moved
  cases moved <;> rfl

theorem IsOffline.run (offline : tracker.IsOffline) (signals : List Signal) :
    (tracker.run signals).IsOffline ∧ tracker.history signals = [] := by
  induction signals generalizing tracker with
  | nil => exact ⟨offline, rfl⟩
  | cons signal rest ih =>
    obtain ⟨reached, quiet⟩ := ih (offline.step signal)
    exact ⟨reached, by rw [history, offline.occurrences, quiet, List.append_nil]⟩

/-- The connection tells the truth about the source of news. It is connected just if an accepted
channel for the tracked run is open, retrying just if a subscription for it waits for its answer,
polling just if the session has fallen back to that, and disconnected just if there is no live
session, provided that polls have a period. Without a credential it is always disconnected, and
neither subscriptions nor polls are ever made. -/
theorem connection_is_source (token : Option String) (period : Nat) (signals : List Signal) :
    let start := initial token period
    let tracker := start.run signals
    let connection := tracker.snapshot.connection
    let tracked := tracker.snapshot.runId
    (.dropped ∉ signals →
      (connection = .connected ↔ ∃ number id, openChannels (start.history signals) = [number] ∧
        (number, id) ∈ start.subscriptions signals ∧ tracked = some id) ∧
      (connection = .retrying ↔ ∃ number id, start.Awaits signals number id ∧ tracked = some id) ∧
      (connection = .polling ↔ ∃ current, tracker.session = some current ∧ Fallen current.feed ∧
        tracked = some current.runId) ∧
      (0 < period → (connection = .disconnected ↔ ¬ tracker.HasLiveSession))) ∧
    ((∀ text, token = some text → Text.isBlank text = true) →
      connection = .disconnected ∧ start.history signals = []) := by
  intro start tracker connection tracked
  have follows : tracker.Follows := follows_run token period signals
  have channels : openChannels (start.history signals) = listening tracker.session :=
    (Accounted.of_initial token period signals).channels
  refine ⟨fun kept => ?_, fun blank => ?_⟩
  · have shows : connection = status tracker.session := shows_run kept
    rw [shows]
    refine ⟨?_, ?_, ?_, fun paced => ?_⟩
    · rw [status_eq_connected, channels]
      constructor
      · rintro ⟨current, present, live⟩
        refine ⟨current.number, current.runId, ?_, mem_subscriptions present,
          follows current present⟩
        rw [present, listening_live live]
      · rintro ⟨number, id, opened, -⟩
        obtain ⟨current, present, live, -⟩ := listening_eq_singleton opened
        exact ⟨current, present, live⟩
    · rw [status_eq_retrying]
      constructor
      · rintro ⟨⟨number, id, feed⟩, present, requesting⟩
        obtain rfl : feed = .requesting := requesting
        exact ⟨number, id, awaits_iff.mpr present, follows _ present⟩
      · rintro ⟨number, id, awaited, -⟩
        exact ⟨_, awaits_iff.mp awaited, rfl⟩
    · rw [status_eq_polling]
      constructor
      · rintro ⟨current, present, fallen⟩
        exact ⟨current, present, fallen, follows current present⟩
      · rintro ⟨current, present, fallen, -⟩
        exact ⟨current, present, fallen⟩
    · rw [status_eq_disconnected]
      constructor
      · rintro none ⟨current, present, -⟩
        rw [none] at present
        cases present
      · intro ended
        refine Option.eq_none_iff_forall_ne_some.mpr fun current present => ?_
        exact ended ⟨current, present, not_idle paced present⟩
  · have credential : start.liveToken? = none := by
      simpa [start, initial, liveToken?, Option.filter_eq_none_iff] using blank
    have offline : start.IsOffline := ⟨credential, rfl, rfl⟩
    obtain ⟨reached, quiet⟩ := offline.run signals
    exact ⟨reached.connection, quiet⟩

/-- A session in all its phases: it waits, it has live updates, it polls, and it is over. With a
blank credential there is none. -/
theorem connection_in_all_phases :
    let id : RunId := ⟨List.replicate 32 0, rfl⟩
    let finished : Run := ⟨id, .finished, none, none, 4, 4, .median, [], none, none⟩
    let start := initial (some "token") 2000
    let waiting : List Signal := [.invoked 0 (.attach id)]
    let live := waiting ++ [.accepted 1]
    let polling := live ++ [.ended 1]
    let whole := polling ++ [.clock 2000, .polled 1 (.ok finished)]
    .dropped ∉ whole ∧
      (∃ number id, start.Awaits waiting number id ∧
        (start.run waiting).snapshot.runId = some id) ∧
      (∃ number id, openChannels (start.history live) = [number] ∧
        (number, id) ∈ start.subscriptions live ∧ (start.run live).snapshot.runId = some id) ∧
      (∃ current, (start.run polling).session = some current ∧ Fallen current.feed ∧
        (start.run polling).snapshot.runId = some current.runId) ∧
      ¬ (start.run whole).HasLiveSession ∧
      (initial (some " ") 2000).history whole = [] := by
  intro id finished start waiting live polling whole
  have kept : .dropped ∉ whole := by simp [whole, polling, live, waiting]
  have phases (signals : List Signal) (earlier : signals <+: whole) :=
    (connection_is_source (some "token") 2000 signals).1 fun member => kept (earlier.mem member)
  have first : waiting <+: whole := ⟨_, rfl⟩
  have second : live <+: whole := ⟨_, rfl⟩
  have third : polling <+: whole := ⟨_, rfl⟩
  have ended : ((initial (some "token") 2000).run whole).snapshot.connection = .disconnected := by
    decide
  have last := (phases whole (List.prefix_refl whole)).2.2.2 (by decide)
  refine ⟨kept, (phases waiting first).2.1.mp rfl, (phases live second).1.mp rfl,
    (phases polling third).2.2.1.mp rfl, last.mp ended, ?_⟩
  · refine ((connection_is_source (some " ") 2000 whole).2 fun text same => ?_).2
    cases same
    decide

/-- A session that is to poll without a period has stopped, and will never do anything again, but it
is still shown as polling. -/
theorem polling_shown_without_period :
    let id : RunId := ⟨List.replicate 32 0, rfl⟩
    let start := initial (some "token") 0
    let signals : List Signal := [.invoked 0 (.attach id), .refused 1]
    (start.run signals).snapshot.connection = .polling ∧ ¬ (start.run signals).HasLiveSession ∧
      ∀ later, .polled 1 ∉ start.history (signals ++ later) := by
  intro id start signals
  refine ⟨rfl, ?_, fun later => ?_⟩
  · rintro ⟨current, present, live⟩
    cases present
    exact live rfl
  · have ended : (start.run signals).IsOver 1 := by
      refine ⟨by decide, fun current present _ => ?_⟩
      cases present
      rfl
    rw [history_append]
    intro member
    rcases List.mem_append.mp member with before | after
    · revert before
      decide
    · exact ended.history later _ after rfl

end Tracker
end Cupping.Tracking

import Cupping.Proofs.Tracking.History

/-!
The end of sessions. There is no way back to live updates for a session that has lost them, and none
at all for a session that has been replaced, given up or ended.
-/

namespace Cupping.Tracking

theorem mem_closing {session : Option Session} {occurrence : Occurrence}
    (member : occurrence ∈ closing session) :
    ∃ current, session = some current ∧ current.feed = .live ∧
      occurrence = .closed current.number := by
  cases session with
  | none => simp [closing, listening] at member
  | some current =>
    by_cases live : current.feed = .live
    · exact ⟨current, rfl, live, by simpa [closing, listening_live live] using member⟩
    · simp [closing, listening_quiet live] at member

/-- Whether the feed of a session with a number, if it is the present one, is of a kind. -/
def Within (kind : Feed → Prop) (session : Option Session) (number : Nat) : Prop :=
  ∀ current, session = some current → current.number = number → kind current.feed

/-- Kinds of feeds that no move leads out of: what is over, and what has lost its live updates. -/
structure Lasting (kind : Feed → Prop) : Prop where
  unasked : ¬ kind .requesting
  closed : ¬ kind .live
  polled : ∀ due next, kind (.polling (some due)) → kind (.asking next)
  answered : ∀ next due, kind (.asking next) → kind (.polling due)

/-- Left without a next poll. -/
def Idle (feed : Feed) : Prop :=
  feed = .polling none

/-- Fallen back to polling. -/
def Fallen (feed : Feed) : Prop :=
  feed ≠ .requesting ∧ feed ≠ .live

theorem lasting_idle : Lasting Idle :=
  ⟨by simp [Idle], by simp [Idle], by simp [Idle], by simp [Idle]⟩

theorem lasting_fallen : Lasting Fallen :=
  ⟨by simp [Fallen], by simp [Fallen], by simp [Fallen], by simp [Fallen]⟩

theorem Within.of_ne {kind : Feed → Prop} {current : Session} {number : Nat}
    (different : current.number ≠ number) : Within kind (some current) number := by
  intro changed present same
  obtain rfl := Option.some.inj present
  exact absurd same different

theorem Within.of_kind {kind : Feed → Prop} {current : Session} (held : kind current.feed)
    (number : Nat) : Within kind (some current) number := by
  intro changed present same
  obtain rfl := Option.some.inj present
  exact held

theorem Within.none {kind : Feed → Prop} {number : Nat} : Within kind none number := by
  simp [Within]

/-- A session whose feed is of a lasting kind keeps to it as long as it is there. -/
theorem Move.within {kind : Feed → Prop} (lasting : Lasting kind)
    (moved : Move session count news after total) (known : number ≤ count)
    (held : Within kind session number) : number ≤ total ∧ Within kind after number := by
  cases moved with
  | stay => exact ⟨known, held⟩
  | leave => exact ⟨known, .none⟩
  | enter id => exact ⟨Nat.le_succ_of_le known, .of_ne (by simp only; omega)⟩
  | @listen current count asked =>
    have different : current.number ≠ number := fun same =>
      lasting.unasked (asked ▸ held current rfl same)
    exact ⟨known, .of_ne different⟩
  | @lose current count due live =>
    have different : current.number ≠ number := fun same =>
      lasting.closed (live ▸ held current rfl same)
    exact ⟨known, .of_ne different⟩
  | @wait current count due answered =>
    refine ⟨known, fun changed present same => ?_⟩
    obtain rfl := Option.some.inj present
    rcases answered with asked | ⟨next, asking⟩
    · exact absurd (asked ▸ held current rfl same) lasting.unasked
    · exact lasting.answered next due (asking ▸ held current rfl same)
  | @poll current count due next waiting =>
    refine ⟨known, fun changed present same => ?_⟩
    obtain rfl := Option.some.inj present
    exact lasting.polled due next (waiting ▸ held current rfl same)

/-- Nothing happens to the sources of a session that is idle or gone. -/
theorem Move.idle (moved : Move session count news after total) (known : number ≤ count)
    (idle : Within Idle session number) : ∀ occurrence ∈ news, occurrence.session ≠ number := by
  have apart (current : Session) (present : session = some current) (busy : ¬ Idle current.feed) :
      current.number ≠ number :=
    fun same => busy (idle current present same)
  have closed (occurrence : Occurrence) (member : occurrence ∈ closing session) :
      occurrence.session ≠ number := by
    obtain ⟨current, present, live, rfl⟩ := mem_closing member
    exact apart current present (by simp [Idle, live])
  intro occurrence member
  cases moved with
  | stay => simp at member
  | leave => exact closed occurrence member
  | enter id =>
    rcases List.mem_append.mp member with old | new
    · exact closed occurrence old
    · rw [List.mem_singleton.mp new, Occurrence.session]
      omega
  | @listen current count asked =>
    rw [List.mem_singleton.mp member]
    exact apart current rfl (by simp [Idle, asked])
  | @lose current count due live =>
    rw [List.mem_singleton.mp member]
    exact apart current rfl (by simp [Idle, live])
  | wait due answered => simp at member
  | @poll current count due next waiting =>
    rw [List.mem_singleton.mp member]
    exact apart current rfl (by simp [Idle, waiting])

namespace Tracker

/-- Whether a session is over: it was there, and it has been replaced, given up or ended, or it is
left without a next poll. -/
def IsOver (tracker : Tracker) (number : Nat) : Prop :=
  number ≤ tracker.sessions ∧ Within Idle tracker.session number

/-- Whether a signal replaces the session, gives it up or, by news that the run is finished, ends
it. -/
def endsSession (tracker : Tracker) : Signal → Bool
  | .invoked _ (.attach _) | .invoked _ .detach | .dropped => true
  | .answered ticket (.ok _) =>
    match tracker.errands.lookup ticket with
    | some (.openRun _) | some .startRun => true
    | _ => false
  | .ended number =>
    match (tracker.current? number).map Session.feed with
    | some .live => tracker.snapshot.isFinished
    | _ => false
  | .polled number (.ok run) =>
    match (tracker.current? number).map Session.feed with
    | some (.asking _) => run.isFinished
    | _ => false
  | _ => false

/-- Nobody takes notice of what is meant for a session that is idle or gone. -/
theorem step_eq_of_idle {tracker : Tracker} {number : Nat}
    (idle : Within Idle tracker.session number) {signal : Signal}
    (meant : signal.session? = some number) : tracker.step signal = (tracker, []) := by
  have ignored (act : Session → Tracker × List Effect)
      (ignores : ∀ session, session.feed = .polling none → act session = (tracker, [])) :
      tracker.inSession number act = (tracker, []) := by
    unfold inSession
    split
    · rename_i session found
      obtain ⟨present, same⟩ := current?_eq_some found
      exact ignores session (idle session present same)
    · rfl
  cases signal with
  | accepted session =>
    obtain rfl := Option.some.inj meant
    exact ignored _ fun session feed => by simp [accept, feed]
  | refused session =>
    obtain rfl := Option.some.inj meant
    exact ignored _ fun session feed => by simp [refuse, feed]
  | delivered session event =>
    obtain rfl := Option.some.inj meant
    exact ignored _ fun session feed => by simp [deliver, feed]
  | ended session =>
    obtain rfl := Option.some.inj meant
    exact ignored _ fun session feed => by simp [finishLive, feed]
  | polled session result =>
    obtain rfl := Option.some.inj meant
    exact ignored _ fun session feed => by simp [takePoll, feed]
  | invoked | answered | listed | clock | dropped => simp [Signal.session?] at meant

theorem IsOver.step_eq {tracker : Tracker} {number : Nat} (ceased : tracker.IsOver number)
    {signal : Signal} (meant : signal.session? = some number) :
    tracker.step signal = (tracker, []) :=
  step_eq_of_idle ceased.2 meant

/-- What no move leads out of is kept by every run. -/
theorem within_run {kind : Feed → Prop} (lasting : Lasting kind) {tracker : Tracker} {number : Nat}
    (known : number ≤ tracker.sessions) (held : Within kind tracker.session number)
    (later : List Signal) : number ≤ (tracker.run later).sessions ∧
      Within kind (tracker.run later).session number := by
  induction later generalizing tracker with
  | nil => exact ⟨known, held⟩
  | cons signal rest ih =>
    obtain ⟨known, held⟩ := (tracker.step_moves signal).within lasting known held
    exact ih known held

theorem IsOver.run {tracker : Tracker} {number : Nat} (ceased : tracker.IsOver number)
    (later : List Signal) : (tracker.run later).IsOver number :=
  within_run lasting_idle ceased.1 ceased.2 later

theorem IsOver.history {tracker : Tracker} {number : Nat} (ceased : tracker.IsOver number)
    (later : List Signal) :
    ∀ occurrence ∈ tracker.history later, occurrence.session ≠ number := by
  induction later generalizing tracker with
  | nil => simp [Tracker.history]
  | cons signal rest ih =>
    intro occurrence member
    rcases List.mem_append.mp member with now | future
    · exact (tracker.step_moves signal).idle ceased.1 ceased.2 occurrence now
    · exact ih (ceased.run [signal]) occurrence future

theorem isOver_release {tracker : Tracker} {number : Nat} (known : number ≤ tracker.sessions) :
    tracker.release.1.IsOver number :=
  ⟨known, .none⟩

theorem isOver_track {tracker : Tracker} {number : Nat} (known : number ≤ tracker.sessions)
    (id : RunId) (prepare : Snapshot → Snapshot) :
    (tracker.track id prepare).1.IsOver number := by
  cases credential : tracker.liveToken? with
  | none =>
    rw [track_of_none credential]
    exact ⟨known, .none⟩
  | some token =>
    rw [track_of_some credential]
    exact ⟨Nat.le_succ_of_le known, .of_ne (by simp only; omega)⟩

theorem isOver_finishLive {tracker : Tracker} {session : Session} {number : Nat}
    (live : session.feed = .live) (finished : tracker.snapshot.isFinished = true)
    (known : number ≤ tracker.sessions) : (tracker.finishLive session).1.IsOver number := by
  simp only [finishLive, live, finished, if_true]
  exact ⟨known, .none⟩

theorem isOver_takePoll {tracker : Tracker} {session : Session} {number next : Nat} {run : Run}
    (asking : session.feed = .asking next) (finished : run.isFinished = true)
    (known : number ≤ tracker.sessions) : (tracker.takePoll session (.ok run)).1.IsOver number := by
  simp only [takePoll, asking, finished, if_true]
  exact ⟨known, .none⟩

/-- Whatever replaces the session, gives it up or ends it leaves all sessions so far over. -/
theorem isOver_of_endsSession {tracker : Tracker} {signal : Signal} {number : Nat}
    (ends : tracker.endsSession signal = true) (known : number ≤ tracker.sessions) :
    (tracker.step signal).1.IsOver number := by
  cases signal with
  | invoked ticket operation =>
    cases operation with
    | attach id => exact isOver_track known id (·.turnTo id)
    | detach => exact isOver_release known
    | loadRun | openRun | listRuns | startRun | submitScore => simp [endsSession] at ends
  | answered ticket result =>
    cases result with
    | error fault => simp [endsSession] at ends
    | ok run =>
      cases found : tracker.errands.lookup ticket with
      | none => simp [endsSession, found] at ends
      | some errand =>
        have same : number ≤ (tracker.settle ticket).sessions := known
        simp only [step, answer_ok found]
        cases errand with
        | openRun id => exact isOver_track same id fun snapshot => (snapshot.turnTo id).store run
        | startRun => exact isOver_track same run.id _
        | loadRun | submitScore => simp [endsSession, found] at ends
  | ended session =>
    cases found : tracker.current? session with
    | none => simp [endsSession, found] at ends
    | some current =>
      simp only [step, inSession, found]
      cases feed : current.feed with
      | live => exact isOver_finishLive feed (by simpa [endsSession, found, feed] using ends) known
      | requesting | polling | asking => simp [endsSession, found, feed] at ends
  | polled session result =>
    cases result with
    | error fault => simp [endsSession] at ends
    | ok run =>
      cases found : tracker.current? session with
      | none => simp [endsSession, found] at ends
      | some current =>
        simp only [step, inSession, found]
        cases feed : current.feed with
        | asking next =>
          exact isOver_takePoll feed (by simpa [endsSession, found, feed] using ends) known
        | requesting | polling | live => simp [endsSession, found, feed] at ends
  | dropped => exact isOver_release known
  | listed | accepted | refused | delivered | clock => simp [endsSession] at ends

/-- The clock tells the user nothing; it only makes polls. -/
theorem snapshot_readClock (tracker : Tracker) (now : Nat) :
    (tracker.readClock now).1.snapshot = tracker.snapshot := by
  unfold readClock
  split
  · split
    · split <;> rfl
    · rfl
  · rfl

end Tracker
end Cupping.Tracking

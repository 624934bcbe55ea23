import Cupping.Proofs.Tracking.Ending
import Mathlib.Data.List.Induction

/-!
A tracker has one source of news at a time. Live updates, subscriptions and polls keep out of each
other's way, sessions come one after another, and a session that is over stays over.
-/

namespace Cupping.Tracking

/-- The open live updates once something more has happened. -/
def noteChannel (channels : List Nat) : Occurrence → List Nat
  | .opened session => session :: channels
  | .closed session => channels.filter (· ≠ session)
  | .subscribed _ | .polled _ => channels

/-- The sessions whose live updates are open after what has happened. -/
def openChannels (past : List Occurrence) : List Nat :=
  past.foldl noteChannel []

/-- What may happen next. Live updates are asked for before all else in a session, and at most once.
They begin at most once, and not after a poll. A subscription and a poll need all live updates to be
closed. Nothing happens to the sources of a session once a later one has begun. -/
def Allowed (past : List Occurrence) : Occurrence → Prop
  | .subscribed session =>
    openChannels past = [] ∧ ∀ earlier ∈ past, earlier.session < session
  | .opened session =>
    openChannels past = [] ∧ .subscribed session ∈ past ∧ .opened session ∉ past ∧
      .polled session ∉ past ∧ ∀ earlier ∈ past, earlier.session ≤ session
  | .closed session =>
    openChannels past = [session] ∧ ∀ earlier ∈ past, earlier.session ≤ session
  | .polled session =>
    openChannels past = [] ∧ .subscribed session ∈ past ∧
      ∀ earlier ∈ past, earlier.session ≤ session

/-- Whether everything in a history was allowed when it happened. -/
def Orderly (history : List Occurrence) : Prop :=
  ∀ before next after, history = before ++ next :: after → Allowed before next

@[simp]
theorem openChannels_append_singleton (past : List Occurrence) (next : Occurrence) :
    openChannels (past ++ [next]) = noteChannel (openChannels past) next := by
  simp [openChannels]

theorem Orderly.nil : Orderly [] := by
  intro before next after same
  simp at same

theorem Orderly.append_singleton (orderly : Orderly past) (allowed : Allowed past next) :
    Orderly (past ++ [next]) := by
  intro before other after same
  rcases List.eq_nil_or_concat after with none | ⟨front, last, rfl⟩
  · subst none
    obtain ⟨rfl, rfl⟩ := List.append_inj' same rfl |>.imp id List.singleton_inj.mp
    exact allowed
  · rw [List.concat_eq_append, ← List.cons_append, ← List.append_assoc] at same
    exact orderly before other front (List.append_inj' same rfl).1

theorem Orderly.of_append (orderly : Orderly (past ++ more)) : Orderly past := by
  intro before next after same
  exact orderly before next (after ++ more) (by simp [same])

/-- At most one channel is open. -/
theorem Orderly.length_openChannels (orderly : Orderly past) : (openChannels past).length ≤ 1 := by
  induction past using List.reverseRecOn with
  | nil => simp [openChannels]
  | append_singleton past next ih =>
    have allowed := orderly past next [] rfl
    have before := ih orderly.of_append
    rw [openChannels_append_singleton]
    cases next with
    | subscribed session => exact before
    | polled session => exact before
    | opened session => simp [noteChannel, allowed.1]
    | closed session => exact Nat.le_trans (List.length_filter_le _ _) before

/-- What the history of a tracker has to do with its session. -/
structure Accounted (past : List Occurrence) (session : Option Session) (count : Nat) : Prop where
  orderly : Orderly past
  channels : openChannels past = listening session
  bounded : ∀ earlier ∈ past, earlier.session ≤ count
  newest : ∀ current, session = some current →
    current.number = count ∧ .subscribed current.number ∈ past
  unopened : ∀ current, session = some current → current.feed = .requesting →
    .opened current.number ∉ past
  unpolled : ∀ current, session = some current → ¬ Fallen current.feed →
    .polled current.number ∉ past

namespace Accounted

theorem initial : Accounted [] none 0 :=
  ⟨.nil, rfl, by simp, by simp, by simp, by simp⟩

/-- Something that happens to the sources of the present session and that ends its request. -/
theorem note (accounted : Accounted past (some current) count) (allowed : Allowed past next)
    (own : next.session = current.number) (session : Option Session)
    (same : ∀ changed, session = some changed →
      changed.number = current.number ∧ changed.feed ≠ .requesting)
    (unpolled : ∀ changed, session = some changed → ¬ Fallen changed.feed →
      .polled current.number ∉ past ++ [next])
    (channels : openChannels (past ++ [next]) = listening session) :
    Accounted (past ++ [next]) session count := by
  obtain ⟨number, begun⟩ := accounted.newest current rfl
  refine ⟨accounted.orderly.append_singleton allowed, channels, ?_, ?_, ?_, ?_⟩
  · intro earlier member
    rcases List.mem_append.mp member with old | new
    · exact accounted.bounded earlier old
    · exact Nat.le_of_eq (by rw [List.mem_singleton.mp new, own, number])
  · intro changed present
    rw [(same changed present).1]
    exact ⟨number, List.mem_append_left _ begun⟩
  · intro changed present asked
    exact absurd asked (same changed present).2
  · intro changed present stands
    rw [(same changed present).1]
    exact unpolled changed present stands

/-- A session that falls back, or none, when nothing happens to the sources. -/
theorem keep (accounted : Accounted past (some current) count) (session : Option Session)
    (same : ∀ changed, session = some changed →
      changed.number = current.number ∧ Fallen changed.feed)
    (channels : listening (some current) = listening session) :
    Accounted past session count := by
  refine ⟨accounted.orderly, accounted.channels.trans channels, accounted.bounded, ?_, ?_, ?_⟩
  · intro changed present
    rw [(same changed present).1]
    exact accounted.newest current rfl
  · intro changed present asked
    exact absurd asked (same changed present).2.1
  · intro changed present stands
    exact absurd (same changed present).2 stands

theorem not_after (accounted : Accounted past (some current) count) :
    ∀ earlier ∈ past, earlier.session ≤ current.number := by
  rw [(accounted.newest current rfl).1]
  exact accounted.bounded

theorem leave (accounted : Accounted past session count) :
    Accounted (past ++ closing session) none count := by
  cases session with
  | none => simpa [closing, listening] using accounted
  | some current =>
    by_cases live : current.feed = .live
    · have channels := accounted.channels
      rw [listening_live live] at channels
      have allowed : Allowed past (.closed current.number) := ⟨channels, accounted.not_after⟩
      simpa [closing, listening_live live] using accounted.note allowed rfl none (by simp)
        (by simp) (by simp [noteChannel, channels, listening])
    · simpa [closing, listening_quiet live] using
        accounted.keep none (by simp) (listening_quiet live)

theorem enter (accounted : Accounted past none count) (id : RunId) :
    Accounted (past ++ [.subscribed (count + 1)]) (some ⟨count + 1, id, .requesting⟩)
      (count + 1) := by
  have allowed : Allowed past (.subscribed (count + 1)) :=
    ⟨accounted.channels, fun earlier member => Nat.lt_succ_of_le (accounted.bounded earlier member)⟩
  have fresh : ∀ earlier ∈ past, earlier.session ≠ count + 1 := fun earlier member =>
    Nat.ne_of_lt (allowed.2 earlier member)
  refine ⟨accounted.orderly.append_singleton allowed, ?_, ?_, ?_, ?_, ?_⟩
  · simpa [noteChannel, listening] using accounted.channels
  · intro earlier member
    rcases List.mem_append.mp member with old | new
    · exact Nat.le_succ_of_le (accounted.bounded earlier old)
    · exact Nat.le_of_eq (by rw [List.mem_singleton.mp new, Occurrence.session])
  · intro current present
    obtain rfl := Option.some.inj present
    simp
  · intro current present asked member
    obtain rfl := Option.some.inj present
    rcases List.mem_append.mp member with old | new
    · exact fresh _ old rfl
    · simp at new
  · intro current present stands member
    obtain rfl := Option.some.inj present
    rcases List.mem_append.mp member with old | new
    · exact fresh _ old rfl
    · simp at new

/-- A move keeps the account. -/
theorem move (accounted : Accounted past session count)
    (moved : Move session count news after total) : Accounted (past ++ news) after total := by
  cases moved with
  | stay => simpa using accounted
  | leave => exact accounted.leave
  | enter id =>
    rw [← List.append_assoc]
    exact accounted.leave.enter id
  | @listen current count asked =>
    have channels := accounted.channels
    rw [listening_quiet (by simp [asked])] at channels
    have unopened := accounted.unopened current rfl asked
    have unpolled := accounted.unpolled current rfl (by simp [Fallen, asked])
    have allowed : Allowed past (.opened current.number) :=
      ⟨channels, (accounted.newest current rfl).2, unopened, unpolled, accounted.not_after⟩
    exact accounted.note allowed rfl _ (by simp) (by simpa using fun _ => unpolled)
      (by simp [noteChannel, channels, listening])
  | @lose current count due live =>
    have channels := accounted.channels
    rw [listening_live live] at channels
    have allowed : Allowed past (.closed current.number) := ⟨channels, accounted.not_after⟩
    exact accounted.note allowed rfl _ (by simp) (by simp [Fallen])
      (by simp [noteChannel, channels, listening])
  | @wait current count due answered =>
    have quiet : current.feed ≠ .live := by
      rcases answered with asked | ⟨next, asking⟩ <;> simp [*]
    rw [List.append_nil]
    exact accounted.keep _ (by simp [Fallen]) (by simp [listening, quiet])
  | @poll current count due next waiting =>
    have channels := accounted.channels
    rw [listening_quiet (by simp [waiting])] at channels
    have allowed : Allowed past (.polled current.number) :=
      ⟨channels, (accounted.newest current rfl).2, accounted.not_after⟩
    exact accounted.note allowed rfl _ (by simp) (by simp [Fallen])
      (by simp [noteChannel, channels, listening])

/-- The history of a run accounts for the session that it leads to. -/
theorem run (tracker : Tracker) (signals : List Signal) (past : List Occurrence)
    (accounted : Accounted past tracker.session tracker.sessions) :
    Accounted (past ++ tracker.history signals) (tracker.run signals).session
      (tracker.run signals).sessions := by
  induction signals generalizing tracker past with
  | nil => simpa [Tracker.history, Tracker.run] using accounted
  | cons signal rest ih =>
    rw [Tracker.history, ← List.append_assoc]
    exact ih (tracker.step signal).1 _ (accounted.move (tracker.step_moves signal))

theorem of_initial (token : Option String) (period : Nat) (signals : List Signal) :
    Accounted ((Tracker.initial token period).history signals)
      ((Tracker.initial token period).run signals).session
      ((Tracker.initial token period).run signals).sessions := by
  simpa using run (Tracker.initial token period) signals [] initial

end Accounted

/-- Whatever happens, no two live updates are open at once, sources are used in order, and a session
that is over has no part in what happens from then on: its signals are ignored, its sources are
left alone, and the clock changes nothing that is known of the run. -/
theorem Tracker.single_source (token : Option String) (period : Nat) (signals : List Signal) :
    let tracker := (Tracker.initial token period).run signals
    let history := (Tracker.initial token period).history signals
    (∀ before, before <+: history → (openChannels before).length ≤ 1) ∧
      Orderly history ∧
      (∀ signal number, tracker.endsSession signal = true → number ≤ tracker.sessions →
        (tracker.step signal).1.IsOver number) ∧
      (∀ number, tracker.IsOver number → ∀ later,
        (tracker.run later).IsOver number ∧
          (∀ occurrence ∈ tracker.history later, occurrence.session ≠ number) ∧
          ∀ signal, signal.session? = some number →
            (tracker.run later).step signal = (tracker.run later, [])) ∧
      ∀ now, (tracker.step (.clock now)).1.snapshot = tracker.snapshot := by
  intro tracker history
  have accounted : Accounted history tracker.session tracker.sessions :=
    .of_initial token period signals
  refine ⟨?_, accounted.orderly, fun signal number => isOver_of_endsSession, ?_,
    snapshot_readClock tracker⟩
  · rintro before ⟨after, same⟩
    have orderly := accounted.orderly
    rw [← same] at orderly
    exact orderly.of_append.length_openChannels
  · intro number ceased later
    exact ⟨ceased.run later, ceased.history later, fun signal => (ceased.run later).step_eq⟩

/-- Turning to another run closes the live updates of the first before the second is asked for. -/
theorem Tracker.single_source_switch :
    let first : RunId := ⟨List.replicate 32 0, rfl⟩
    let second : RunId := ⟨List.replicate 32 1, rfl⟩
    let start := initial (some "token") 2000
    let before : List Signal := [.invoked 0 (.attach first), .accepted 1]
    let signals : List Signal :=
      before ++ [.invoked 1 (.attach second), .refused 2, .clock 2000]
    start.history signals =
        [.subscribed 1, .opened 1, .closed 1, .subscribed 2, .polled 2] ∧
      Orderly (start.history signals) ∧
      ((start.run before).step (.invoked 1 (.attach second))).1.IsOver 1 := by
  refine ⟨by decide, (single_source (some "token") 2000 _).2.1, ?_⟩
  exact (single_source (some "token") 2000 _).2.2.1 _ 1 rfl (by decide)

end Cupping.Tracking

import Cupping.Proofs.Tracking.Failure
import Cupping.Proofs.Tracking.PollSteps
import Cupping.Tracking.Coordinator

/-!
The jobs of a coordinator. However operations and jobs take their steps in turn, there is at most one
job that has not come to its end. It is that of the newest session and writes in the name of the
present generation, so nothing that a job writes is discarded; and it has been told to stop exactly
while the slot is not free, so an operation that holds the slot can go on.
-/

namespace Cupping.Tracking

namespace Tracker

/-- Whether an answer leaves the session alone: it is no success of an operation that replaces it. -/
def LeavesSession (tracker : Tracker) (ticket : Nat) (result : Except Fault Run) : Prop :=
  ∀ errand run, tracker.errands.lookup ticket = some errand → result = .ok run →
    errand = .loadRun ∨ ∃ trialNumber score, errand = .submitScore trialNumber score

theorem exists_step_session (tracker : Tracker) {session : Session}
    (present : tracker.session = some session) {signal : Signal}
    (meant : signal.session? = some session.number) :
    ∃ (snapshot : Snapshot) (feed : Option Feed), (tracker.step signal).1 =
      { tracker with snapshot, session := feed.map ({ session with feed := · }) } := by
  have found : tracker.current? session.number = some session := by
    rw [current?_of_present present, if_pos rfl]
  have kept : ∃ (snapshot : Snapshot) (feed : Option Feed),
      tracker = { tracker with snapshot, session := feed.map ({ session with feed := · }) } :=
    ⟨tracker.snapshot, some session.feed, by rw [Option.map_some, ← present]⟩
  cases signal with
  | invoked | answered | listed | clock | dropped => cases meant
  | accepted number =>
    obtain rfl := Option.some.inj meant
    simp only [step, inSession, found, accept]
    split
    · exact ⟨_, some .live, rfl⟩
    · exact kept
  | refused number =>
    obtain rfl := Option.some.inj meant
    simp only [step, inSession, found, refuse]
    split
    · exact ⟨_, some _, rfl⟩
    · exact kept
  | delivered number event =>
    obtain rfl := Option.some.inj meant
    simp only [step, inSession, found, deliver]
    split
    · exact ⟨_, some session.feed, by rw [Option.map_some, ← present]; rfl⟩
    · exact kept
  | ended number =>
    obtain rfl := Option.some.inj meant
    simp only [step, inSession, found, finishLive]
    split
    · split
      · exact ⟨_, none, rfl⟩
      · exact ⟨_, some _, rfl⟩
    · exact kept
  | polled number result =>
    obtain rfl := Option.some.inj meant
    simp only [step, inSession, found, takePoll]
    split
    · cases result with
      | error fault => exact ⟨_, some _, rfl⟩
      | ok run =>
        dsimp only
        split
        · exact ⟨_, none, rfl⟩
        · exact ⟨_, some _, rfl⟩
    · exact kept

theorem exists_step_clock (tracker : Tracker) {session : Session}
    (present : tracker.session = some session) (now : Nat) :
    ∃ feed, (tracker.step (.clock now)).1 =
      { tracker with now, session := some { session with feed } } := by
  simp only [step, readClock, present]
  split
  · split
    · exact ⟨_, rfl⟩
    · exact ⟨session.feed, rfl⟩
  · exact ⟨session.feed, rfl⟩

/-- What a session does by itself shows in the time, the snapshot and the session only. -/
theorem exists_step_own (tracker : Tracker) {session : Session}
    (present : tracker.session = some session) {signal : Signal}
    (own : signal.session? = some session.number ∨ ∃ now, signal = .clock now) :
    ∃ (now : Nat) (snapshot : Snapshot) (feed : Option Feed), (tracker.step signal).1 =
      { tracker with now, snapshot, session := feed.map ({ session with feed := · }) } := by
  rcases own with meant | ⟨now, rfl⟩
  · obtain ⟨snapshot, feed, stepped⟩ := exists_step_session tracker present meant
    exact ⟨tracker.now, snapshot, feed, stepped⟩
  · obtain ⟨feed, stepped⟩ := exists_step_clock tracker present now
    exact ⟨now, tracker.snapshot, some feed, stepped⟩

end Tracker

namespace Slot

/-- The session that a slot is about. -/
def session? : Slot → Option Nat
  | free session | held _ _ session => session
  | gone => none

def isFree : Slot → Bool
  | free _ => true
  | held .. | gone => false

end Slot

/-- The jobs there can be: none, or the one that works for the newest session. -/
inductive Staffed (generation sessions : Nat) (slot : Slot) : List Job → Prop where
  | nobody : Staffed generation sessions slot []
  | one {job : Job}
    (current : job.generation = generation)
    (newest : job.session.number = sessions)
    (placed : slot = .gone ∨ slot.session? = some sessions)
    (told : job.cancelled = !slot.isFree)
    (waits : job.begun = false → job.session.feed = .requesting) :
    Staffed generation sessions slot [job]

namespace Staffed

variable {generation sessions : Nat} {slot : Slot} {jobs : List Job} {job : Job}

theorem eq_of_mem (staffed : Staffed generation sessions slot jobs) (member : job ∈ jobs) :
    jobs = [job] := by
  cases staffed with
  | nobody => cases member
  | one => rw [List.mem_singleton.mp member]

theorem generation_eq (staffed : Staffed generation sessions slot jobs) (member : job ∈ jobs) :
    generation = job.generation := by
  cases staffed with
  | nobody => cases member
  | one current => rw [List.mem_singleton.mp member, current]

/-- A job is that of the session that the slot is about. -/
theorem session?_eq (staffed : Staffed generation sessions slot jobs) (member : job ∈ jobs)
    (there : slot ≠ .gone) : slot.session? = some job.session.number := by
  cases staffed with
  | nobody => cases member
  | one current newest placed =>
    rw [List.mem_singleton.mp member, newest]
    exact placed.resolve_left there

/-- The job in a slot that is no longer free has been told to stop. -/
theorem cancel {session : Option Nat} (staffed : Staffed generation sessions (.free session) jobs)
    {taken : Slot} (placed : taken = .gone ∨ taken.session? = session)
    (closed : taken.isFree = false) :
    Staffed generation sessions taken (jobs.map ({ · with cancelled := true })) := by
  cases staffed with
  | nobody => exact .nobody
  | one current newest there told waits =>
    have same : session = some sessions := there.resolve_left Slot.noConfusion
    exact .one current newest (placed.imp_right (·.trans same)) (by rw [closed]; rfl) waits

/-- A job that has begun goes on with whatever its session has become. -/
theorem go (staffed : Staffed generation sessions slot [job]) (begun : job.begun = true)
    (feed : Option Feed) :
    Staffed generation sessions slot
      (feed.map fun feed => { job with session := { job.session with feed } }).toList := by
  cases staffed with
  | one current newest placed told waits =>
    cases feed with
    | none => exact .nobody
    | some feed => exact .one current newest placed told fun idle => by simp [begun] at idle

end Staffed

/-- What a coordinator can do next, and what comes of it. -/
inductive Advance (coordinator : Coordinator) : Action → Coordinator × List Effect → Prop where
  | idle {action : Action} : Advance coordinator action (coordinator, [])
  /-- An operation gets in line that has nothing to ask for. -/
  | wait {ticket : Nat} {operation : Operation} {replacement : Replacement}
    (new : coordinator.isQueued ticket = false) (ready : replacement.errand? = none) :
    Advance coordinator (.signal (.invoked ticket operation))
      ({ coordinator with waiting := coordinator.waiting ++ [(ticket, replacement)] }, [])
  | ask {ticket : Nat} {operation : Operation} (fallible : operation.isFallible = true) :
    Advance coordinator (.signal (.invoked ticket operation))
      ({ coordinator with
          errands := ((coordinator.tracker none).invoke ticket operation).1.errands },
        ((coordinator.tracker none).invoke ticket operation).2)
  /-- The run to open has been fetched. -/
  | fetched {ticket : Nat} {id : RunId} {run : Run}
    (new : coordinator.isQueued ticket = false)
    (asked : coordinator.errands.lookup ticket = some (.openRun id)) :
    Advance coordinator (.signal (.answered ticket (.ok run)))
      ({ coordinator with
          snapshot := Coordinator.load run coordinator.snapshot
          waiting := coordinator.waiting ++ [(ticket, .openUp id run)] }, [])
  | started {ticket : Nat} {run : Run} (new : coordinator.isQueued ticket = false)
    (asked : coordinator.errands.lookup ticket = some .startRun) :
    Advance coordinator (.signal (.answered ticket (.ok run)))
      ({ coordinator with waiting := coordinator.waiting ++ [(ticket, .startUp run)] }, [])
  | settle {ticket : Nat} {result : Except Fault Run}
    (new : coordinator.isQueued ticket = false)
    (leaves : (coordinator.tracker none).LeavesSession ticket result) :
    Advance coordinator (.signal (.answered ticket result))
      ({ coordinator with
          snapshot := ((coordinator.tracker none).answer ticket result).1.snapshot
          errands := ((coordinator.tracker none).answer ticket result).1.errands },
        ((coordinator.tracker none).answer ticket result).2)
  | list {ticket : Nat} {result : Except Fault (List Run)} :
    Advance coordinator (.signal (.listed ticket result))
      (coordinator, [.finish ticket (.runs result)])
  /-- Time passes, and no job has begun. -/
  | pass {now : Nat} (idle : ∀ job ∈ coordinator.jobs, job.begun = false) :
    Advance coordinator (.signal (.clock now)) ({ coordinator with now }, [])
  /-- A job acts as its session does. -/
  | act {job : Job} {signal : Signal} (only : coordinator.jobs = [job])
    (begun : job.begun = true)
    (own : signal.session? = some job.session.number ∨ ∃ now, signal = .clock now) :
    Advance coordinator (.signal signal)
      ({ coordinator with
          now := ((coordinator.tracker (some job.session)).step signal).1.now
          snapshot := ((coordinator.tracker (some job.session)).step signal).1.snapshot
          jobs := (((coordinator.tracker (some job.session)).step signal).1.session.map
            fun session => { job with session }).toList },
        ((coordinator.tracker (some job.session)).step signal).2)
  | drop {session : Option Nat} (free : coordinator.slot = .free session) :
    Advance coordinator (.signal .dropped)
      ({ coordinator with
          slot := .gone
          jobs := coordinator.jobs.map ({ · with cancelled := true }) }, [])
  | hold {ticket : Nat} {replacement : Replacement} {session : Option Nat}
    (free : coordinator.slot = .free session)
    (waits : coordinator.waiting.lookup ticket = some replacement) :
    Advance coordinator (.hold ticket)
      ({ coordinator with
          slot := .held ticket replacement session
          waiting := coordinator.waiting.filter (·.1 ≠ ticket)
          jobs := coordinator.jobs.map ({ · with cancelled := true }) }, [])
  | stop {job : Job} (only : coordinator.jobs = [job]) (told : job.cancelled = true) :
    Advance coordinator (.stop job.session.number)
      ({ coordinator with jobs := [] },
        if job.session.feed = .live then [.close job.session.number job.session.runId] else [])
  | renew {ticket : Nat} {replacement : Replacement} {session : Option Nat}
    (taken : coordinator.slot = .held ticket replacement session)
    (vacant : coordinator.jobs = []) :
    Advance coordinator .renew (coordinator.replace ticket replacement)
  | begin {job : Job} (only : coordinator.jobs = [job]) (idle : job.begun = false) :
    Advance coordinator (.begin job.session.number)
      ({ coordinator with
          snapshot := { coordinator.snapshot with connection := .retrying }
          jobs := [{ job with begun := true }] },
        [.subscribe job.session.number job.session.runId job.token])

namespace Coordinator

/-- What holds of a coordinator at any time. -/
structure Sound (coordinator : Coordinator) : Prop where
  staffed :
    Staffed coordinator.generation coordinator.sessions coordinator.slot coordinator.jobs
  /-- An operation is in line once. -/
  distinct : (coordinator.queue.map Prod.fst).Nodup
  /-- An operation that had to ask for something is in line with the answer to that. -/
  answered : ∀ entry ∈ coordinator.queue, ∀ errand, entry.2.errand? = some errand →
    coordinator.errands.lookup entry.1 = some errand

variable {coordinator : Coordinator} {job : Job} {ticket : Nat} {replacement : Replacement}

theorem sound_start (token : Option String) (period : Nat) : (initial token period).Sound :=
  ⟨.nobody, .nil, by simp [initial, queue, Slot.holder?]⟩

theorem queue_of_free {session : Option Nat} (free : coordinator.slot = .free session) :
    coordinator.queue = coordinator.waiting := by
  simp [queue, free, Slot.holder?]

theorem queue_of_held {session : Option Nat}
    (taken : coordinator.slot = .held ticket replacement session) :
    coordinator.queue = (ticket, replacement) :: coordinator.waiting := by
  simp [queue, taken, Slot.holder?]

theorem mem_of_lookup (waits : coordinator.waiting.lookup ticket = some replacement) :
    (ticket, replacement) ∈ coordinator.waiting := by
  obtain ⟨before, after, split, -⟩ := List.lookup_eq_some_iff.mp waits
  simp [split]

theorem ne_of_new (new : coordinator.isQueued ticket = false) :
    ∀ entry ∈ coordinator.queue, entry.1 ≠ ticket := by
  simpa [isQueued] using new

theorem queue_line (coordinator : Coordinator) (snapshot : Snapshot)
    (entry : Nat × Replacement) :
    queue { coordinator with snapshot, waiting := coordinator.waiting ++ [entry] } =
      coordinator.queue ++ [entry] :=
  (List.append_assoc ..).symm

theorem queue_renewSlot (coordinator : Coordinator) (replacement : Replacement) :
    (coordinator.renewSlot replacement).queue = coordinator.waiting := by
  simp only [renewSlot]
  split <;> rfl

theorem errands_renewSlot (coordinator : Coordinator) (replacement : Replacement) :
    (coordinator.renewSlot replacement).errands = coordinator.errands := by
  simp only [renewSlot]
  split <;> rfl

namespace Sound

theorem find?_eq_some (sound : coordinator.Sound) {wanted : Job → Bool}
    (found : coordinator.jobs.find? wanted = some job) :
    coordinator.jobs = [job] ∧ wanted job = true :=
  ⟨sound.staffed.eq_of_mem (List.mem_of_find?_eq_some found), List.find?_some found⟩

theorem generation_eq (sound : coordinator.Sound) (only : coordinator.jobs = [job]) :
    coordinator.generation = job.generation :=
  sound.staffed.generation_eq (only ▸ List.mem_singleton_self job)

/-- Nothing that a job writes is discarded. -/
theorem updateFrom_eq (sound : coordinator.Sound) (only : coordinator.jobs = [job])
    (snapshot : Snapshot) :
    coordinator.updateFrom job.generation snapshot = { coordinator with snapshot } :=
  if_pos (sound.generation_eq only)

theorem setJob_eq (coordinator : Coordinator) (only : coordinator.jobs = [job])
    (next : Option Job) :
    coordinator.setJob job.session.number next = { coordinator with jobs := next.toList } := by
  simp [setJob, only]

theorem setJob_updateFrom (sound : coordinator.Sound) (only : coordinator.jobs = [job])
    (snapshot : Snapshot) (next : Option Job) :
    (coordinator.updateFrom job.generation snapshot).setJob job.session.number next =
      { coordinator with snapshot, jobs := next.toList } := by
  rw [sound.updateFrom_eq only snapshot]
  exact setJob_eq { coordinator with snapshot } only next

/-- An operation that takes the session out of the slot tells whatever job there is to stop. -/
theorem cancel_eq (sound : coordinator.Sound) {session : Option Nat}
    (free : coordinator.slot = .free session) (next : Coordinator)
    (same : next.jobs = coordinator.jobs) :
    next.cancel session =
      { next with jobs := coordinator.jobs.map ({ · with cancelled := true }) } := by
  unfold cancel
  rw [same]
  congr 1
  refine List.map_congr_left fun job member => if_pos ?_
  have there := sound.staffed.session?_eq member (by simp [free])
  rw [free] at there
  exact there.symm

theorem act_eq (sound : coordinator.Sound) (only : coordinator.jobs = [job]) (signal : Signal) :
    coordinator.act signal job =
      ({ coordinator with
          snapshot := ((coordinator.tracker (some job.session)).step signal).1.snapshot
          jobs := (((coordinator.tracker (some job.session)).step signal).1.session.map
            fun session => { job with session }).toList },
        ((coordinator.tracker (some job.session)).step signal).2) := by
  simp only [act, sound.setJob_updateFrom only]

theorem advance_actFor (sound : coordinator.Sound) {number : Nat} {signal : Signal}
    (meant : signal.session? = some number) :
    Advance coordinator (.signal signal) (coordinator.actFor number signal) := by
  unfold actFor
  split
  · rename_i job found
    obtain ⟨only, runs⟩ := sound.find?_eq_some found
    obtain ⟨rfl, begun⟩ : job.session.number = number ∧ job.begun = true := by simpa using runs
    have keepsTime :
        ((coordinator.tracker (some job.session)).step signal).1.now = coordinator.now := by
      obtain ⟨snapshot, feed, stepped⟩ := Tracker.exists_step_session
        (coordinator.tracker (some job.session)) rfl meant
      rw [stepped]
      rfl
    have acted := Advance.act only begun (.inl meant)
    rw [keepsTime] at acted
    rw [sound.act_eq only]
    exact acted
  · exact .idle

theorem advance_readClock (sound : coordinator.Sound) (now : Nat) :
    Advance coordinator (.signal (.clock now)) (coordinator.readClock now) := by
  have later : Sound { coordinator with now } := ⟨sound.staffed, sound.distinct, sound.answered⟩
  by_cases idle : ∀ job ∈ coordinator.jobs, job.begun = false
  · have nobody : coordinator.jobs.filter Job.begun = [] :=
      List.filter_eq_nil_iff.mpr fun job member => by simp [idle job member]
    simp only [readClock, nobody, List.foldl_nil]
    exact .pass idle
  · push Not at idle
    obtain ⟨job, member, begun⟩ := idle
    have begun : job.begun = true := by simpa using begun
    have only := sound.staffed.eq_of_mem member
    have somebody : coordinator.jobs.filter Job.begun = [job] := by simp [only, begun]
    obtain ⟨feed, stepped⟩ := Tracker.exists_step_clock
      (coordinator.tracker (some job.session)) rfl now
    have acted := Advance.act only begun (.inr ⟨now, rfl⟩)
    have keepsTime :
        ((coordinator.tracker (some job.session)).step (.clock now)).1.now = now := by
      rw [stepped]
    rw [keepsTime] at acted
    simp only [readClock, somebody, List.foldl_cons, List.foldl_nil, List.nil_append,
      later.act_eq only]
    exact acted

theorem advance_enqueue (ready : replacement.errand? = none) (operation : Operation) :
    Advance coordinator (.signal (.invoked ticket operation))
      (coordinator.enqueue ticket replacement, []) := by
  unfold enqueue
  split
  · exact .idle
  · rename_i new
    exact .wait (by simpa using new) ready

theorem advance_invoke (operation : Operation) :
    Advance coordinator (.signal (.invoked ticket operation))
      (coordinator.invoke ticket operation) := by
  cases operation with
  | attach id => exact advance_enqueue rfl (.attach id)
  | detach => exact advance_enqueue rfl .detach
  | loadRun | openRun | listRuns | startRun | submitScore => exact .ask rfl

theorem advance_answer (new : coordinator.isQueued ticket = false) (result : Except Fault Run) :
    Advance coordinator (.signal (.answered ticket result)) (coordinator.answer ticket result) := by
  unfold answer
  split
  · rename_i id run asked
    have alike : (coordinator.update (load run)).isQueued ticket = false := new
    rw [enqueue, if_neg (by simp [alike])]
    exact .fetched new asked
  · rename_i run asked
    rw [enqueue, if_neg (by simp [new])]
    exact .started new asked
  · rename_i opened started
    refine .settle new fun errand run asked accepted => ?_
    cases errand with
    | loadRun => exact .inl rfl
    | openRun id => exact (opened id run asked accepted).elim
    | startRun => exact (started run asked accepted).elim
    | submitScore trialNumber score => exact .inr ⟨trialNumber, score, rfl⟩

theorem advance_drop (sound : coordinator.Sound) :
    Advance coordinator (.signal .dropped) (coordinator.drop, []) := by
  unfold drop
  split
  · rename_i session free
    rw [sound.cancel_eq free { coordinator with slot := .gone } rfl]
    exact .drop free
  · exact .idle

theorem advance_signal (sound : coordinator.Sound) (signal : Signal) :
    Advance coordinator (.signal signal) (coordinator.signal signal) := by
  cases signal with
  | invoked ticket operation => exact advance_invoke operation
  | answered ticket result =>
    simp only [Coordinator.signal]
    split
    · exact .idle
    · rename_i new
      exact advance_answer (by simpa using new) result
  | listed => exact .list
  | accepted | refused | delivered | ended | polled => exact sound.advance_actFor rfl
  | clock now => exact sound.advance_readClock now
  | dropped => exact sound.advance_drop

theorem advance_hold (sound : coordinator.Sound) (ticket : Nat) :
    Advance coordinator (.hold ticket) (coordinator.hold ticket, []) := by
  unfold hold
  split
  · rename_i session replacement free waits
    rw [sound.cancel_eq free]
    · exact .hold free waits
    · rfl
  · exact .idle

theorem advance_stop (sound : coordinator.Sound) (number : Nat) :
    Advance coordinator (.stop number) (coordinator.stop number) := by
  unfold stop
  split
  · rename_i job found
    obtain ⟨only, wanted⟩ := sound.find?_eq_some found
    obtain ⟨rfl, told⟩ : job.session.number = number ∧ job.cancelled = true := by simpa using wanted
    rw [setJob_eq coordinator only none]
    exact .stop only told
  · exact .idle

/-- The job that an operation waits for is the only one there can be. -/
theorem advance_renew (sound : coordinator.Sound) :
    Advance coordinator .renew coordinator.renew := by
  unfold renew
  split
  · rename_i ticket replacement session taken
    split
    · exact .idle
    · rename_i vacant
      refine .renew taken (List.eq_nil_iff_forall_not_mem.mpr fun job member => vacant ?_)
      have there := sound.staffed.session?_eq member (by simp [taken])
      rw [taken] at there
      exact List.any_eq_true.mpr ⟨job, member, decide_eq_true there.symm⟩
  · exact .idle

theorem advance_begin (sound : coordinator.Sound) (number : Nat) :
    Advance coordinator (.begin number) (coordinator.begin number) := by
  unfold begin
  split
  · rename_i job found
    obtain ⟨only, wanted⟩ := sound.find?_eq_some found
    obtain ⟨rfl, idle⟩ : job.session.number = number ∧ job.begun = false := by simpa using wanted
    rw [sound.setJob_updateFrom only]
    exact .begin only idle
  · exact .idle

/-- All that a step can do is one of the ways to advance, and says all that it does. -/
theorem advance_step (sound : coordinator.Sound) (action : Action) :
    Advance coordinator action (coordinator.step action) := by
  cases action with
  | signal signal => exact sound.advance_signal signal
  | hold ticket => exact sound.advance_hold ticket
  | stop number => exact sound.advance_stop number
  | renew => exact sound.advance_renew
  | begin number => exact sound.advance_begin number

/-- Operations that are in line keep what they have asked for. -/
theorem note (sound : coordinator.Sound) (snapshot : Snapshot) {errands : List (Nat × Errand)}
    (kept : ∀ entry ∈ coordinator.queue, ∀ errand,
      coordinator.errands.lookup entry.1 = some errand → errands.lookup entry.1 = some errand) :
    Sound { coordinator with snapshot, errands } :=
  ⟨sound.staffed, sound.distinct, fun entry member errand needs =>
    kept entry member errand (sound.answered entry member errand needs)⟩

theorem employ (sound : coordinator.Sound) (now : Nat) (snapshot : Snapshot) {jobs : List Job}
    (staffed : Staffed coordinator.generation coordinator.sessions coordinator.slot jobs) :
    Sound { coordinator with now, snapshot, jobs } :=
  ⟨staffed, sound.distinct, sound.answered⟩

theorem line (sound : coordinator.Sound) (new : coordinator.isQueued ticket = false)
    (ready : ∀ errand, replacement.errand? = some errand →
      coordinator.errands.lookup ticket = some errand) (snapshot : Snapshot) :
    Sound { coordinator with
      snapshot, waiting := coordinator.waiting ++ [(ticket, replacement)] } := by
  refine ⟨sound.staffed, ?_, fun entry member => ?_⟩
  · rw [queue_line, List.map_append]
    refine List.nodup_append.mpr ⟨sound.distinct, by simp, ?_⟩
    simpa using fun other replacement => ne_of_new new (other, replacement)
  · rw [queue_line] at member
    rcases List.mem_append.mp member with old | last
    · exact sound.answered entry old
    · rw [List.mem_singleton.mp last]
      exact ready

theorem held (sound : coordinator.Sound) {session : Option Nat}
    (free : coordinator.slot = .free session)
    (waits : coordinator.waiting.lookup ticket = some replacement) :
    Sound { coordinator with
      slot := .held ticket replacement session
      waiting := coordinator.waiting.filter (·.1 ≠ ticket)
      jobs := coordinator.jobs.map ({ · with cancelled := true }) } := by
  have whole := queue_of_free free
  have staffed := sound.staffed
  rw [free] at staffed
  refine ⟨staffed.cancel (.inr rfl) rfl, ?_, fun entry member => ?_⟩
  · have others : ((coordinator.waiting.filter (·.1 ≠ ticket)).map Prod.fst).Nodup :=
      (whole ▸ sound.distinct).sublist (List.filter_sublist.map Prod.fst)
    exact List.nodup_cons.mpr ⟨by simp, others⟩
  · refine sound.answered entry (whole ▸ ?_)
    rcases List.mem_cons.mp member with rfl | other
    · exact mem_of_lookup waits
    · exact (List.mem_filter.mp other).1

theorem sound_renewSlot (vacant : coordinator.jobs = [])
    (distinct : (coordinator.waiting.map Prod.fst).Nodup)
    (answered : ∀ entry ∈ coordinator.waiting, ∀ errand, entry.2.errand? = some errand →
      coordinator.errands.lookup entry.1 = some errand) :
    (coordinator.renewSlot replacement).Sound := by
  refine ⟨?_, queue_renewSlot coordinator replacement ▸ distinct,
    queue_renewSlot coordinator replacement ▸ errands_renewSlot coordinator replacement ▸ answered⟩
  simp only [renewSlot]
  split
  · exact vacant ▸ .nobody
  · exact vacant ▸ .nobody
  · simp only [spawn, update, nextGeneration, vacant, List.nil_append]
    exact .one rfl rfl (.inr rfl) rfl fun _ => rfl

/-- The operation that held the slot is no longer in line, and its answer is used up. -/
theorem replaced (sound : coordinator.Sound) {session : Option Nat}
    (taken : coordinator.slot = .held ticket replacement session)
    (vacant : coordinator.jobs = []) : (coordinator.replace ticket replacement).1.Sound := by
  have whole := queue_of_held taken
  have distinct : ticket ∉ coordinator.waiting.map Prod.fst ∧
      (coordinator.waiting.map Prod.fst).Nodup :=
    List.nodup_cons.mp (by simpa [whole] using sound.distinct)
  have answered : ∀ entry ∈ coordinator.waiting, ∀ errand, entry.2.errand? = some errand →
      coordinator.errands.lookup entry.1 = some errand := fun entry member =>
    sound.answered entry (whole ▸ .tail _ member)
  simp only [replace]
  split
  · refine sound_renewSlot vacant distinct.2 fun entry member errand needs => ?_
    have other : entry.1 ≠ ticket := fun same => distinct.1 (same ▸ List.mem_map_of_mem member)
    rw [lookup_filter_ne other]
    exact answered entry member errand needs
  · exact sound_renewSlot vacant distinct.2 answered

theorem advance (sound : coordinator.Sound) {action : Action}
    {result : Coordinator × List Effect} (advance : Advance coordinator action result) :
    result.1.Sound := by
  cases advance with
  | idle | list => exact sound
  | wait new ready => exact sound.line new (by simp [ready]) coordinator.snapshot
  | @ask ticket operation fallible =>
    refine sound.note coordinator.snapshot fun entry member errand found => ?_
    have more := Tracker.errands_step (coordinator.tracker none) (.invoked ticket operation)
    rw [Tracker.step] at more
    have older : (coordinator.tracker none).errands.lookup entry.1 = some errand := found
    rw [more, Tracker.waits, List.lookup_append, older, Option.some_or]
  | fetched new asked => exact sound.line new (by simp [Replacement.errand?, asked]) _
  | started new asked =>
    exact sound.line new (by simp [Replacement.errand?, asked]) coordinator.snapshot
  | @settle ticket result new leaves =>
    refine sound.note _ fun entry member errand found => ?_
    have fewer := Tracker.errands_step (coordinator.tracker none) (.answered ticket result)
    rw [Tracker.step] at fewer
    rw [fewer, Tracker.waits, lookup_filter_ne (ne_of_new new entry member)]
    exact found
  | pass => exact sound.employ _ coordinator.snapshot sound.staffed
  | @act job signal only begun own =>
    obtain ⟨now, snapshot, feed, stepped⟩ := Tracker.exists_step_own
      (coordinator.tracker (some job.session)) rfl own
    rw [stepped]
    refine sound.employ now snapshot ?_
    simpa [Option.map_map, Function.comp_def] using (only ▸ sound.staffed).go begun feed
  | drop free =>
    refine ⟨(free ▸ sound.staffed).cancel (.inl rfl) rfl, ?_, ?_⟩
    · exact queue_of_free free ▸ sound.distinct
    · exact queue_of_free free ▸ sound.answered
  | hold free waits => exact sound.held free waits
  | stop => exact sound.employ coordinator.now coordinator.snapshot .nobody
  | renew taken vacant => exact sound.replaced taken vacant
  | begin only idle =>
    refine sound.employ coordinator.now _ ?_
    cases only ▸ sound.staffed with
    | one current newest placed told => exact .one current newest placed told (by simp)

end Sound

/-- The coordinator after some actions. -/
def run (coordinator : Coordinator) (actions : List Action) : Coordinator :=
  actions.foldl (fun current action => (current.step action).1) coordinator

/-- What is done during some actions, in order. -/
def performs (coordinator : Coordinator) : List Action → List Effect
  | [] => []
  | action :: rest => (coordinator.step action).2 ++ (coordinator.step action).1.performs rest

theorem Sound.run (sound : coordinator.Sound) (actions : List Action) :
    (coordinator.run actions).Sound := by
  induction actions generalizing coordinator with
  | nil => exact sound
  | cons action rest ih => exact ih (sound.advance (sound.advance_step action))

/-- There is never more than one job, and it belongs to the newest session and to the present
generation. -/
theorem one_job (token : Option String) (period : Nat) (actions : List Action) :
    let reached := (initial token period).run actions
    reached.jobs = [] ∨ ∃ job, reached.jobs = [job] ∧
      job.session.number = reached.sessions ∧ job.generation = reached.generation := by
  intro reached
  have staffed := ((sound_start token period).run actions).staffed
  generalize whole : reached.jobs = jobs at staffed ⊢
  cases staffed with
  | nobody => exact .inl rfl
  | one current newest => exact .inr ⟨_, rfl, newest, current⟩

/-- An operation that holds the slot is done once the job that it waits for has come to its end, and
nothing keeps that job from it. -/
theorem Sound.goes_on (sound : coordinator.Sound) {session : Option Nat}
    (taken : coordinator.slot = .held ticket replacement session) :
    .finish ticket replacement.outcome ∈
      coordinator.performs [.stop coordinator.sessions, .renew] := by
  have staffed := sound.staffed
  generalize whole : coordinator.jobs = jobs at staffed
  have ended : (coordinator.stop coordinator.sessions).1 = { coordinator with jobs := [] } := by
    cases staffed with
    | nobody =>
      simp only [stop, whole, List.find?_nil]
      rw [← whole]
    | @one job current newest placed told =>
      have found : job.cancelled = true := by rw [told, taken]; rfl
      simp [stop, whole, newest, found, setJob]
  simp [performs, step, ended, renew, taken, replace]

end Coordinator
end Cupping.Tracking

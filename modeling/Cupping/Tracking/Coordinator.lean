import Cupping.Tracking.Tracker

/-!
Tracking in the smaller steps in which sessions are replaced. Each session is the job of a task of
its own. An operation that replaces it holds the slot of the session by itself, tells the job to
stop and waits for its end; only then it begins a new generation, prepares the snapshot and puts
a new job in the slot. Jobs write in the name of the generation they began in, and what they write
after it is discarded. Meanwhile everything else goes on.

An operation that has begun is carried to its end.
-/

namespace Cupping.Tracking

/-- The job of a session. -/
structure Job where
  session : Session
  token : String
  /-- The generation in whose name it writes. -/
  generation : Nat
  /-- Whether it has taken its first step. -/
  begun : Bool
  /-- Whether it has been told to stop. -/
  cancelled : Bool
deriving DecidableEq

/-- How an operation replaces the session. -/
inductive Replacement where
  | turn (id : RunId)
  /-- A run has been fetched to be opened. -/
  | openUp (id : RunId) (run : Run)
  /-- A run has been started. -/
  | startUp (run : Run)
  | leave
deriving DecidableEq

namespace Replacement

/-- The run of the new session, if there is to be one. -/
def runId? : Replacement → Option RunId
  | turn id | openUp id _ => some id
  | startUp run => some run.id
  | leave => none

def prepare : Replacement → Snapshot → Snapshot
  | turn id, snapshot => snapshot.turnTo id
  | openUp id run, snapshot => (snapshot.turnTo id).store run
  | startUp run, _ =>
    ((Snapshot.fresh (some run.id)).log ("Run started: " ++ run.id.write)).store run
  | leave, _ => .fresh none

def outcome : Replacement → Outcome
  | openUp _ run | startUp run => .run (.ok run)
  | turn _ | leave => .done

/-- What the operation has been waiting for, if it had to ask for something first. -/
def errand? : Replacement → Option Errand
  | openUp id _ => some (.openRun id)
  | startUp _ => some .startRun
  | turn _ | leave => none

end Replacement

/-- The slot of the session. One operation at a time can hold it. -/
inductive Slot where
  /-- Nobody holds it. The number is that of the session that was put there last. -/
  | free (session : Option Nat)
  /-- An operation holds it and waits for the end of the session that it has taken out. -/
  | held (ticket : Nat) (replacement : Replacement) (session : Option Nat)
  /-- The slot is given up, and its session with it. -/
  | gone
deriving DecidableEq

/-- The operation that holds a slot, with how it replaces the session. -/
def Slot.holder? : Slot → Option (Nat × Replacement)
  | held ticket replacement _ => some (ticket, replacement)
  | free _ | gone => none

/-- What happens next. -/
inductive Action where
  | signal (signal : Signal)
  /-- An operation takes hold of the slot. -/
  | hold (ticket : Nat)
  /-- A job that has been told to stop comes to its end. -/
  | stop (session : Nat)
  /-- The operation that holds the slot goes on. -/
  | renew
  /-- A job takes its first step. -/
  | begin (session : Nat)

/-- The state of tracking, with what belongs to the replacement of sessions. -/
structure Coordinator where
  token : Option String
  period : Nat
  now : Nat
  snapshot : Snapshot
  generation : Nat
  slot : Slot
  /-- The operations that wait for the slot. -/
  waiting : List (Nat × Replacement)
  /-- The jobs that have not come to their end. -/
  jobs : List Job
  /-- How many sessions there have been. -/
  sessions : Nat
  errands : List (Nat × Errand)

namespace Coordinator

def initial (token : Option String) (period : Nat) : Coordinator :=
  ⟨token, period, 0, .fresh none, 0, .free none, [], [], 0, []⟩

/-- The tracker that an operation or a job finds: all that is shared, and the session of the job. -/
def tracker (coordinator : Coordinator) (session : Option Session) : Tracker :=
  ⟨coordinator.token, coordinator.period, coordinator.now, coordinator.snapshot, session,
    coordinator.sessions, coordinator.errands⟩

/-- Writes in the name of an operation. -/
def update (coordinator : Coordinator) (change : Snapshot → Snapshot) : Coordinator :=
  { coordinator with snapshot := change coordinator.snapshot }

/-- Writes in the name of a generation, unless it is over. -/
def updateFrom (coordinator : Coordinator) (generation : Nat) (snapshot : Snapshot) :
    Coordinator :=
  if coordinator.generation = generation then { coordinator with snapshot } else coordinator

/-- What becomes of the job of a session; without a job it has come to its end. -/
def setJob (coordinator : Coordinator) (session : Nat) (job : Option Job) : Coordinator :=
  { coordinator with
    jobs := coordinator.jobs.flatMap fun other =>
      if other.session.number = session then job.toList else [other] }

/-- Tells the job of a session to stop. -/
def cancel (coordinator : Coordinator) (session : Option Nat) : Coordinator :=
  { coordinator with
    jobs := coordinator.jobs.map fun job =>
      if some job.session.number = session then { job with cancelled := true } else job }

/-- Lets a job act on a signal as the session does, with what it writes in the name of its
generation. -/
def act (coordinator : Coordinator) (signal : Signal) (job : Job) : Coordinator × List Effect :=
  let (next, effects) := (coordinator.tracker (some job.session)).step signal
  ((coordinator.updateFrom job.generation next.snapshot).setJob job.session.number
      (next.session.map fun session => { job with session }),
    effects)

/-- The job of a session, if it has begun. -/
def running? (coordinator : Coordinator) (session : Nat) : Option Job :=
  coordinator.jobs.find? fun job => job.session.number = session && job.begun

/-- Lets the job of a session act on a signal, if it runs. -/
def actFor (coordinator : Coordinator) (session : Nat) (signal : Signal) :
    Coordinator × List Effect :=
  match coordinator.running? session with
  | some job => coordinator.act signal job
  | none => (coordinator, [])

/-- The operations that hold the slot or wait for it. -/
def queue (coordinator : Coordinator) : List (Nat × Replacement) :=
  coordinator.slot.holder?.toList ++ coordinator.waiting

def isQueued (coordinator : Coordinator) (ticket : Nat) : Bool :=
  coordinator.queue.any (·.1 = ticket)

/-- Lets an operation wait for the slot. -/
def enqueue (coordinator : Coordinator) (ticket : Nat) (replacement : Replacement) :
    Coordinator :=
  if coordinator.isQueued ticket then coordinator
  else { coordinator with waiting := coordinator.waiting ++ [(ticket, replacement)] }

/-- Takes up an operation. One that replaces the session waits for the slot first. -/
def invoke (coordinator : Coordinator) (ticket : Nat) : Operation → Coordinator × List Effect
  | .attach id => (coordinator.enqueue ticket (.turn id), [])
  | .detach => (coordinator.enqueue ticket .leave, [])
  | operation =>
    let (next, effects) := (coordinator.tracker none).invoke ticket operation
    ({ coordinator with errands := next.errands }, effects)

/-- What fetching a run does by itself: it is stored if it is the one that is tracked. -/
def load (run : Run) (snapshot : Snapshot) : Snapshot :=
  if snapshot.runId = some run.id then snapshot.store run else snapshot

/-- An operation is answered. A run that has been opened or started waits for the slot. -/
def answer (coordinator : Coordinator) (ticket : Nat) (result : Except Fault Run) :
    Coordinator × List Effect :=
  match coordinator.errands.lookup ticket, result with
  | some (.openRun id), .ok run =>
    ((coordinator.update (load run)).enqueue ticket (.openUp id run), [])
  | some .startRun, .ok run => (coordinator.enqueue ticket (.startUp run), [])
  | _, result =>
    let (next, effects) := (coordinator.tracker none).answer ticket result
    ({ coordinator with snapshot := next.snapshot, errands := next.errands }, effects)

/-- The clock reads a time, for all jobs that run. -/
def readClock (coordinator : Coordinator) (now : Nat) : Coordinator × List Effect :=
  (coordinator.jobs.filter Job.begun).foldl
    (fun (current, effects) job =>
      let (next, more) := current.act (.clock now) job
      (next, effects ++ more))
    ({ coordinator with now }, [])

/-- The slot is given up, and the session that is in it told to stop. -/
def drop (coordinator : Coordinator) : Coordinator :=
  match coordinator.slot with
  | .free session => { coordinator with slot := .gone }.cancel session
  | _ => coordinator

def signal (coordinator : Coordinator) : Signal → Coordinator × List Effect
  | .invoked ticket operation => coordinator.invoke ticket operation
  | .answered ticket result =>
    if coordinator.isQueued ticket then (coordinator, []) else coordinator.answer ticket result
  | .listed ticket result => (coordinator, [.finish ticket (.runs result)])
  | .accepted session => coordinator.actFor session (.accepted session)
  | .refused session => coordinator.actFor session (.refused session)
  | .delivered session event => coordinator.actFor session (.delivered session event)
  | .ended session => coordinator.actFor session (.ended session)
  | .polled session result => coordinator.actFor session (.polled session result)
  | .clock now => coordinator.readClock now
  | .dropped => (coordinator.drop, [])

/-- An operation that waits takes hold of the slot, if it is free, and tells the session in it to
stop. -/
def hold (coordinator : Coordinator) (ticket : Nat) : Coordinator :=
  match coordinator.slot, coordinator.waiting.lookup ticket with
  | .free session, some replacement =>
    { coordinator with
      slot := .held ticket replacement session
      waiting := coordinator.waiting.filter (·.1 ≠ ticket) }.cancel session
  | _, _ => coordinator

/-- A job that has been told to stop comes to its end, and its live updates are closed. -/
def stop (coordinator : Coordinator) (session : Nat) : Coordinator × List Effect :=
  match coordinator.jobs.find? fun job => job.session.number = session && job.cancelled with
  | some job =>
    (coordinator.setJob session none,
      if job.session.feed = .live then [.close session job.session.runId] else [])
  | none => (coordinator, [])

/-- Begins a new generation with the snapshot as a replacement prepares it. -/
def nextGeneration (coordinator : Coordinator) (replacement : Replacement) : Coordinator :=
  { coordinator.update replacement.prepare with generation := coordinator.generation + 1 }

/-- Puts the job of a new session in the slot. -/
def spawn (coordinator : Coordinator) (id : RunId) (token : String) : Coordinator :=
  let number := coordinator.sessions + 1
  { coordinator with
    slot := .free (some number)
    jobs := coordinator.jobs ++
      [⟨⟨number, id, .requesting⟩, token, coordinator.generation, false, false⟩]
    sessions := number }

/-- Gives the slot back, with a new session in it if there is to be one. Without a credential there
is none. -/
def renewSlot (coordinator : Coordinator) (replacement : Replacement) : Coordinator :=
  let emptied := { coordinator.nextGeneration replacement with slot := .free none }
  match replacement.runId?, coordinator.token.filter (!Text.isBlank ·) with
  | none, _ => emptied
  | some _, none => emptied.update fun snapshot =>
    { snapshot with connection := .disconnected }.log "Live updates disabled: no session token."
  | some id, some token =>
    (emptied.update ({ · with connection := .disconnected })).spawn id token

/-- Replaces the session for an operation, and ends the operation. -/
def replace (coordinator : Coordinator) (ticket : Nat) (replacement : Replacement) :
    Coordinator × List Effect :=
  let settled :=
    if replacement.errand?.isSome then
      { coordinator with errands := coordinator.errands.filter (·.1 ≠ ticket) }
    else coordinator
  (settled.renewSlot replacement, [.finish ticket replacement.outcome])

/-- The operation that holds the slot goes on once the session it waits for has come to its end. -/
def renew (coordinator : Coordinator) : Coordinator × List Effect :=
  match coordinator.slot with
  | .held ticket replacement session =>
    if coordinator.jobs.any (some ·.session.number = session) then (coordinator, [])
    else coordinator.replace ticket replacement
  | _ => (coordinator, [])

/-- A job takes its first step: it asks for live updates. -/
def begin (coordinator : Coordinator) (session : Nat) : Coordinator × List Effect :=
  match coordinator.jobs.find? fun job => job.session.number = session && !job.begun with
  | some job =>
    ((coordinator.updateFrom job.generation
        { coordinator.snapshot with connection := .retrying }).setJob session
          (some { job with begun := true }),
      [.subscribe session job.session.runId job.token])
  | none => (coordinator, [])

def step (coordinator : Coordinator) : Action → Coordinator × List Effect
  | .signal signal => coordinator.signal signal
  | .hold ticket => (coordinator.hold ticket, [])
  | .stop session => coordinator.stop session
  | .renew => coordinator.renew
  | .begin session => coordinator.begin session

end Coordinator
end Cupping.Tracking

import Cupping.Request
import Cupping.Tracking.Snapshot

/-!
Tracking of one run at a time, as a transition system. A session has one source of news: live
updates while there are any, then polling. Signals come in from the user, the service and the
clock; effects go out. Each session has a number, so that a signal meant for an earlier session
is recognised and ignored.
-/

namespace Cupping.Tracking

/-- The source of news of a session. -/
inductive Feed where
  /-- Live updates are asked for. -/
  | requesting
  /-- Live updates arrive. -/
  | live
  /-- The run is asked for when the clock reaches a time; a period of zero sets none. -/
  | polling (due : Option Nat)
  /-- The run has been asked for; the time is that of the next poll. -/
  | asking (next : Nat)
deriving DecidableEq, Repr

/-- The tracking of one run. -/
structure Session where
  number : Nat
  runId : RunId
  feed : Feed
deriving DecidableEq

/-- What a user can ask of the tracker. -/
inductive Operation where
  | attach (id : RunId)
  | detach
  | loadRun (id : RunId)
  | openRun (id : RunId)
  | listRuns
  | startRun (request : StartRequest)
  | submitScore (score : Float)
deriving DecidableEq

/-- What the service is asked for. -/
inductive Call where
  | getRun (id : RunId)
  | listRuns
  | startRun (request : StartRequest)
  | submitScore (id : RunId) (request : ScoreRequest)
deriving DecidableEq

/-- An operation whose answer is still to come. -/
inductive Errand where
  | loadRun
  | openRun (id : RunId)
  | startRun
  | submitScore (trialNumber : UInt32) (score : Float)
deriving DecidableEq

/-- What an operation has come to. -/
inductive Outcome where
  | done
  | run (result : Except Fault Run)
  | runs (result : Except Fault (List Run))

/-- What happens to the tracker. Operations have tickets by which their answers are told apart. -/
inductive Signal where
  | invoked (ticket : Nat) (operation : Operation)
  | answered (ticket : Nat) (result : Except Fault Run)
  | listed (ticket : Nat) (result : Except Fault (List Run))
  | accepted (session : Nat)
  | refused (session : Nat)
  | delivered (session : Nat) (event : RunEvent)
  /-- Live updates ended or broke. -/
  | ended (session : Nat)
  | polled (session : Nat) (result : Except Fault Run)
  | clock (now : Nat)
  /-- The tracker is given up. -/
  | dropped

/-- What the tracker does. -/
inductive Effect where
  | ask (ticket : Nat) (call : Call)
  | subscribe (session : Nat) (id : RunId) (token : String)
  | close (session : Nat) (id : RunId)
  | poll (session : Nat) (id : RunId)
  | finish (ticket : Nat) (outcome : Outcome)

/-- The state of tracking. -/
structure Tracker where
  /-- The credential for live updates. -/
  token : Option String
  /-- The time between polls, in milliseconds. -/
  period : Nat
  now : Nat
  snapshot : Snapshot
  session : Option Session
  /-- How many sessions there have been. -/
  sessions : Nat
  errands : List (Nat × Errand)

namespace Tracker

def initial (token : Option String) (period : Nat) : Tracker :=
  ⟨token, period, 0, .fresh none, none, 0, []⟩

/-- The credential, unless it is blank. -/
def liveToken? (tracker : Tracker) : Option String :=
  tracker.token.filter (!Text.isBlank ·)

/-- Ends the session; live updates are closed. -/
def release (tracker : Tracker) : Tracker × List Effect :=
  ({ tracker with session := none },
    match tracker.session with
    | some session =>
      if session.feed = .live then [.close session.number session.runId] else []
    | none => [])

/-- Replaces the session by one for a run, with a snapshot made from the present one. Without a
credential there is no session. -/
def track (tracker : Tracker) (id : RunId) (prepare : Snapshot → Snapshot) :
    Tracker × List Effect :=
  let (released, effects) := tracker.release
  let prepared := prepare released.snapshot
  match tracker.liveToken? with
  | none =>
    ({ released with
        snapshot := { prepared with connection := .disconnected }.log
          "Live updates disabled: no session token." },
      effects)
  | some token =>
    let number := released.sessions + 1
    ({ released with
        snapshot := { prepared with connection := .retrying }
        session := some ⟨number, id, .requesting⟩
        sessions := number },
      effects ++ [.subscribe number id token])

def detach (tracker : Tracker) : Tracker × List Effect :=
  let (released, effects) := tracker.release
  ({ released with snapshot := .fresh none }, effects)

def update (tracker : Tracker) (change : Snapshot → Snapshot) : Tracker :=
  { tracker with snapshot := change tracker.snapshot }

def ask (tracker : Tracker) (ticket : Nat) (errand : Errand) (call : Call) :
    Tracker × List Effect :=
  ({ tracker with errands := tracker.errands ++ [(ticket, errand)] }, [.ask ticket call])

/-- The failure to score when nothing needs a score. -/
def nothingAwaited : Fault :=
  .input "No trial is waiting for a score."

/-- Takes up an operation. What can be rejected at once is. -/
def invoke (tracker : Tracker) (ticket : Nat) : Operation → Tracker × List Effect
  | .attach id =>
    let (next, effects) := tracker.track id (·.turnTo id)
    (next, effects ++ [.finish ticket .done])
  | .detach =>
    let (next, effects) := tracker.detach
    (next, effects ++ [.finish ticket .done])
  | .loadRun id => tracker.ask ticket .loadRun (.getRun id)
  | .openRun id => tracker.ask ticket (.openRun id) (.getRun id)
  | .listRuns => (tracker, [.ask ticket .listRuns])
  | .startRun request =>
    match StartRequest.make request.method request.trials request.persons with
    | .error fault => (tracker, [.finish ticket (.run (.error fault))])
    | .ok request => tracker.ask ticket .startRun (.startRun request)
  | .submitScore score =>
    match tracker.snapshot.awaiting? with
    | none => (tracker, [.finish ticket (.run (.error nothingAwaited))])
    | some (run, trial) =>
      match ScoreRequest.make trial.id score with
      | .error fault => (tracker, [.finish ticket (.run (.error fault))])
      | .ok request =>
        tracker.ask ticket (.submitScore trial.number score) (.submitScore run.id request)

def succeed (tracker : Tracker) (run : Run) : Errand → Tracker × List Effect
  | .loadRun =>
    (tracker.update fun snapshot =>
      if snapshot.runId = some run.id then snapshot.store run else snapshot, [])
  | .openRun id => tracker.track id fun snapshot => (snapshot.turnTo id).store run
  | .startRun =>
    tracker.track run.id fun _ =>
      ((Snapshot.fresh (some run.id)).log ("Run started: " ++ run.id.write)).store run
  | .submitScore trialNumber score =>
    (tracker.update fun snapshot =>
      if snapshot.runId = some run.id then
        ((snapshot.addScore run.trialCount score).log
          ("Score submitted for trial " ++ toString trialNumber)).store run
      else snapshot, [])

def fail (tracker : Tracker) (fault : Fault) : Errand → Tracker
  | .loadRun | .openRun _ => tracker.update (·.fail fault)
  | .startRun => tracker.update (·.failAloud "Run start failed" fault)
  | .submitScore .. => tracker.update (·.failAloud "Score submission failed" fault)

def answer (tracker : Tracker) (ticket : Nat) (result : Except Fault Run) :
    Tracker × List Effect :=
  match tracker.errands.lookup ticket with
  | none => (tracker, [])
  | some errand =>
    let waiting := { tracker with errands := tracker.errands.filter (·.1 ≠ ticket) }
    let (next, effects) := match result with
      | .ok run => waiting.succeed run errand
      | .error fault => (waiting.fail fault errand, [])
    (next, effects ++ [.finish ticket (.run result)])

/-- The session, if it has a number. -/
def current? (tracker : Tracker) (number : Nat) : Option Session :=
  tracker.session.filter (·.number = number)

def setFeed (tracker : Tracker) (session : Session) (feed : Feed) : Tracker :=
  { tracker with session := some { session with feed } }

/-- A period as people read it: whole seconds, or a tenth of a second. -/
def describePeriod (period : Nat) : String :=
  if period % 1000 = 0 then toString (period / 1000) ++ "s"
  else
    let seconds := Float.ofNat (period / 1000)
      + Float.ofNat (period % 1000 * 1000000) / Float.ofNat 1000000000
    Decimal.fixed 1 seconds ++ "s"

/-- Falls back to polling; the first poll comes one period later. -/
def startPolling (tracker : Tracker) (session : Session) : Tracker :=
  let due := if tracker.period = 0 then none else some (tracker.now + tracker.period)
  (tracker.setFeed session (.polling due)).update fun snapshot =>
    { snapshot with connection := .polling }.log
      ("Live updates unavailable, polling every " ++ describePeriod tracker.period ++ ".")

/-- Ends a session because its run is finished. -/
def conclude (tracker : Tracker) : Tracker :=
  { tracker with session := none }.update ({ · with connection := .disconnected })

def accept (tracker : Tracker) (session : Session) : Tracker × List Effect :=
  match session.feed with
  | .requesting =>
    ((tracker.setFeed session .live).update fun snapshot =>
      { snapshot with connection := .connected }.log "Live updates connected.", [])
  | _ => (tracker, [])

def refuse (tracker : Tracker) (session : Session) : Tracker × List Effect :=
  match session.feed with
  | .requesting => (tracker.startPolling session, [])
  | _ => (tracker, [])

def deliver (tracker : Tracker) (session : Session) (event : RunEvent) : Tracker × List Effect :=
  match session.feed with
  | .live => (tracker.update (·.receive event), [])
  | _ => (tracker, [])

/-- Live updates are over. If the run is finished, so is the session. -/
def finishLive (tracker : Tracker) (session : Session) : Tracker × List Effect :=
  match session.feed with
  | .live =>
    (if tracker.snapshot.isFinished then tracker.conclude else tracker.startPolling session,
      [.close session.number session.runId])
  | _ => (tracker, [])

/-- A poll is answered. A finished run ends the session. -/
def takePoll (tracker : Tracker) (session : Session) (result : Except Fault Run) :
    Tracker × List Effect :=
  match session.feed with
  | .asking next =>
    (match result with
      | .error fault => (tracker.setFeed session (.polling (some next))).update (·.fail fault)
      | .ok run =>
        if run.isFinished then
          (tracker.update (·.store run)).conclude.update (·.log "Run finished.")
        else (tracker.setFeed session (.polling (some next))).update (·.store run), [])
  | _ => (tracker, [])

/-- How late a poll may come without moving the ones after it, in milliseconds. -/
def tolerance : Nat := 5

/-- The time of the poll after one that was due: a period later, counted from the present when the
poll is late. -/
def nextPoll (period due now : Nat) : Nat :=
  if due + tolerance < now then now + period else due + period

/-- The clock reads a time. A poll that is due is made. -/
def readClock (tracker : Tracker) (now : Nat) : Tracker × List Effect :=
  let moved := { tracker with now }
  match tracker.session with
  | some session =>
    match session.feed with
    | .polling (some due) =>
      if due ≤ now then
        (moved.setFeed session (.asking (nextPoll tracker.period due now)),
          [.poll session.number session.runId])
      else (moved, [])
    | _ => (moved, [])
  | none => (moved, [])

def nextDue? (tracker : Tracker) : Option Nat :=
  tracker.session.bind fun session =>
    match session.feed with
    | .polling due => due
    | _ => none

/-- Lets the session with a number act, if it is still there. -/
def inSession (tracker : Tracker) (number : Nat)
    (act : Session → Tracker × List Effect) : Tracker × List Effect :=
  match tracker.current? number with
  | some session => act session
  | none => (tracker, [])

def step (tracker : Tracker) : Signal → Tracker × List Effect
  | .invoked ticket operation => tracker.invoke ticket operation
  | .answered ticket result => tracker.answer ticket result
  | .listed ticket result => (tracker, [.finish ticket (.runs result)])
  | .accepted number => tracker.inSession number tracker.accept
  | .refused number => tracker.inSession number tracker.refuse
  | .delivered number event => tracker.inSession number (tracker.deliver · event)
  | .ended number => tracker.inSession number tracker.finishLive
  | .polled number result => tracker.inSession number (tracker.takePoll · result)
  | .clock now => tracker.readClock now
  | .dropped => tracker.release

end Tracker
end Cupping.Tracking

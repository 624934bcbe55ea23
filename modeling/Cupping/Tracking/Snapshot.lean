import Cupping.Fault
import Cupping.Run
import Cupping.Tracking.Activity

/-!
What is known of the tracked run: the run itself, its scores, where news come from, and what has
been going on.
-/

namespace Cupping.Tracking

/-- Where news of the tracked run come from. -/
inductive Connection where
  | disconnected
  /-- Live updates are asked for. -/
  | retrying
  /-- Live updates arrive. -/
  | connected
  /-- The run is asked for at intervals. -/
  | polling
deriving DecidableEq, Repr

def Connection.name : Connection → String
  | disconnected => "disconnected"
  | retrying => "retrying"
  | connected => "connected"
  | polling => "polling"

/-- The score of one trial. -/
structure ScorePoint where
  trial : UInt32
  score : Float
deriving DecidableEq, Repr

/-- What is known of the tracked run. -/
structure Snapshot where
  /-- The run that is tracked, known before the run itself is. -/
  runId : Option RunId
  run : Option Run
  /-- In the order of arrival. -/
  scores : List ScorePoint
  connection : Connection
  activity : Activity
  /-- Whether an event has arrived. -/
  eventSeen : Bool
  lastError : Option String
deriving DecidableEq

namespace Snapshot

def fresh (runId : Option RunId) : Snapshot :=
  ⟨runId, none, [], .disconnected, .empty, false, none⟩

def log (snapshot : Snapshot) (message : String) : Snapshot :=
  { snapshot with activity := snapshot.activity.push message }

def turnTo (snapshot : Snapshot) (id : RunId) : Snapshot :=
  if snapshot.runId = some id then snapshot else fresh (some id)

def store (snapshot : Snapshot) (run : Run) : Snapshot :=
  { snapshot with run := some run }

def fail (snapshot : Snapshot) (fault : Fault) : Snapshot :=
  { snapshot with lastError := some fault.brief }

def failAloud (snapshot : Snapshot) (what : String) (fault : Fault) : Snapshot :=
  (snapshot.fail fault).log (what ++ ": " ++ fault.brief)

def addScore (snapshot : Snapshot) (trial : UInt32) (score : Float) : Snapshot :=
  { snapshot with scores := snapshot.scores ++ [⟨trial, score⟩] }

/-- Takes in an event. A run that is not known yet stays unknown. -/
def receive (snapshot : Snapshot) (event : RunEvent) : Snapshot :=
  let run := snapshot.run.map fun run => run.after event
  let noted := { snapshot with eventSeen := true, run }.log
    ("Event: trial=" ++ toString event.trialNumber ++ ", status=" ++ event.status.name)
  match event.lastScore with
  | none => noted
  | some score => noted.addScore event.trialNumber score

def isFinished (snapshot : Snapshot) : Bool :=
  snapshot.run.any Run.isFinished

/-- The trial of the tracked run that needs a score, with the run it belongs to. -/
def awaiting? (snapshot : Snapshot) : Option (Run × RunTrial) :=
  snapshot.run.bind fun run => run.awaiting?.map (run, ·)

end Snapshot
end Cupping.Tracking

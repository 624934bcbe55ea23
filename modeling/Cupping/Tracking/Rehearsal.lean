import Cupping.Text.Quoted
import Cupping.Tracking.Tracker

/-!
Rehearsals: a tracker against a service whose answers are scripted, on a clock that moves only when
told to. Whatever can happen without the clock happens at once. An answer can be held back by a
gate until the gate is opened, which it stays.
-/

namespace Cupping.Tracking

/-- A scripted answer. -/
structure Scripted (α : Type) where
  result : Except Fault α
  gate : Option String

/-- What a subscription leads to. Without a refusal, events arrive and then live updates may end. -/
structure ChannelScript where
  gate : Option String
  refused : Bool
  events : List RunEvent
  ends : Bool

/-- What reaches the service, or what it does to a subscription. -/
inductive Contact where
  | called (call : Call)
  | subscribed (id : RunId) (token : String)
  | opened (id : RunId)
  | closed (id : RunId)

/-- An answer that is held back. -/
inductive Held where
  | answer (ticket : Nat) (result : Except Fault Run)
  | listing (ticket : Nat) (result : Except Fault (List Run))
  | poll (session : Nat) (result : Except Fault Run)
  | channel (session : Nat) (id : RunId) (script : ChannelScript)

/-- A tracker with the service it talks to. -/
structure Rehearsal where
  tracker : Tracker
  starts : List (Scripted Run)
  fetches : List (Scripted Run)
  listings : List (Scripted (List Run))
  submissions : List (Scripted Run)
  channels : List (RunId × ChannelScript)
  openGates : List String
  /-- In the order of asking, with the gates that hold the answers back. -/
  held : List (String × Held)
  /-- The latest session for which a run's live updates were accepted. -/
  accepted : List (RunId × Nat)
  /-- The latest first. -/
  contacts : List Contact
  outcomes : List (Nat × Outcome)
  /-- The next ticket. -/
  tickets : Nat

namespace Rehearsal

def initial (token : Option String) (period : Nat) : Rehearsal :=
  ⟨.initial token period, [], [], [], [], [], [], [], [], [], [], 0⟩

/-- The answer when nothing is scripted. -/
def unscripted : Fault :=
  .refusal 404 "Run not found"

/-- The first scripted answer, and those after it. -/
def takeAnswer {α : Type} : List (Scripted α) → Scripted α × List (Scripted α)
  | [] => (⟨.error unscripted, none⟩, [])
  | first :: rest => (first, rest)

/-- The first script for a run, and the remaining scripts. -/
def takeChannel (id : RunId) : List (RunId × ChannelScript) →
    ChannelScript × List (RunId × ChannelScript)
  | [] => (⟨none, false, [], false⟩, [])
  | first :: rest =>
    if first.1 = id then (first.2, rest)
    else
      let (script, others) := takeChannel id rest
      (script, first :: others)

def contact (rehearsal : Rehearsal) (contact : Contact) : Rehearsal :=
  { rehearsal with contacts := contact :: rehearsal.contacts }

/-- Records an effect that needs no answer. -/
def record (rehearsal : Rehearsal) : Effect → Rehearsal
  | .close _ id => rehearsal.contact (.closed id)
  | .finish ticket outcome => { rehearsal with outcomes := (ticket, outcome) :: rehearsal.outcomes }
  | _ => rehearsal

/-- A signal of which nothing follows that needs an answer. -/
def signal (rehearsal : Rehearsal) (signal : Signal) : Rehearsal :=
  let (tracker, effects) := rehearsal.tracker.step signal
  effects.foldl record { rehearsal with tracker }

def passes (rehearsal : Rehearsal) : Option String → Bool
  | none => true
  | some gate => rehearsal.openGates.contains gate

/-- Holds an answer back if its gate is closed, else goes on with it. -/
def orHold (rehearsal : Rehearsal) (gate : Option String) (held : Held)
    (proceed : Rehearsal → Rehearsal) : Rehearsal :=
  match gate with
  | some name =>
    if rehearsal.passes gate then proceed rehearsal
    else { rehearsal with held := rehearsal.held ++ [(name, held)] }
  | none => proceed rehearsal

/-- Plays the script of a subscription, unless the session that asked for it is gone. -/
def playChannel (session : Nat) (id : RunId) (script : ChannelScript) (rehearsal : Rehearsal) :
    Rehearsal :=
  if (rehearsal.tracker.current? session).isNone then rehearsal
  else if script.refused then rehearsal.signal (.refused session)
  else
    let opened := ({ rehearsal with accepted := (id, session) :: rehearsal.accepted }.contact
      (.opened id)).signal (.accepted session)
    let played := script.events.foldl (fun r event => r.signal (.delivered session event)) opened
    if script.ends then played.signal (.ended session) else played

/-- Answers a subscription; other effects are only recorded. -/
def subscribe (rehearsal : Rehearsal) : Effect → Rehearsal
  | .subscribe session id token =>
    let (script, channels) := takeChannel id rehearsal.channels
    ({ rehearsal with channels }.contact (.subscribed id token)).orHold script.gate
      (.channel session id script) (playChannel session id script)
  | other => rehearsal.record other

def signalSubscribing (signal : Signal) (rehearsal : Rehearsal) : Rehearsal :=
  let (tracker, effects) := rehearsal.tracker.step signal
  effects.foldl subscribe { rehearsal with tracker }

def proceed (held : Held) : Rehearsal → Rehearsal :=
  match held with
  | .answer ticket result => signalSubscribing (.answered ticket result)
  | .listing ticket result => signalSubscribing (.listed ticket result)
  | .poll session result => signalSubscribing (.polled session result)
  | .channel session id script => playChannel session id script

/-- Answers an effect, now or when the gate opens. -/
def answer (rehearsal : Rehearsal) : Effect → Rehearsal
  | .ask ticket call =>
    let asked := rehearsal.contact (.called call)
    match call with
    | .listRuns =>
      let (scripted, listings) := takeAnswer rehearsal.listings
      let held := Held.listing ticket scripted.result
      { asked with listings }.orHold scripted.gate held (proceed held)
    | .getRun _ =>
      let (scripted, fetches) := takeAnswer rehearsal.fetches
      let held := Held.answer ticket scripted.result
      { asked with fetches }.orHold scripted.gate held (proceed held)
    | .startRun _ =>
      let (scripted, starts) := takeAnswer rehearsal.starts
      let held := Held.answer ticket scripted.result
      { asked with starts }.orHold scripted.gate held (proceed held)
    | .submitScore .. =>
      let (scripted, submissions) := takeAnswer rehearsal.submissions
      let held := Held.answer ticket scripted.result
      { asked with submissions }.orHold scripted.gate held (proceed held)
  | .poll session id =>
    let (scripted, fetches) := takeAnswer rehearsal.fetches
    let held := Held.poll session scripted.result
    ({ rehearsal with fetches }.contact (.called (.getRun id))).orHold scripted.gate held
      (proceed held)
  | other => rehearsal.subscribe other

def signalAsking (rehearsal : Rehearsal) (signal : Signal) : Rehearsal :=
  let (tracker, effects) := rehearsal.tracker.step signal
  effects.foldl answer { rehearsal with tracker }

/-- Makes all polls that are due up to a time, at most `fuel` of them, each at its time or, when it
is overdue, at once. -/
def pollUntil (time : Nat) : Nat → Rehearsal → Rehearsal
  | 0, rehearsal => rehearsal
  | fuel + 1, rehearsal =>
    match rehearsal.tracker.nextDue? with
    | none => rehearsal
    | some due =>
      if due ≤ time then
        pollUntil time fuel (rehearsal.signalAsking (.clock (max due rehearsal.tracker.now)))
      else rehearsal

/-- Moves the clock. Polls are at least a millisecond apart, unless they are overdue by no more than
is tolerated. -/
def advance (rehearsal : Rehearsal) (duration : Nat) : Rehearsal :=
  let time := rehearsal.tracker.now + duration
  (pollUntil time (duration + Tracker.tolerance + 2) rehearsal).signalAsking (.clock time)

def catchUp (rehearsal : Rehearsal) : Rehearsal :=
  pollUntil rehearsal.tracker.now (Tracker.tolerance + 2) rehearsal

/-- Opens a gate, which lets through what it has held back. -/
def release (rehearsal : Rehearsal) (gate : String) : Rehearsal :=
  let freed := rehearsal.held.filter (·.1 = gate)
  let opened := { rehearsal with
    openGates := gate :: rehearsal.openGates
    held := rehearsal.held.filter (·.1 ≠ gate) }
  freed.foldl (fun r item => (proceed item.2 r).catchUp) opened

/-- Starts an operation, and tells its ticket. -/
def begin (rehearsal : Rehearsal) (operation : Operation) : Nat × Rehearsal :=
  (rehearsal.tickets,
    { rehearsal with tickets := rehearsal.tickets + 1 }.signalAsking
      (.invoked rehearsal.tickets operation))

/-- What an operation has come to, if it has. -/
def outcome? (rehearsal : Rehearsal) (ticket : Nat) : Option Outcome :=
  rehearsal.outcomes.lookup ticket

/-- The session that receives live updates of a run, if the latest accepted ones are still open. -/
def listening? (rehearsal : Rehearsal) (id : RunId) : Option Nat :=
  (rehearsal.accepted.lookup id).filter fun number =>
    (rehearsal.tracker.current? number).any (·.feed = .live)

/-- Puts an event, or with none the end, on the live updates of a run; also tells whether anybody
listened. -/
def emit (rehearsal : Rehearsal) (id : RunId) (event : Option RunEvent) : Bool × Rehearsal :=
  match rehearsal.listening? id with
  | none => (false, rehearsal)
  | some number =>
    (true, rehearsal.signal (match event with
      | some event => .delivered number event
      | none => .ended number))

def drop (rehearsal : Rehearsal) : Rehearsal :=
  rehearsal.signal .dropped

/-- What reached the service since the last time, in order. -/
def takeContacts (rehearsal : Rehearsal) : List Contact × Rehearsal :=
  (rehearsal.contacts.reverse, { rehearsal with contacts := [] })

end Rehearsal

def bitsText (x : Float) : String :=
  let digits := Nat.toDigits 16 x.toBits.toNat
  String.ofList (List.replicate (16 - digits.length) '0' ++ digits)

def Call.display : Call → String
  | getRun id => "get_run " ++ id.write
  | listRuns => "list_runs"
  | startRun request =>
    "start_run " ++ request.method.name ++ " " ++ toString request.trials.toNat ++ " ["
      ++ ", ".intercalate (request.persons.map Text.quoted) ++ "]"
  | submitScore id request =>
    "submit_score " ++ id.write ++ " " ++ toString request.trialId.toInt ++ " "
      ++ bitsText request.score

def Contact.display : Contact → String
  | called call => call.display
  | subscribed id token => "subscribe " ++ id.write ++ " " ++ token
  | opened id => "open " ++ id.write
  | closed id => "close " ++ id.write

end Cupping.Tracking

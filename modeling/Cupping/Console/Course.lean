import Cupping.Console.CommandLine
import Cupping.Console.Report
import Cupping.Http.Client

/-!
The course of a command. A command that needs the service asks one question after another; the
course is what lies between a question and the next one. While a run is followed, everything that
happens to it is printed, until news of it end.
-/

namespace Cupping.Console

open Tracking

/-- A printed line; some are printed with the time. -/
inductive Line where
  | plain (text : String)
  | stamped (text : String)
deriving DecidableEq, Repr

def Line.render (time : String) : Line → String
  | plain text => text
  | stamped text => "[" ++ time ++ "] " ++ text

/-- What has been printed about a run that is followed. -/
structure Follower where
  /-- How many messages. -/
  seen : Nat
  progress : Option String
  /-- Whether there have been news, or a prospect of them. -/
  wasLive : Bool
deriving DecidableEq, Repr

namespace Follower

def initial : Follower :=
  ⟨0, none, false⟩

def progressLine? (snapshot : Snapshot) : Option String :=
  snapshot.run.map fun run =>
    "  " ++ run.progress ++ " (" ++ (RunPhase.ofRun? snapshot.run).display ++ ")"

/-- The messages that have not been printed, the oldest first. -/
def news (follower : Follower) (snapshot : Snapshot) : List String :=
  (snapshot.activity.messages.take (snapshot.activity.logged - follower.seen)).reverse

def observe (follower : Follower) (snapshot : Snapshot) : Follower × List Line :=
  let progress := (progressLine? snapshot).filter (some · ≠ follower.progress)
  (⟨snapshot.activity.logged, progress <|> follower.progress,
      follower.wasLive || snapshot.connection ≠ .disconnected⟩,
    (follower.news snapshot).map .stamped ++ progress.toList.map .plain)

/-- Whether there will be no more news. -/
def isDone (follower : Follower) (snapshot : Snapshot) : Bool :=
  follower.wasLive && snapshot.connection = .disconnected

end Follower

/-- How a command ends. -/
inductive Ending where
  | success
  | failure (report : String)
  /-- The arguments do not fit. -/
  | misuse
deriving DecidableEq, Repr

/-- How far a command has come. -/
inductive Stage where
  | advising
  | listing
  | starting (watch : Bool)
  /-- The run to be followed is asked for. -/
  | opening
  /-- The run to be scored is asked for. -/
  | preparing (score : Float)
  /-- The run to be scored is there. -/
  | prepared (score : Float)
  | submitting
  | following (follower : Follower)
  | ended (ending : Ending)
deriving DecidableEq

/-- What the service is asked. -/
inductive Question where
  | advice (request : AdviceRequest)
  | call (call : Call)
  | poll (session : Nat) (id : RunId)
  | subscription (session : Nat) (id : RunId) (token : String)
deriving DecidableEq

def Question.request? (client : Http.Client) : Question → Option Http.Request
  | .advice request => client.adviceRequest? request
  | .call asked => client.request? asked
  | .poll _ id => client.request? (.getRun id)
  | .subscription _ id token => client.eventsRequest? id token

/-- The course of a command up to some point. -/
structure Course where
  client : Http.Client
  tracker : Tracker
  stage : Stage
  /-- What the service has been asked and has not answered, the earliest question first. -/
  questions : List Question
  /-- What has been printed. -/
  lines : List Line

namespace Course

def print (course : Course) (lines : List String) : Course :=
  { course with lines := course.lines ++ lines.map .plain }

/-- Asks the service one thing more. -/
def ask (course : Course) (question : Question) : Course :=
  { course with questions := course.questions ++ [question] }

/-- Ends the course. What has been asked remains asked. -/
def finish (course : Course) (ending : Ending) : Course :=
  { course with stage := .ended ending }

def fail (course : Course) (what : String) (cause : Fault) : Course :=
  course.finish (.failure (failureOf what cause))

/-- Ends the course, or prints something and ends it. -/
def finishWith {α : Type} (course : Course) (what : String) (lines : α → List String) :
    Except Fault α → Course
  | .ok value => (course.print (lines value)).finish .success
  | .error cause => course.fail what cause

def follow (course : Course) : Course :=
  { course with stage := .following .initial }

def takeRun (course : Course) (result : Except Fault Run) : Course :=
  match course.stage, result with
  | .starting true, .ok run | .opening, .ok run => (course.print (runLines run)).follow
  | .starting false, result => course.finishWith "Run start failed" runLines result
  | .starting true, .error cause => course.fail "Run start failed" cause
  | .opening, .error cause | .preparing _, .error cause => course.fail "Failed to load run" cause
  | .preparing score, .ok _ => { course with stage := .prepared score }
  | .submitting, result => course.finishWith "Score submission failed" runLines result
  | _, _ => course

def carryOut (course : Course) : Effect → Course
  | .ask _ call => course.ask (.call call)
  | .subscribe session id token => course.ask (.subscription session id token)
  | .poll session id => course.ask (.poll session id)
  | .close .. => course
  | .finish _ (.run result) => course.takeRun result
  | .finish _ (.runs result) => course.finishWith "Failed to list runs" runListLines result
  | .finish _ .done => course

/-- Prints what is new about a run that is followed, and ends when no more can come. -/
def observe (course : Course) : Course :=
  match course.stage with
  | .following follower =>
    let (next, lines) := follower.observe course.tracker.snapshot
    let course := { course with stage := .following next, lines := course.lines ++ lines }
    if next.isDone course.tracker.snapshot then course.finish .success else course
  | _ => course

def signal (course : Course) (signal : Signal) : Course :=
  let (tracker, effects) := course.tracker.step signal
  (effects.foldl carryOut { course with tracker }).observe

/-- Asks the tracker for an operation; there is one at a time. -/
def invoke (course : Course) (stage : Stage) (operation : Operation) : Course :=
  { course with stage }.signal (.invoked 0 operation)

/-- Goes on by itself: a score is submitted, or the time of the next poll comes when there is nothing
else to wait for. -/
def proceed (course : Course) : Course :=
  match course.stage with
  | .prepared score => course.invoke .submitting (.submitScore score)
  | .following _ =>
    match course.questions, course.tracker.nextDue? with
    | [], some due => course.signal (.clock due)
    | _, _ => course
  | _ => course

def takeEvents (course : Course) (session : Nat) :
    Except Fault (List (Except Fault RunEvent)) → Course
  | .error _ => course.signal (.refused session)
  | .ok items =>
    let listening := course.signal (.accepted session)
    let informed := items.foldl (fun course item => course.signal (match item with
      | .ok event => .delivered session event
      | .error _ => .ended session)) listening
    informed.signal (.ended session)

def receive (course : Course) (question : Question) (answer : Http.Answer) : Course :=
  match question with
  | .advice _ =>
    course.finishWith "Recommendation request failed"
      (fun response => [response.toJson.writeIndented]) answer.advice
  | .call .listRuns => course.signal (.listed 0 answer.runs)
  | .call _ => course.signal (.answered 0 answer.run)
  | .poll session _ => course.signal (.polled session answer.run)
  | .subscription session _ _ => course.takeEvents session answer.events

/-- Takes the answer to the earliest question. -/
def resume (course : Course) (answer : Http.Answer) : Course :=
  match course.questions with
  | [] => course
  | question :: questions => ({ course with questions }.receive question answer).proceed

def initial (settings : Settings) (live : Bool) : Course :=
  ⟨.ofSettings settings, .initial (if live then settings.token else none) settings.pollPeriod,
    .ended .success, [], []⟩

/-- Asks the service for a recommendation, if the request is possible. -/
def askAdvice (course : Course) (request : AdviceRequest) : Course :=
  match request.fault? with
  | some cause => course.fail "Recommendation request failed" cause
  | none => { course with stage := .advising }.ask (.advice request)

/-- Asks for a run to be started, if the request is possible. -/
def askStart (course : Course) (request : StartRequest) (watch : Bool) : Course :=
  match StartRequest.make request.method request.trials request.persons with
  | .error cause => course.finish (.failure (failure cause.message))
  | .ok request => course.invoke (.starting watch) (.startRun request)

def noToken : String :=
  "Live updates need a session token (--token or BREW_TUNER_TOKEN)"

def begin (settings : Settings) (source : TextSource) (command : Command) : Course :=
  let library : Library := ⟨settings.datasetDirectory, source⟩
  let course := initial settings command.isLive
  match command with
  | .recommend stem preferences asData =>
    course.finishWith "Failed to compute recommendation"
      (fun advice =>
        if asData then [advice.response.toJson.writeIndented] else adviceLines advice)
      (library.advise stem preferences)
  | .insights stem preferences =>
    course.finishWith "Failed to load brew history"
      (fun (dataset, ranking) => insightLines dataset ranking) (library.history stem preferences)
  | .adviseRemotely request => course.askAdvice request
  | .listRuns => course.invoke .listing .listRuns
  | .start request watch => course.askStart request watch
  | .watch id =>
    if settings.token.isNone then course.finish (.failure (failure noToken))
    else course.invoke .opening (.openRun id)
  | .submit id score => course.invoke (.preparing score) (.openRun id)

end Course
end Cupping.Console

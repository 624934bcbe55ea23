import Cupping.Console.Course
import Cupping.Http.Service

/-!
Performances: a command, from its arguments to its end, with a service whose answers are given.
-/

namespace Cupping.Console

/-- What a program finds where it is started. -/
structure Surroundings where
  environment : Environment
  /-- The place for settings. -/
  configHome : Option String
  files : TextSource

/-- What has come of a command. -/
structure Performance where
  lines : List Line
  ending : Ending
  /-- The requests that reached the service, in order. -/
  requests : List Http.Request

def Ending.code : Ending → Nat
  | success => 0
  | failure _ => 1
  | misuse => 2

def Ending.report : Ending → String
  | failure report => report
  | _ => ""

def versionLine : String := "brew-tuner 0.1.0"

def Surroundings.settings (surroundings : Surroundings) (options : SettingsOptions) : Settings :=
  .resolve options surroundings.environment surroundings.configHome surroundings.files

namespace Course

/-- Lets a service answer at most so many questions, in the order in which they are asked. -/
def converse : Nat → Course → Http.Service → Course × Http.Service
  | 0, course, service => (course, service)
  | fuel + 1, course, service =>
    match course.questions with
    | [] => (course, service)
    | question :: _ =>
      let (answer, service) := service.ask (question.request? course.client)
      converse fuel (course.resume answer) service

/-- How a course ended. One that would go on for ever without any question has not failed. -/
def ending (course : Course) : Ending :=
  match course.stage with
  | .ended ending => ending
  | _ => .success

end Course

namespace Performance

/-- The most questions before the first answer or behind the last one. No command that comes to an
end asks more. -/
def margin : Nat := 3

def silent (lines : List Line) (ending : Ending) : Performance :=
  ⟨lines, ending, []⟩

def ofCommand (surroundings : Surroundings) (service : Http.Service) (line : CommandLine) :
    Performance :=
  let begun := Course.begin (surroundings.settings line.options) surroundings.files line.command
  let (course, service) := begun.converse (service.answers.length + margin) service
  ⟨course.lines, course.ending, service.requests.reverse⟩

def ofArguments (surroundings : Surroundings) (service : Http.Service)
    (arguments : List String) : Performance :=
  match CommandLine.read arguments with
  | .ok line => ofCommand surroundings service line
  | .error .misuse => silent [] .misuse
  | .error .help => silent [] .success
  | .error .version => silent [.plain versionLine] .success

end Performance
end Cupping.Console

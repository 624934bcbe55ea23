import Cupping.Console.Performance
import Cupping.Proofs.Binary64.Comparison
import Cupping.Proofs.Exchange.RoundTrip
import Cupping.Proofs.Http.Reaching
import Cupping.Proofs.Text.Utf8

/-!
What the submission of a score says to the service. The run is asked for once; the score is sent at
most once, and only for a trial that waits for one.
-/

namespace Cupping

/-- Whether a score can be given. -/
structure ScoreRequest.IsPossible (score : Float) : Prop where
  finite : score.isFinite = true
  low : 0.0 ≤ score
  high : score ≤ 10.0

theorem ScoreRequest.isScore_iff {score : Float} : isScore score = true ↔ IsPossible score := by
  have zero : (0.0 : Float).isFinite = true := by decide +kernel
  have ten : (10.0 : Float).isFinite = true := by decide +kernel
  constructor
  · intro scored
    simp only [isScore, Bool.and_eq_true, Bool.not_eq_true', decide_eq_false_iff_not] at scored
    obtain ⟨⟨finite, low⟩, high⟩ := scored
    exact ⟨finite, (Binary64.not_lt_iff_le zero finite).mp low,
      (Binary64.not_lt_iff_le finite ten).mp high⟩
  · rintro ⟨finite, low, high⟩
    have notBelow := (Binary64.not_lt_iff_le zero finite).mpr low
    have notAbove := (Binary64.not_lt_iff_le finite ten).mpr high
    simp [isScore, finite, notBelow, notAbove]

theorem ScoreRequest.make_of_possible {score : Float} (possible : IsPossible score)
    (trialId : Int64) : make trialId score = .ok ⟨trialId, score⟩ :=
  if_pos (isScore_iff.mpr possible)

theorem ScoreRequest.make_of_impossible {score : Float} (impossible : ¬ IsPossible score)
    (trialId : Int64) : ∃ fault, make trialId score = .error fault :=
  ⟨_, if_neg (mt isScore_iff.mp impossible)⟩

namespace Http

theorem isSuccess_iff {status : Nat} : isSuccess status = true ↔ 200 ≤ status ∧ status < 300 := by
  rw [isSuccess, Bool.and_eq_true, decide_eq_true_iff, decide_eq_true_iff]

/-- Whether an answer is one of success with the text of a run. -/
inductive Answer.Reports : Answer → Run → Prop where
  | intro {status : Nat} {body : Body} {run : Run} (success : 200 ≤ status ∧ status < 300)
    (complete : body.complete = true)
    (read : (Json.readDecoded? (Text.Utf8.decode body.pieces.flatten)).bind Run.ofJson? =
      some run) : Reports (.answered status body) run

theorem Answer.run_eq_ok_iff {answer : Answer} {run : Run} :
    answer.run = .ok run ↔ answer.Reports run := by
  constructor
  · intro given
    cases answer with
    | dropped => cases given
    | answered status body =>
      cases success : isSuccess status with
      | false =>
        rw [Answer.run, decode, check, success] at given
        cases given
      | true =>
        simp only [Answer.run, decode, check, success, if_true, bind, Except.bind] at given
        cases complete : body.complete with
        | false =>
          rw [complete] at given
          cases given
        | true =>
          rw [complete, if_pos rfl] at given
          cases read : (Json.readDecoded? (Text.Utf8.decode body.pieces.flatten)).bind
              Run.ofJson? with
          | none =>
            rw [read] at given
            cases given
          | some found =>
            rw [read] at given
            cases given
            exact .intro (isSuccess_iff.mp success) complete read
  · rintro ⟨success, complete, read⟩
    simp only [Answer.run, decode, check, isSuccess_iff.mpr success, complete, read, if_true, bind,
      Except.bind]

theorem Answer.Reports.unique {answer : Answer} {run other : Run} (first : answer.Reports run)
    (second : answer.Reports other) : run = other := by
  have same := run_eq_ok_iff.mpr first
  rw [run_eq_ok_iff.mpr second] at same
  exact (Except.ok.inj same).symm

/-- Whether an answer is a run whose latest trial waits for its score. -/
structure Answer.Awaits (answer : Answer) (run : Run) (trial : RunTrial) : Prop where
  reported : answer.Reports run
  latest : run.latestTrial = some trial
  suggested : trial.state = .suggested

namespace Service

/-- The answer to the request after so many others. -/
def reply (service : Service) (n : Nat) : Answer :=
  delivered (service.answers[n]?.getD exhausted)

/-- The service after a request. -/
def after (service : Service) (request : Request) : Service :=
  { service with answers := service.answers.drop 1, requests := request :: service.requests }

theorem reply_after (service : Service) (request : Request) (n : Nat) :
    (service.after request).reply n = service.reply (n + 1) := by
  rw [reply, after, List.getElem?_drop, Nat.add_comm, reply]

theorem ask_of_origin {service : Service} {request : Request}
    (origin : request.url.origin = service.origin) :
    service.ask (some request) = (service.reply 0, service.after request) := by
  have kept : (some request).filter (·.url.origin = service.origin) = some request := by
    simp [origin]
  rw [ask, kept, reply, List.head?_eq_getElem?]
  rfl

end Service
end Http

namespace Console

open Http Tracking

namespace Course

/-- What the service is asked for the sake of an effect. -/
def questionFor? : Effect → Option Question
  | .ask _ call => some (.call call)
  | .subscribe session id token => some (.subscription session id token)
  | .poll session id => some (.poll session id)
  | .close .. | .finish .. => none

theorem questions_finishWith {α : Type} (course : Course) (what : String)
    (lines : α → List String) (result : Except Fault α) :
    (course.finishWith what lines result).questions = course.questions := by
  cases result <;> rfl

theorem questions_takeRun (course : Course) (result : Except Fault Run) :
    (course.takeRun result).questions = course.questions := by
  unfold takeRun
  split <;> first | exact questions_finishWith .. | rfl

theorem questions_carryOut (course : Course) (effect : Effect) :
    (course.carryOut effect).questions = course.questions ++ (questionFor? effect).toList := by
  cases effect with
  | ask | subscribe | poll => rfl
  | close => exact (List.append_nil _).symm
  | finish ticket outcome =>
    refine Eq.trans ?_ (List.append_nil _).symm
    cases outcome with
    | done => rfl
    | run result => exact course.questions_takeRun result
    | runs result => exact questions_finishWith ..

theorem questions_foldl_carryOut (course : Course) (effects : List Effect) :
    (effects.foldl carryOut course).questions =
      course.questions ++ effects.filterMap questionFor? := by
  induction effects generalizing course with
  | nil => exact (List.append_nil _).symm
  | cons effect rest ih =>
    rw [List.foldl_cons, ih, questions_carryOut, List.append_assoc, List.filterMap_cons]
    cases questionFor? effect <;> rfl

theorem questions_observe (course : Course) : course.observe.questions = course.questions := by
  unfold observe
  split
  · dsimp only
    split <;> rfl
  · rfl

/-- Whatever the tracker does for a signal that needs the service is asked of it, in that order,
after what has been asked before. -/
theorem questions_signal (course : Course) (signal : Signal) :
    (course.signal signal).questions =
      course.questions ++ (course.tracker.step signal).2.filterMap questionFor? :=
  (questions_observe _).trans (questions_foldl_carryOut ..)

/-- A course that asks nothing more. -/
structure Ends (course : Course) (ending : Ending) : Prop where
  silent : course.questions = []
  stage : course.stage = .ended ending

theorem converse_of_silent {course : Course} (silent : course.questions = []) (fuel : Nat)
    (service : Service) : course.converse fuel service = (course, service) := by
  cases fuel with
  | zero => rfl
  | succ fuel => rw [converse, silent]

theorem converse_of_puts {course : Course} {service : Service} {root : String} {call : Call}
    {request : Request} {later : List Question} (asked : course.questions = .call call :: later)
    (puts : course.client.Puts service.origin root call request) (fuel : Nat) :
    course.converse (fuel + 1) service =
      (course.resume (service.reply 0)).converse fuel (service.after request) := by
  have made : (Question.call call).request? course.client = some request := puts.made
  rw [converse, asked]
  dsimp only
  rw [made, Service.ask_of_origin puts.origin]

theorem signal_of_step {course : Course} {signal : Signal} {tracker : Tracker}
    {effects : List Effect} (stepped : course.tracker.step signal = (tracker, effects)) :
    course.signal signal = (effects.foldl carryOut { course with tracker }).observe := by
  rw [Course.signal, stepped]

section Submission

variable (settings : Settings) (id : RunId) (score : Float) (run : Run) (trial : RunTrial)

/-- The course of a submission while the run is asked for. -/
def preparing : Course where
  client := .ofSettings settings
  tracker := { Tracker.initial none settings.pollPeriod with errands := [(0, .openRun id)] }
  stage := .preparing score
  questions := [.call (.getRun id)]
  lines := []

theorem begin_submit (source : TextSource) :
    begin settings source (.submit id score) = preparing settings id score :=
  rfl

/-- The tracker once the run is there. Without a credential there is no session. -/
def openedTracker : Tracker :=
  ((Tracker.initial none settings.pollPeriod).succeed run (.openRun id)).1

def prepared : Course where
  client := .ofSettings settings
  tracker := openedTracker settings id run
  stage := .prepared score
  questions := []
  lines := []

/-- The course while the score is submitted. -/
def submitting : Course where
  client := .ofSettings settings
  tracker := { openedTracker settings id run with
    errands := [(0, .submitScore trial.number score)] }
  stage := .submitting
  questions := [.call (.submitScore run.id ⟨trial.id, score⟩)]
  lines := []

variable {settings id score run trial}

theorem resume_preparing (answer : Answer) : (preparing settings id score).resume answer =
    ({ preparing settings id score with questions := [] }.signal
      (.answered 0 answer.run)).proceed :=
  rfl

theorem resume_preparing_ok {answer : Answer} (reported : answer.run = .ok run) :
    (preparing settings id score).resume answer = (prepared settings id score run).proceed := by
  rw [resume_preparing, reported]
  rfl

theorem resume_preparing_error {answer : Answer} {fault : Fault}
    (refused : answer.run = .error fault) :
    ((preparing settings id score).resume answer).Ends
      (.failure (failureOf "Failed to load run" fault)) := by
  rw [resume_preparing, refused]
  exact ⟨rfl, rfl⟩

theorem proceed_prepared : (prepared settings id score run).proceed =
    { prepared settings id score run with stage := .submitting }.signal
      (.invoked 0 (.submitScore score)) :=
  rfl

theorem awaiting?_openedTracker :
    (openedTracker settings id run).snapshot.awaiting? = run.awaiting?.map (run, ·) :=
  rfl

/-- Once the run is there, a possible score is sent for the trial that waits. -/
theorem proceed_prepared_of_awaiting (waiting : run.awaiting? = some trial)
    (possible : ScoreRequest.IsPossible score) :
    (prepared settings id score run).proceed = submitting settings id score run trial := by
  have stepped : (openedTracker settings id run).step (.invoked 0 (.submitScore score)) =
      ({ openedTracker settings id run with
          errands := [(0, .submitScore trial.number score)] },
        [.ask 0 (.submitScore run.id ⟨trial.id, score⟩)]) := by
    rw [Tracker.step, Tracker.invoke, awaiting?_openedTracker, waiting, Option.map_some]
    dsimp only
    rw [ScoreRequest.make_of_possible possible]
    rfl
  rw [proceed_prepared, signal_of_step stepped]
  rfl

theorem proceed_prepared_of_rejected {fault : Fault}
    (stepped : (openedTracker settings id run).step (.invoked 0 (.submitScore score)) =
      (openedTracker settings id run, [.finish 0 (.run (.error fault))])) :
    (prepared settings id score run).proceed.Ends
      (.failure (failureOf "Score submission failed" fault)) := by
  rw [proceed_prepared, signal_of_step stepped]
  exact ⟨rfl, rfl⟩

/-- Without a trial that waits, or with an impossible score, the course ends at once. -/
theorem exists_rejection (futile : run.awaiting? = none ∨ ¬ ScoreRequest.IsPossible score) :
    ∃ fault, (openedTracker settings id run).step (.invoked 0 (.submitScore score)) =
      (openedTracker settings id run, [.finish 0 (.run (.error fault))]) := by
  cases waiting : run.awaiting? with
  | none =>
    refine ⟨Tracker.nothingAwaited, ?_⟩
    rw [Tracker.step, Tracker.invoke, awaiting?_openedTracker, waiting]
    rfl
  | some trial =>
    have impossible := futile.resolve_left (by rw [waiting]; nofun)
    obtain ⟨fault, made⟩ := ScoreRequest.make_of_impossible impossible trial.id
    refine ⟨fault, ?_⟩
    rw [Tracker.step, Tracker.invoke, awaiting?_openedTracker, waiting, Option.map_some]
    dsimp only
    rw [made]

/-- The score is sent if the answer is a run with a trial that waits, and the score possible. -/
theorem resume_preparing_of_awaits {answer : Answer} (awaits : answer.Awaits run trial)
    (possible : ScoreRequest.IsPossible score) :
    (preparing settings id score).resume answer = submitting settings id score run trial := by
  have waiting : run.awaiting? = some trial :=
    Option.filter_eq_some_iff.mpr ⟨awaits.latest, decide_eq_true awaits.suggested⟩
  rw [resume_preparing_ok (Answer.run_eq_ok_iff.mpr awaits.reported),
    proceed_prepared_of_awaiting waiting possible]

/-- Otherwise the course ends, and fails. -/
theorem resume_preparing_of_futile {answer : Answer}
    (futile : ¬ ((∃ run trial, answer.Awaits run trial) ∧ ScoreRequest.IsPossible score)) :
    ∃ report, ((preparing settings id score).resume answer).Ends (.failure report) := by
  cases given : answer.run with
  | error fault => exact ⟨_, resume_preparing_error given⟩
  | ok run =>
    have nothing : run.awaiting? = none ∨ ¬ ScoreRequest.IsPossible score := by
      cases waiting : run.awaiting? with
      | none => exact .inl rfl
      | some trial =>
        obtain ⟨latest, suggested⟩ := Option.filter_eq_some_iff.mp waiting
        have awaits : answer.Awaits run trial :=
          ⟨Answer.run_eq_ok_iff.mp given, latest, of_decide_eq_true suggested⟩
        exact .inr fun possible => futile ⟨⟨run, trial, awaits⟩, possible⟩
    obtain ⟨fault, stepped⟩ :
        ∃ fault, (openedTracker settings id run).step (.invoked 0 (.submitScore score)) =
          (openedTracker settings id run, [.finish 0 (.run (.error fault))]) :=
      exists_rejection nothing
    rw [resume_preparing_ok given]
    exact ⟨_, proceed_prepared_of_rejected stepped⟩

theorem resume_submitting (answer : Answer) :
    (submitting settings id score run trial).resume answer =
      ({ submitting settings id score run trial with questions := [] }.signal
        (.answered 0 answer.run)).proceed :=
  rfl

/-- The answer to the score ends the course, and well if it is a run. -/
theorem exists_ends_submitting (answer : Answer) :
    ∃ ending, ((submitting settings id score run trial).resume answer).Ends ending ∧
      (ending = .success ↔ ∃ next, answer.Reports next) := by
  rw [resume_submitting]
  cases given : answer.run with
  | ok next =>
    have reports : ∃ next, answer.Reports next := ⟨next, Answer.run_eq_ok_iff.mp given⟩
    exact ⟨.success, ⟨rfl, rfl⟩, fun _ => reports, fun _ => rfl⟩
  | error fault =>
    refine ⟨.failure (failureOf "Score submission failed" fault), ⟨rfl, rfl⟩, nofun, ?_⟩
    rintro ⟨next, reports⟩
    rw [Answer.run_eq_ok_iff.mpr reports] at given
    cases given

section Conversation

variable {service : Service} {root : String} {get post : Request}

theorem converse_of_awaits (asked : (Client.ofSettings settings).Puts service.origin root
      (.getRun id) get)
    (awaits : (service.reply 0).Awaits run trial) (possible : ScoreRequest.IsPossible score)
    (sent : (Client.ofSettings settings).Puts service.origin root
      (.submitScore run.id ⟨trial.id, score⟩) post) (fuel : Nat) :
    ∃ course ending, (preparing settings id score).converse (fuel + 2) service =
        (course, (service.after get).after post) ∧ course.Ends ending ∧
      (ending = .success ↔ ∃ next, (service.reply 1).Reports next) := by
  have first : (preparing settings id score).converse (fuel + 2) service =
      (submitting settings id score run trial).converse (fuel + 1) (service.after get) := by
    rw [converse_of_puts rfl asked, resume_preparing_of_awaits awaits possible]
  have second : (submitting settings id score run trial).converse (fuel + 1) (service.after get) =
      ((submitting settings id score run trial).resume (service.reply 1)).converse fuel
        ((service.after get).after post) := by
    rw [converse_of_puts rfl sent, Service.reply_after]
  obtain ⟨ending, ends, success⟩ :
      ∃ ending, ((submitting settings id score run trial).resume (service.reply 1)).Ends ending ∧
        (ending = .success ↔ ∃ next, (service.reply 1).Reports next) :=
    exists_ends_submitting (service.reply 1)
  exact ⟨_, ending, by rw [first, second, converse_of_silent ends.silent], ends, success⟩

theorem converse_of_futile (asked : (Client.ofSettings settings).Puts service.origin root
      (.getRun id) get)
    (futile : ¬ ((∃ run trial, (service.reply 0).Awaits run trial) ∧
      ScoreRequest.IsPossible score)) (fuel : Nat) :
    ∃ course report, (preparing settings id score).converse (fuel + 1) service =
        (course, service.after get) ∧ course.Ends (.failure report) := by
  obtain ⟨report, ends⟩ :
      ∃ report, ((preparing settings id score).resume (service.reply 0)).Ends (.failure report) :=
    resume_preparing_of_futile futile
  exact ⟨_, report, by rw [converse_of_puts rfl asked, converse_of_silent ends.silent], ends⟩

end Conversation

end Submission

end Course

namespace Performance

variable {surroundings : Surroundings} {service : Service}

/-- What comes of a command whose course has come to its end. -/
theorem ofCommand_of_ends {options : SettingsOptions} {command : Command} {course : Course}
    {later : Service} {ending : Ending} (ends : course.Ends ending)
    (conversed : (Course.begin (surroundings.settings options) surroundings.files
      command).converse (service.answers.length + margin) service = (course, later)) :
    ofCommand surroundings service ⟨options, command⟩ =
      ⟨course.lines, ending, later.requests.reverse⟩ := by
  have ended : course.ending = ending := by rw [Course.ending, ends.stage]
  rw [ofCommand, conversed]
  dsimp only
  rw [ended]

/-- What a submission of a score says to a service, and what comes of it: a request for the run, and
maybe one with the score. -/
structure IsSubmission (client : Client) (service : Service) (id : RunId) (score : Float)
    (root : String) (get : Request) (sent : Option Request) (performance : Performance) :
    Prop where
  requests : performance.requests = service.requests.reverse ++ get :: sent.toList
  asked : client.Puts service.origin root (.getRun id) get
  named : client.Carries root .get ("/optimizer/runs/" ++ id.write) "" get
  /-- The score goes to the run that has been reported, for the trial that waits. -/
  scored : ∀ post ∈ sent, ∃ run trial, (service.reply 0).Awaits run trial ∧
    client.Puts service.origin root (.submitScore run.id ⟨trial.id, score⟩) post ∧
    client.Carries root .post ("/optimizer/runs/" ++ run.id.write ++ "/submit_score")
      (Json.Value.record [("trial_id", .number (.whole trial.id.toInt)),
        ("score", .number (.real score))]).write post
  sends : sent.isSome = true ↔
    (∃ run trial, (service.reply 0).Awaits run trial) ∧ ScoreRequest.IsPossible score
  succeeds : performance.ending = .success ↔
    sent.isSome = true ∧ ∃ next, (service.reply 1).Reports next

/-- Whatever a service answers, a submission asks for the run once, and says nothing more than maybe
the score: once, only for a trial that waits, and only if the score is a possible one. It succeeds
just when the score has been sent and the answer to it is a run. -/
theorem submission_sends_one_score {arguments : List String} {options : SettingsOptions}
    {id : RunId} {score : Float} {url : Url}
    (given : CommandLine.read arguments = .ok ⟨options, .submit id score⟩)
    (parsed : Url.parse? (surroundings.settings options).apiUrl = some url)
    (reached : url.origin = service.origin)
    (legal : ∀ token ∈ (surroundings.settings options).token, Client.isHeaderText token = true) :
    ∃ root get sent, IsSubmission (.ofSettings (surroundings.settings options)) service id score
      root get sent (ofArguments surroundings service arguments) := by
  have address : (Client.ofSettings (surroundings.settings options)).address =
      (surroundings.settings options).apiUrl := Client.address_ofSettings ..
  obtain ⟨root, puts⟩ := Client.exists_puts (address ▸ parsed) legal
  rw [reached] at puts
  obtain ⟨get, asked⟩ := puts (.getRun id)
  have performed : ofArguments surroundings service arguments =
      ofCommand surroundings service ⟨options, .submit id score⟩ := by
    rw [ofArguments, given]
  have begun := Course.begin_submit (surroundings.settings options) id score surroundings.files
  by_cases sends :
    (∃ run trial, (service.reply 0).Awaits run trial) ∧ ScoreRequest.IsPossible score
  · obtain ⟨⟨run, trial, awaits⟩, possible⟩ := sends
    obtain ⟨post, sent⟩ := puts (.submitScore run.id ⟨trial.id, score⟩)
    obtain ⟨course, ending, conversed, ends, success⟩ :=
      Course.converse_of_awaits asked awaits possible sent (service.answers.length + 1)
    -- Two questions are within the margin, so a service without any answers is asked them too.
    have fuel : service.answers.length + 1 + 2 = service.answers.length + margin := rfl
    rw [fuel, ← begun] at conversed
    rw [performed, ofCommand_of_ends ends conversed]
    refine ⟨root, get, some post, ?requests, asked, asked.carries_getRun, ?scored, ?sends, ?succeeds⟩
    case requests => simp [Service.after]
    case scored =>
      rintro _ ⟨⟩
      exact ⟨run, trial, awaits, sent, sent.carries_submitScore⟩
    case sends => exact ⟨fun _ => ⟨⟨run, trial, awaits⟩, possible⟩, fun _ => rfl⟩
    case succeeds => exact success.trans ⟨fun reports => ⟨rfl, reports⟩, And.right⟩
  · obtain ⟨course, report, conversed, ends⟩ :=
      Course.converse_of_futile asked sends (service.answers.length + 2)
    have fuel : service.answers.length + 2 + 1 = service.answers.length + margin := rfl
    rw [fuel, ← begun] at conversed
    rw [performed, ofCommand_of_ends ends conversed]
    refine ⟨root, get, none, ?requests, asked, asked.carries_getRun, nofun, ?sends, ?succeeds⟩
    case requests => simp [Service.after]
    case sends => exact ⟨nofun, fun possible => absurd possible sends⟩
    case succeeds => exact ⟨nofun, fun sent => absurd sent.1 Bool.false_ne_true⟩

/-- A trial that waits, at a service that drops the request with its score. -/
theorem submission_of_waiting_trial :
    let surroundings : Surroundings := ⟨fun _ => none, none, fun _ => .error .absent⟩
    let arguments := ["--api-url", "http://localhost:8000/api/v1/", "--token", "secret", "submit",
      "aaaaaaaa-aaaa-aaaa-aaaa-aaaaaaaaaaaa", "9.25"]
    let body : Body := ⟨[Text.Utf8.encode waitingRun.toJson.write.toList], true⟩
    let service : Service := ⟨"http://localhost:8000", [.answered 200 body, .dropped], []⟩
    let performance := ofArguments surroundings service arguments
    let place := "/api/v1/optimizer/runs/aaaaaaaa-aaaa-aaaa-aaaa-aaaaaaaaaaaa"
    let asking : Request := ⟨.get, ⟨"http://localhost:8000", place, none⟩, some "Bearer secret",
      "*/*", "brew-tuner/0.1.0", none, ""⟩
    let scoring : Request := ⟨.post, ⟨"http://localhost:8000", place ++ "/submit_score", none⟩,
      some "Bearer secret", "*/*", "brew-tuner/0.1.0", some "application/json",
      "\x7b\"trial_id\":-7,\"score\":9.25\x7d"⟩
    performance.requests = [asking, scoring] ∧ performance.ending ≠ .success := by
  intro surroundings arguments body service performance place asking scoring
  let options : SettingsOptions :=
    ⟨some "http://localhost:8000/api/v1/", some "secret", none, none⟩
  let client := Client.ofSettings (surroundings.settings options)
  have given : CommandLine.read arguments = .ok ⟨options, .submit waitingRun.id 9.25⟩ := by
    decide +kernel
  have parsed : Url.parse? (surroundings.settings options).apiUrl =
      some ⟨"http://localhost:8000", "/api/v1", none⟩ := by decide +kernel
  obtain ⟨root, get, sent, submission⟩ : ∃ root get sent,
      IsSubmission client service waitingRun.id 9.25 root get sent performance :=
    submission_sends_one_score given parsed rfl (by decide +kernel)
  have read : (Json.readDecoded? (Text.Utf8.decode body.pieces.flatten)).bind Run.ofJson? =
      some waitingRun := by
    have back : ∀ x ∈ waitingRun.floats, Json.ReadsBack x := by decide +kernel
    rw [List.flatten_singleton, Text.Utf8.decode_encode]
    exact Json.decode?_write (Run.isPlain_toJson back) waitingRun.ofJson?_toJson
  have awaits : (service.reply 0).Awaits waitingRun waitingTrial :=
    ⟨.intro (by decide) rfl read, rfl, rfl⟩
  have possible : ScoreRequest.IsPossible 9.25 := ScoreRequest.isScore_iff.mp (by decide +kernel)
  obtain ⟨post, rfl⟩ := Option.isSome_iff_exists.mp
    (submission.sends.mpr ⟨⟨waitingRun, waitingTrial, awaits⟩, possible⟩)
  obtain ⟨run, trial, reported, puts, -⟩ := submission.scored post rfl
  obtain rfl : waitingRun = run := awaits.reported.unique reported.reported
  obtain rfl : waitingTrial = trial := Option.some.inj reported.latest
  have asked : client.request? (.getRun waitingRun.id) = some asking := by decide +kernel
  have scored : client.request? (.submitScore waitingRun.id ⟨waitingTrial.id, 9.25⟩) =
      some scoring := by decide +kernel
  obtain rfl : asking = get := Option.some.inj (asked.symm.trans submission.asked.made)
  obtain rfl : scoring = post := Option.some.inj (scored.symm.trans puts.made)
  refine ⟨submission.requests, fun success => ?_⟩
  obtain ⟨-, next, reports⟩ := submission.succeeds.mp success
  cases reports

end Performance
end Console
end Cupping

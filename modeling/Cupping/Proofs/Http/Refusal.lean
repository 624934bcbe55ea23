import Cupping.Http.Client
import Cupping.Proofs.Exchange.RoundTrip
import Cupping.Proofs.Text.Blank
import Cupping.Proofs.Text.Lines
import Cupping.Proofs.Text.Utf8

/-!
What a refused call says. The service may give a detail with its refusal, in any form; the failure
has the words for it, or the phrase for the status, so that there is always something to read.
-/

namespace Cupping

namespace Text

/-- A joined text can be seen if one of its parts can. -/
theorem isBlank_intercalate {separator text : String} {texts : List String}
    (member : text ∈ texts) (seen : isBlank text = false) :
    isBlank (separator.intercalate texts) = false := by
  obtain ⟨c, inside, seen⟩ := exists_seen seen
  apply isBlank_of_mem (c := c) _ seen
  rw [String.toList_intercalate]
  exact mem_intercalate_of_mem (List.mem_map_of_mem member) inside

end Text

namespace Json

/-- A number has a digit, a mark of a real one, or the letters of null. -/
theorem Number.exists_seen (value : Number) : ∃ c ∈ value.write, Text.isBlankChar c = false := by
  cases value with
  | whole value =>
    obtain ⟨c, member⟩ := List.exists_mem_of_ne_nil (Decimal.digitsOf value.natAbs)
      Nat.toDigits_ne_nil
    refine ⟨c, ?_, Decimal.IsFigure.isBlankChar (.inl (Decimal.isDigit_digitsOf _ c member))⟩
    rw [Number.write, Decimal.signed]
    split
    · exact List.mem_cons_of_mem _ member
    · exact member
  | real x =>
    rw [Number.write]
    split
    · rcases (looksReal_json x).2 with point | exponent
      · exact ⟨'.', point, rfl⟩
      · exact ⟨'e', exponent, rfl⟩
    · exact ⟨'n', List.mem_cons_self .., rfl⟩

/-- Numbers, truth values and objects never have a blank text. -/
theorem Value.isBlank_write_number (value : Number) :
    Text.isBlank (Value.number value).write = false := by
  obtain ⟨c, member, seen⟩ := value.exists_seen
  apply Text.isBlank_of_mem (c := c) _ seen
  rw [Value.write, String.toList_ofList]
  exact member

theorem Value.isBlank_write_object (members : List (Option String × Value)) :
    Text.isBlank (Value.object members).write = false := by
  apply Text.isBlank_of_mem (c := '{') _ rfl
  rw [Value.write, String.toList_ofList, Value.writeAt]
  cases writeMembers .compact 1 members <;> simp [enclose]

theorem Value.isBlank_write_bool (value : Bool) :
    Text.isBlank (Value.bool value).write = false := by
  cases value <;> rfl

/-- What is kept has a value. -/
theorem Value.settle?_ne_unreadable (depth : Nat) (value : Value) :
    value.settle? depth ≠ some .unreadable := by
  cases value with
  | list items =>
    cases depth with
    | zero => simp [settle?]
    | succ depth => simp [settle?]
  | object members =>
    cases depth with
    | zero => simp [settle?]
    | succ depth => simp [settle?, record]
  | _ => simp [settle?]

end Json

namespace Http

theorem isBlank_reason (status : Nat) : Text.isBlank (reason status) = false := by
  have all : ∀ entry ∈ reasons, Text.isBlank entry.2 = false := by decide
  rw [reason]
  cases found : reasons.lookup status with
  | none => rfl
  | some phrase =>
    obtain ⟨before, after, whole, -⟩ := List.lookup_eq_some_iff.mp found
    exact all (status, phrase) (whole ▸ List.mem_append_right before (List.mem_cons_self ..))

end Http

namespace Refusal

open Json (Value)

/-- The detail in the data of a body: the one member of an object that has its name, as it is
kept. -/
def detail? : Value → Option Value
  | .object members =>
    if members.all (·.1.isSome) then
      match members.filter (·.1 = some "detail") with
      | [member] => member.2.settle? (maxDepth - 1)
      | _ => none
    else none
  | _ => none

/-- The texts of some findings. -/
def messages (findings : List Value) : List String :=
  findings.filterMap findingMessage?

/-- Whether a message is what a detail asks for: what can be read in it, or its text as data, and
the phrase for the status where there is nothing to read. -/
inductive Words (status : Nat) : Option Value → String → Prop
  | text {reason : String} (seen : Text.isBlank reason = false) :
    Words status (some (.text reason)) reason
  | findings {findings : List Value} {message : String} (member : message ∈ messages findings)
    (seen : Text.isBlank message = false) :
    Words status (some (.list findings)) ("; ".intercalate (messages findings))
  | object (members : List (Option String × Value)) :
    Words status (some (.object members)) (Value.object members).write
  | number (value : Json.Number) : Words status (some (.number value)) (Value.number value).write
  | bool (value : Bool) : Words status (some (.bool value)) (Value.bool value).write
  | unsaid : Words status none (Http.reason status)
  | null : Words status (some .null) (Http.reason status)
  | blank {reason : String} (blank : Text.isBlank reason = true) :
    Words status (some (.text reason)) (Http.reason status)
  | unfound {findings : List Value} (blank : ∀ message ∈ messages findings,
    Text.isBlank message = true) : Words status (some (.list findings)) (Http.reason status)

variable {status : Nat} {detail : Option Value} {message : String}

theorem Words.isBlank (words : Words status detail message) : Text.isBlank message = false := by
  cases words with
  | text seen => exact seen
  | findings member seen => exact Text.isBlank_intercalate member seen
  | object members => exact Value.isBlank_write_object members
  | number value => exact Value.isBlank_write_number value
  | bool value => exact Value.isBlank_write_bool value
  | unsaid => exact Http.isBlank_reason status
  | null => exact Http.isBlank_reason status
  | blank => exact Http.isBlank_reason status
  | unfound => exact Http.isBlank_reason status

/-- Whether what a detail says can be seen: it is no blank text, and where its findings have texts,
one of them is not blank. -/
structure IsSeen (detail : Option Value) : Prop where
  text : ∀ reason, detail = some (.text reason) → Text.isBlank reason = false
  findings : ∀ findings, detail = some (.list findings) →
    messages findings = [] ∨ ∃ message ∈ messages findings, Text.isBlank message = false

theorem wording?_list (findings : List Value) :
    wording? (.list findings) =
      if messages findings = [] then none else some ("; ".intercalate (messages findings)) := by
  rw [wording?, messages]
  cases findings.filterMap findingMessage? with
  | nil => rfl
  | cons message others => rw [if_neg (List.cons_ne_nil _ _)]

theorem IsSeen.words (seen : IsSeen detail) (kept : detail ≠ some .unreadable) :
    Words status detail ((detail.bind wording?).getD (Http.reason status)) := by
  cases detail with
  | none => exact .unsaid
  | some detail =>
    rw [Option.bind_some]
    cases detail with
    | null => exact .null
    | bool value => exact .bool value
    | number value => exact .number value
    | object members => exact .object members
    | unreadable => exact absurd rfl kept
    | text reason =>
      have shown := seen.text reason rfl
      rw [wording?, if_neg (Bool.eq_false_iff.mp shown)]
      exact .text shown
    | list findings =>
      rcases seen.findings findings rfl with nothing | ⟨message, member, shown⟩
      · rw [wording?_list, if_pos nothing]
        apply Words.unfound
        rw [nothing]
        nofun
      · rw [wording?_list, if_neg (List.ne_nil_of_mem member)]
        exact .findings member shown

/-! The detail of an object. -/

section Members

open Json.Record

/-- A detail that is null has no words, just as if there were none. -/
theorem orNull_settle (depth : Nat) (value : Value) :
    (orNull (Value.settle? depth) value).bind (·.bind wording?) =
      (value.settle? depth).bind wording? := by
  by_cases null : value = .null
  · subst null
    cases depth <;> rfl
  · rw [Value.orNull_of_ne_null null]
    cases value.settle? depth <;> rfl

theorem detailOfJson?_object (members : List (Option String × Value)) :
    (detailOfJson? (.object members)).bind (·.bind wording?) =
      (detail? (.object members)).bind wording? := by
  rw [detailOfJson?, ofValue?, detail?]
  by_cases isRecord : IsRecord ["detail"] members
  · rw [ofMembers?_of_isRecord isRecord, if_pos (List.all_eq_true.mpr isRecord.1)]
    have once := isRecord.2 "detail" List.mem_cons_self
    simp only [List.map_cons, List.map_nil]
    unfold under at once ⊢
    generalize members.filter (·.1 = some "detail") = found at once ⊢
    rcases found with _ | ⟨member, _ | ⟨second, others⟩⟩
    · rfl
    · exact orNull_settle (maxDepth - 1) member.2
    · simp at once
  · rw [ofMembers?_of_not_isRecord isRecord]
    by_cases named : members.all (·.1.isSome) = true
    · have twice : ¬ (under "detail" members).length ≤ 1 := fun once =>
        isRecord ⟨List.all_eq_true.mp named, List.forall_mem_singleton.mpr once⟩
      rw [if_pos named]
      unfold under at twice
      generalize members.filter (·.1 = some "detail") = found at twice ⊢
      rcases found with _ | ⟨member, _ | ⟨second, others⟩⟩
      · simp at twice
      · simp at twice
      · rfl
    · rw [if_neg named]
      rfl

end Members

/-- A list of one item is read as if the item were the detail; all else has the words of its
detail. -/
theorem detailOfJson?_bind {data : Value} (several : ∀ item, data ≠ .list [item]) :
    (detailOfJson? data).bind (·.bind wording?) = (detail? data).bind wording? := by
  cases data with
  | object members => exact detailOfJson?_object members
  | list items =>
    rcases items with _ | ⟨item, _ | ⟨second, others⟩⟩
    · rfl
    · exact absurd rfl (several item)
    · have long : Json.Record.ofItems? ["detail"] (item :: second :: others) = none :=
        if_pos (by simp)
      rw [detailOfJson?, Json.Record.ofValue?, long]
      rfl
  | _ => rfl

theorem detail?_ne_unreadable (data : Value) : detail? data ≠ some .unreadable := by
  cases data with
  | object members =>
    rw [detail?]
    split
    · split
      · exact Value.settle?_ne_unreadable _ _
      · nofun
    · nofun
  | _ => nofun

end Refusal

namespace Http.Answer

/-- The detail in a body. -/
def detail? (body : Body) : Option Json.Value :=
  (Json.read? (bodyText body)).bind Refusal.detail?

variable {status : Nat} {body : Body}

theorem refusalWording_eq
    (several : ∀ item, Json.read? (bodyText body) ≠ some (.list [item])) :
    refusalWording status body = ((detail? body).bind Refusal.wording?).getD (reason status) := by
  rw [refusalWording, detail?]
  cases read : Json.read? (bodyText body) with
  | none => rfl
  | some data =>
    have alone : ∀ item, data ≠ .list [item] :=
      fun item same => several item (read.trans (congrArg some same))
    exact congrArg (Option.getD · (reason status)) (Refusal.detailOfJson?_bind alone)

/-- No mark in front hides the beginning of an object. -/
theorem bodyText_encode (rest : List Char) :
    bodyText ⟨[Text.Utf8.encode ('{' :: rest)], true⟩ = '{' :: rest := by
  have lossy := Text.Utf8.lossy_encode ('{' :: rest)
  rw [bodyText, if_pos rfl, List.flatten_singleton]
  exact lossy

/-- A body that is written for a detail is read as an object with that detail. -/
theorem read?_written {detail : Json.Value} (plain : detail.IsPlain) :
    let data : Json.Value := .record [("detail", detail)]
    Json.read? (bodyText ⟨[Text.Utf8.encode data.write.toList], true⟩) = some data := by
  intro data
  have record : data.IsPlain := isPlain_fields (by exact ⟨plain, trivial⟩)
  obtain ⟨rest, opened⟩ : ∃ rest, data.write.toList = '{' :: rest := by
    rw [Json.Value.write, String.toList_ofList]
    exact ⟨_, rfl⟩
  rw [opened, bodyText_encode, ← opened, record.read?_write]

theorem check_refused (refused : isSuccess status = false) (body : Body) :
    (answered status body).check = .error (.refusal status (refusalWording status body)) := by
  rw [check, refused]
  rfl

theorem decode_refused {α : Type} (refused : isSuccess status = false) (body : Body)
    (read : Json.Value → Option α) : (answered status body).decode read =
      .error (.refusal status (refusalWording status body)) := by
  rw [decode, check_refused refused]
  rfl

/-- A call that is answered without success fails with the status, whatever else is in the answer,
and with a message that can be read: that of the detail, or the phrase for the status. -/
theorem refused_words (status : Nat) (body : Body) (refused : isSuccess status = false) :
    ∃ message,
      (∀ {α : Type} (read : Json.Value → Option α),
        (answered status body).decode read = .error (.refusal status message)) ∧
      (answered status body).events = .error (.refusal status message) ∧
      (Refusal.IsSeen (detail? body) →
        (∀ item, Json.read? (bodyText body) ≠ some (.list [item])) →
        Refusal.Words status (detail? body) message ∧ Text.isBlank message = false) := by
  refine ⟨refusalWording status body, decode_refused refused body, ?_, ?_⟩
  · rw [events, check_refused refused]
    rfl
  · intro seen several
    have kept : detail? body ≠ some .unreadable := by
      intro unreadable
      obtain ⟨data, -, given⟩ := Option.bind_eq_some_iff.mp unreadable
      exact Refusal.detail?_ne_unreadable data given
    have words : Refusal.Words status (detail? body) (refusalWording status body) := by
      rw [refusalWording_eq several]
      exact seen.words kept
    exact ⟨words, words.isBlank⟩

theorem refused_words_of_findings :
    let finding (text : String) : Json.Value := .record [("msg", .text text)]
    let detail : Json.Value := .list [finding "too high", finding ""]
    let body : Body :=
      ⟨[Text.Utf8.encode (Json.Value.record [("detail", detail)]).write.toList], true⟩
    (answered 422 body).run = .error (.refusal 422 "too high; ") := by
  intro finding detail body
  have plainly (text : String) : (Json.Value.record [("msg", .text text)]).IsPlain := by
    apply isPlain_fields
    exact ⟨.text text, trivial⟩
  have plain : detail.IsPlain := by
    apply Json.Value.IsPlain.list
    exact List.forall_mem_cons.mpr ⟨plainly _, List.forall_mem_singleton.mpr (plainly _)⟩
  have read := read?_written plain
  have given : detail? body = some (.list [finding "too high", finding ""]) := by
    rw [detail?, read]
    rfl
  have messages : Refusal.messages [finding "too high", finding ""] = ["too high", ""] := by
    decide +kernel
  have seen : Refusal.IsSeen (detail? body) := by
    rw [given]
    refine ⟨fun _ same => Json.Value.noConfusion (Option.some.inj same), ?_⟩
    intro findings same
    rw [← Json.Value.list.inj (Option.some.inj same), messages]
    exact .inr ⟨"too high", List.mem_cons_self .., by decide⟩
  obtain ⟨message, run, -, worded⟩ := refused_words 422 body rfl
  have words := (worded seen (by rw [read]; nofun)).1
  rw [given] at words
  have same : message = "too high; " := by
    cases words with
    | findings =>
      rw [messages]
      decide +kernel
    | unfound blank =>
      rw [messages] at blank
      exact absurd (blank "too high" (List.mem_cons_self ..)) (by decide)
  rw [same] at run
  exact run Run.ofJson?

/-- A finding with an empty text leaves a refusal without a message, a blank detail is quoted, and
what stands alone in a list is read as a detail. -/
theorem refused_without_words :
    let refusing (status : Nat) (written : String) : Except Fault Run :=
      (answered status ⟨[Text.Utf8.encode written.toList], true⟩).run
    refusing 422 "\x7b\"detail\": [\x7b\"msg\": \"\"\x7d]\x7d" = .error (.refusal 422 "") ∧
      refusing 404 "\x7b\"detail\": \" \"\x7d" = .error (.refusal 404 "\" \"") ∧
      refusing 404 "[\"gone\"]" = .error (.refusal 404 "gone") := by
  intro refusing
  have refusal (status : Nat) (written : String) (refused : isSuccess status = false) :
      refusing status written = .error (.refusal status
        (refusalWording status ⟨[Text.Utf8.encode written.toList], true⟩)) :=
    decode_refused refused _ Run.ofJson?
  refine ⟨?_, ?_, ?_⟩
  · rw [refusal 422 _ rfl]
    decide +kernel
  · rw [refusal 404 _ rfl]
    decide +kernel
  · rw [refusal 404 _ rfl]
    decide +kernel

end Http.Answer
end Cupping

import Cupping.Json.Reading
import Cupping.Proofs.Json.Lexemes

/-!
The grammar of JSON text, and that the reader accepts exactly the texts of the grammar: every text
of a value is read as that value, and what is read as a value is a text of it.
-/

namespace Cupping.Json

/-- Lists of tokens with commas between them. -/
def separated : List (List Token) → List Token
  | [] => []
  | first :: rest => first ++ rest.flatMap (.comma :: ·)

/-- Behind the last part there is a comma for every other one. -/
theorem separated_append (parts : List (List Token)) (last : List Token) :
    separated (parts ++ [last]) = parts.flatMap (· ++ [.comma]) ++ last := by
  induction parts with
  | nil => exact List.append_nil last
  | cons first rest ih =>
    cases rest with
    | nil => simp [separated]
    | cons second more =>
      simp only [List.cons_append, separated, List.flatMap_cons] at ih ⊢
      rw [ih]
      simp

theorem separated_comma {parts : List (List Token)} (filled : parts ≠ []) :
    separated parts ++ [.comma] = parts.flatMap (· ++ [.comma]) := by
  rw [← List.dropLast_append_getLast filled, separated_append, List.flatMap_append]
  simp

/-- The tokens of a member whose value has some tokens. -/
def memberTokens (part : (Option String × Value) × List Token) : List Token :=
  .text part.1.1 :: .colon :: part.2

/-- The grammar of JSON, in tokens. A part of a list or of an object is given with its tokens. -/
inductive Value.HasTokens : Value → List Token → Prop
  | word {word : List Char} {value : Value} (named : ofWord? word = some value) :
      HasTokens value [.word word]
  | text (content : String) : HasTokens (text content) [.text (some content)]
  | unreadable : HasTokens unreadable [.text none]
  | list {parts : List (Value × List Token)} (each : ∀ part ∈ parts, HasTokens part.1 part.2) :
      HasTokens (list (parts.map Prod.fst))
        (.beginList :: separated (parts.map Prod.snd) ++ [.endList])
  | object {parts : List ((Option String × Value) × List Token)}
      (each : ∀ part ∈ parts, HasTokens part.1.2 part.2) :
      HasTokens (object (parts.map Prod.fst))
        (.beginObject :: separated (parts.map memberTokens) ++ [.endObject])

/-- Whether a text is a JSON text of a value: it spells tokens that the value has by the grammar. -/
def IsTextOf (value : Value) (text : List Char) : Prop :=
  ∃ tokens, value.HasTokens tokens ∧ Token.AreSpelled tokens text

namespace Reading

/-! From the tokens of a value to the value. -/

/-- A kind of brackets, with what the parser does at them. -/
structure Enclosure (α : Type) where
  opening : Token
  closing : Token
  /-- The open list or object with its finished parts in reverse. -/
  frame : List α → Frame
  /-- What waits for the next part; only at first the brackets can close instead. -/
  awaiting : Bool → Awaiting
  whole : List α → Value
  opens : ∀ frames canClose, Parsing.next ⟨frames, .value canClose⟩ opening =
    some ⟨frame [] :: frames, awaiting true⟩
  closes_empty : ∀ frames, Parsing.next ⟨frame [] :: frames, awaiting true⟩ closing =
    Parsing.accept (whole []) frames
  closes : ∀ done frames, Parsing.next ⟨frame done :: frames, .separator⟩ closing =
    Parsing.accept (whole done.reverse) frames
  separates : ∀ done frames, Parsing.next ⟨frame done :: frames, .separator⟩ .comma =
    some ⟨frame done :: frames, awaiting false⟩

namespace Enclosure

def list : Enclosure Value where
  opening := .beginList
  closing := .endList
  frame := .list
  awaiting := .value
  whole := .list
  opens _ canClose := by cases canClose <;> rfl
  closes_empty _ := rfl
  closes _ _ := rfl
  separates _ _ := rfl

def object : Enclosure (Option String × Value) where
  opening := .beginObject
  closing := .endObject
  frame := .object
  awaiting := .name
  whole := .object
  opens _ canClose := by cases canClose <;> rfl
  closes_empty _ := rfl
  closes _ _ := rfl
  separates _ _ := rfl

variable {α : Type} (kind : Enclosure α)

/-- Whether the tokens of a part add it to the open brackets. -/
def Takes (part : α) (tokens : List Token) : Prop :=
  ∀ done frames canClose rest,
    readTokens ⟨kind.frame done :: frames, kind.awaiting canClose⟩ (tokens ++ rest) =
      readTokens ⟨kind.frame (part :: done) :: frames, .separator⟩ rest

/-- The parts behind the first one, up to the closing bracket. -/
theorem readTokens_parts {β : Type} {part : β → α} {tokens : β → List Token} {parts : List β}
    (each : ∀ b ∈ parts, kind.Takes (part b) (tokens b)) (done : List α) (frames : List Frame)
    (rest : List Token) :
    readTokens ⟨kind.frame done :: frames, .separator⟩
        ((parts.map tokens).flatMap (.comma :: ·) ++ kind.closing :: rest) =
      (Parsing.accept (kind.whole (done.reverse ++ parts.map part)) frames).bind fun parsing =>
        readTokens parsing rest := by
  induction parts generalizing done with
  | nil =>
    rw [List.map_nil, List.flatMap_nil, List.nil_append, readTokens_cons, kind.closes,
      List.map_nil, List.append_nil]
  | cons b more ih =>
    obtain ⟨here, later⟩ := List.forall_mem_cons.mp each
    rw [List.map_cons, List.flatMap_cons, List.cons_append, List.cons_append, List.append_assoc,
      readTokens_cons, kind.separates, Option.bind_some, here, ih later, List.map_cons,
      List.reverse_cons, List.append_assoc, List.singleton_append]

theorem readTokens_whole {β : Type} {part : β → α} {tokens : β → List Token} {parts : List β}
    (each : ∀ b ∈ parts, kind.Takes (part b) (tokens b)) (frames : List Frame) (canClose : Bool)
    (rest : List Token) :
    readTokens ⟨frames, .value canClose⟩
        (kind.opening :: separated (parts.map tokens) ++ [kind.closing] ++ rest) =
      (Parsing.accept (kind.whole (parts.map part)) frames).bind fun parsing =>
        readTokens parsing rest := by
  rw [List.append_assoc, List.cons_append, readTokens_cons, kind.opens, Option.bind_some,
    List.singleton_append]
  cases parts with
  | nil => rw [List.map_nil, separated, List.nil_append, readTokens_cons, kind.closes_empty,
      List.map_nil]
  | cons b more =>
    obtain ⟨here, later⟩ := List.forall_mem_cons.mp each
    rw [List.map_cons, separated, List.append_assoc, here, kind.readTokens_parts later,
      List.map_cons, List.reverse_singleton, List.singleton_append]

end Enclosure

/-- The tokens of a value are accepted where a value is expected, whatever follows. -/
theorem readTokens_hasTokens {value : Value} {tokens : List Token} (has : value.HasTokens tokens)
    (frames : List Frame) (canClose : Bool) (rest : List Token) :
    readTokens ⟨frames, .value canClose⟩ (tokens ++ rest) =
      (Parsing.accept value frames).bind fun parsing => readTokens parsing rest := by
  induction has generalizing frames canClose rest with
  | @word word value named =>
    have accepted : Parsing.next ⟨frames, .value canClose⟩ (.word word) =
        Parsing.accept value frames := by
      cases canClose <;> simp [Parsing.next, Parsing.beginValue, named]
    rw [List.singleton_append, readTokens_cons, accepted]
  | text content =>
    have accepted : Parsing.next ⟨frames, .value canClose⟩ (.text (some content)) =
        Parsing.accept (.text content) frames := by
      cases canClose <;> rfl
    rw [List.singleton_append, readTokens_cons, accepted]
  | unreadable =>
    have accepted : Parsing.next ⟨frames, .value canClose⟩ (.text none) =
        Parsing.accept .unreadable frames := by
      cases canClose <;> rfl
    rw [List.singleton_append, readTokens_cons, accepted]
  | list each ih =>
    refine Enclosure.list.readTokens_whole (fun part member => ?_) frames canClose rest
    intro done outer first more
    exact ih part member _ first more
  | object each ih =>
    refine Enclosure.object.readTokens_whole (fun part member => ?_) frames canClose rest
    intro done outer first more
    have named : Parsing.next ⟨.object done :: outer, .name first⟩ (.text part.1.1) =
        some ⟨.object done :: outer, .colon part.1.1⟩ := by
      cases first <;> rfl
    have colon : Parsing.next ⟨.object done :: outer, .colon part.1.1⟩ .colon =
        some ⟨.member done part.1.1 :: outer, .value false⟩ := rfl
    rw [memberTokens, List.cons_append, List.cons_append, readTokens_cons]
    refine (congrArg (Option.bind · _) named).trans ?_
    rw [Option.bind_some, readTokens_cons, colon, Option.bind_some, ih part member]
    rfl

/-! From the value to the tokens that it has been read from. -/

/-- The tokens that have been read of the open lists and objects, up to where a value is expected
next. -/
inductive Opened : List Frame → List Token → Prop
  | nil : Opened [] []
  | list {outer : List Frame} {before : List Token} {parts : List (Value × List Token)}
      (stack : Opened outer before) (each : ∀ part ∈ parts, part.1.HasTokens part.2) :
      Opened (.list (parts.map Prod.fst).reverse :: outer)
        (before ++ .beginList :: (parts.map Prod.snd).flatMap (· ++ [.comma]))
  | member {outer : List Frame} {before : List Token}
      {parts : List ((Option String × Value) × List Token)} (stack : Opened outer before)
      (each : ∀ part ∈ parts, part.1.2.HasTokens part.2) (name : Option String) :
      Opened (.member (parts.map Prod.fst).reverse name :: outer)
        (before ++ .beginObject :: (parts.map memberTokens).flatMap (· ++ [.comma]) ++
          [.text name, .colon])

/-- The tokens that have led to a state of the parser. -/
inductive LeadsTo : List Token → Parsing → Prop
  | value {frames : List Frame} {before : List Token} (stack : Opened frames before) :
      LeadsTo before ⟨frames, .value false⟩
  | item {outer : List Frame} {before : List Token} (stack : Opened outer before) :
      LeadsTo (before ++ [.beginList]) ⟨.list [] :: outer, .value true⟩
  | afterItem {outer : List Frame} {before : List Token} {parts : List (Value × List Token)}
      (stack : Opened outer before) (each : ∀ part ∈ parts, part.1.HasTokens part.2)
      (filled : parts ≠ []) :
      LeadsTo (before ++ .beginList :: separated (parts.map Prod.snd))
        ⟨.list (parts.map Prod.fst).reverse :: outer, .separator⟩
  | name {outer : List Frame} {before : List Token}
      {parts : List ((Option String × Value) × List Token)} (stack : Opened outer before)
      (each : ∀ part ∈ parts, part.1.2.HasTokens part.2) {canClose : Bool}
      (first : canClose = true → parts = []) :
      LeadsTo (before ++ .beginObject :: (parts.map memberTokens).flatMap (· ++ [.comma]))
        ⟨.object (parts.map Prod.fst).reverse :: outer, .name canClose⟩
  | colon {outer : List Frame} {before : List Token}
      {parts : List ((Option String × Value) × List Token)} (stack : Opened outer before)
      (each : ∀ part ∈ parts, part.1.2.HasTokens part.2) (name : Option String) :
      LeadsTo (before ++ .beginObject :: (parts.map memberTokens).flatMap (· ++ [.comma]) ++
          [.text name])
        ⟨.object (parts.map Prod.fst).reverse :: outer, .colon name⟩
  | afterMember {outer : List Frame} {before : List Token}
      {parts : List ((Option String × Value) × List Token)} (stack : Opened outer before)
      (each : ∀ part ∈ parts, part.1.2.HasTokens part.2) (filled : parts ≠ []) :
      LeadsTo (before ++ .beginObject :: separated (parts.map memberTokens))
        ⟨.object (parts.map Prod.fst).reverse :: outer, .separator⟩
  | done {value : Value} {tokens : List Token} (has : value.HasTokens tokens) :
      LeadsTo tokens ⟨[], .nothing value⟩

variable {value : Value} {before tokens : List Token} {frames : List Frame}
  {state after : Parsing} {token : Token}

/-- A value is accepted with its tokens. -/
theorem leadsTo_accept (stack : Opened frames before) (has : value.HasTokens tokens)
    (accepted : Parsing.accept value frames = some after) : LeadsTo (before ++ tokens) after := by
  cases stack with
  | nil =>
    cases accepted
    exact .done has
  | @list outer before parts stack each =>
    cases accepted
    have more := @LeadsTo.afterItem _ _ (parts ++ [(value, tokens)]) stack
      (List.forall_mem_append.mpr ⟨each, List.forall_mem_singleton.mpr has⟩) (by simp)
    simpa [separated_append] using more
  | @member outer before parts stack each name =>
    cases accepted
    have more := @LeadsTo.afterMember _ _ (parts ++ [((name, value), tokens)]) stack
      (List.forall_mem_append.mpr ⟨each, List.forall_mem_singleton.mpr has⟩) (by simp)
    simpa [separated_append, memberTokens] using more

theorem leadsTo_beginValue (stack : Opened frames before)
    (passed : Parsing.beginValue frames token = some after) :
    LeadsTo (before ++ [token]) after := by
  cases token with
  | beginList =>
    cases passed
    exact .item stack
  | beginObject =>
    cases passed
    exact @LeadsTo.name _ _ [] stack (List.forall_mem_nil _) _ fun _ => rfl
  | word letters =>
    obtain ⟨value, named, accepted⟩ := Option.bind_eq_some_iff.mp passed
    exact leadsTo_accept stack (.word named) accepted
  | text content =>
    cases content with
    | none => exact leadsTo_accept stack .unreadable passed
    | some content => exact leadsTo_accept stack (.text content) passed
  | endList => cases passed
  | endObject => cases passed
  | comma => cases passed
  | colon => cases passed

/-- One more token leads on to the next state. -/
theorem leadsTo_next (led : LeadsTo before state) (passed : state.next token = some after) :
    LeadsTo (before ++ [token]) after := by
  cases led with
  | value stack => exact leadsTo_beginValue stack passed
  | @item outer before stack =>
    have begun := @Opened.list _ _ [] stack (List.forall_mem_nil _)
    by_cases closes : token = .endList
    · subst closes
      simpa [separated] using leadsTo_accept stack
        (@Value.HasTokens.list [] (List.forall_mem_nil _)) passed
    · have inside : Parsing.beginValue (.list [] :: outer) token = some after := by
        rw [← passed]
        cases token <;> first | rfl | exact absurd rfl closes
      exact leadsTo_beginValue begun inside
  | afterItem stack each filled =>
    cases token with
    | comma =>
      cases passed
      have more := LeadsTo.value (.list stack each)
      rw [← separated_comma (List.map_eq_nil_iff.not.mpr filled)] at more
      simpa using more
    | endList =>
      have closed : Parsing.accept (.list _) _ = some after := passed
      rw [List.reverse_reverse] at closed
      simpa using leadsTo_accept stack (.list each) closed
    | _ => cases passed
  | @name outer before parts stack each canClose first =>
    cases token with
    | text name =>
      have named : after = ⟨.object (parts.map Prod.fst).reverse :: outer, .colon name⟩ := by
        cases canClose <;> cases passed <;> rfl
      exact named ▸ .colon stack each name
    | endObject =>
      cases canClose with
      | false => cases passed
      | true =>
        cases first rfl
        simpa [separated] using leadsTo_accept stack
          (@Value.HasTokens.object [] (List.forall_mem_nil _)) passed
    | _ => cases canClose <;> cases passed
  | colon stack each name =>
    cases token with
    | colon =>
      cases passed
      simpa using LeadsTo.value (.member stack each name)
    | _ => cases passed
  | afterMember stack each filled =>
    cases token with
    | comma =>
      cases passed
      have more := @LeadsTo.name _ _ _ stack each false nofun
      rw [← separated_comma (List.map_eq_nil_iff.not.mpr filled)] at more
      simpa using more
    | endObject =>
      have closed : Parsing.accept (.object _) _ = some after := passed
      rw [List.reverse_reverse] at closed
      simpa using leadsTo_accept stack (.object each) closed
    | _ => cases passed
  | done has => cases token <;> cases passed

/-- A whole list of tokens leads on to the state behind it. -/
theorem leadsTo_foldlM (led : LeadsTo before state)
    (passed : tokens.foldlM Parsing.next state = some after) :
    LeadsTo (before ++ tokens) after := by
  induction tokens generalizing before state with
  | nil =>
    cases passed
    rwa [List.append_nil]
  | cons token rest ih =>
    obtain ⟨middle, first, later⟩ := Option.bind_eq_some_iff.mp passed
    simpa using ih (leadsTo_next led first) later

/-- What the parser makes a value of are the tokens of the value. -/
theorem hasTokens_of_readTokens (passed : readTokens .initial tokens = some value) :
    value.HasTokens tokens := by
  obtain ⟨last, ran, resulted⟩ := Option.bind_eq_some_iff.mp passed
  have led : LeadsTo tokens last := leadsTo_foldlM (.value .nil) ran
  cases led with
  | done has =>
    cases resulted
    exact has
  | _ => cases resulted

end Reading

/-- The reader reads a value from the texts of the value, and from no others. -/
theorem read?_eq_some_iff {text : List Char} {value : Value} :
    read? text = some value ↔ IsTextOf value text := by
  rw [read?_eq_some_iff_tokens]
  refine exists_congr fun tokens => ?_
  rw [and_comm]
  refine and_congr_left fun _ => ⟨Reading.hasTokens_of_readTokens, fun has => ?_⟩
  have read := Reading.readTokens_hasTokens has [] false []
  rwa [List.append_nil] at read

end Cupping.Json

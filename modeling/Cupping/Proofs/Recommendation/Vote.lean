import Cupping.Proofs.Recommendation.Choice
import Cupping.Proofs.Recommendation.Elite

/-!
The vote on a category. Votes are told apart by their texts: the text that occurs most often wins,
of equally frequent ones the one that came up first, with the value it came up with.
-/

namespace Cupping.Recommendation

/-- The values that trials have for a parameter, in the order of the trials. -/
def votes (trials : List Trial) (name : String) : List Cell :=
  trials.filterMap (·.row.get? name)

/-- Whether a text leads a list of texts: no other one occurs more often, and those that occur as
often come up later. -/
structure Leads (texts : List String) (text : String) : Prop where
  present : text ∈ texts
  most : ∀ other, texts.count other ≤ texts.count text
  earliest : ∀ other, other ≠ text → texts.count other = texts.count text →
    texts.idxOf text < texts.idxOf other

theorem Leads.unique {texts : List String} {text other : String} (leads : Leads texts text)
    (another : Leads texts other) : text = other := by
  by_contra different
  have same : texts.count other = texts.count text :=
    Nat.le_antisymm (leads.most other) (another.most text)
  have before := leads.earliest other (Ne.symm different) same
  have after := another.earliest text different same.symm
  omega

/-! Counting a vote. -/

/-- A candidate after a vote for some text. -/
def Candidate.after (text : String) (candidate : Candidate) : Candidate :=
  if candidate.text = text then { candidate with votes := candidate.votes + 1 } else candidate

@[simp]
theorem Candidate.text_after (text : String) (candidate : Candidate) :
    (candidate.after text).text = candidate.text := by
  unfold after
  split <;> rfl

@[simp]
theorem Candidate.value_after (text : String) (candidate : Candidate) :
    (candidate.after text).value = candidate.value := by
  unfold after
  split <;> rfl

variable {value : Cell} {values : List Cell} {candidates : List Candidate} {winner : Candidate}

theorem Candidate.votes_after (text : String) (candidate : Candidate) :
    (candidate.after text).votes =
      candidate.votes + if candidate.text = text then 1 else 0 := by
  unfold after
  split <;> rfl

theorem countVote_of_new (new : ∀ candidate ∈ candidates, candidate.text ≠ value.display) :
    countVote value candidates = candidates ++ [⟨value.display, value, 1⟩] := by
  induction candidates with
  | nil => rfl
  | cons candidate rest ih =>
    obtain ⟨different, others⟩ := List.forall_mem_cons.mp new
    rw [countVote, if_neg different, ih others]
    rfl

theorem countVote_of_known (distinct : (candidates.map Candidate.text).Nodup)
    (known : value.display ∈ candidates.map Candidate.text) :
    countVote value candidates = candidates.map (Candidate.after value.display) := by
  induction candidates with
  | nil => cases known
  | cons candidate rest ih =>
    obtain ⟨apart, others⟩ := List.nodup_cons.mp distinct
    by_cases same : candidate.text = value.display
    · have kept : rest.map (Candidate.after value.display) = rest := by
        conv_rhs => rw [← List.map_id rest]
        apply List.map_congr_left
        intro other member
        have different : other.text ≠ value.display := by
          intro equal
          exact apart (same.trans equal.symm ▸ List.mem_map_of_mem member)
        rw [Candidate.after, if_neg different, id]
      rw [countVote, if_pos same, List.map_cons, kept, Candidate.after, if_pos same]
    · have later : value.display ∈ rest.map Candidate.text := by
        rcases List.mem_cons.mp known with first | later
        · exact absurd first.symm same
        · exact later
      rw [countVote, if_neg same, List.map_cons, ih others later, Candidate.after, if_neg same]

/-- What a tally knows of the votes: how many there are for each text, with which value the text
came up, and in which order the texts did. -/
structure Tallies (values : List Cell) (candidates : List Candidate) : Prop where
  counted : ∀ candidate ∈ candidates,
    candidate.votes = (values.map Cell.display).count candidate.text
  valued : ∀ candidate ∈ candidates,
    values.find? (·.display = candidate.text) = some candidate.value
  complete : ∀ text ∈ values.map Cell.display, text ∈ candidates.map Candidate.text
  ordered : candidates.Pairwise fun a b =>
    (values.map Cell.display).idxOf a.text < (values.map Cell.display).idxOf b.text

namespace Tallies

theorem distinct (tallies : Tallies values candidates) :
    (candidates.map Candidate.text).Nodup := by
  apply List.pairwise_map.mpr
  apply tallies.ordered.imp
  intro a b before same
  rw [same] at before
  exact Nat.lt_irrefl _ before

/-- Only texts that came up are candidates. -/
theorem text_mem (tallies : Tallies values candidates) {candidate : Candidate}
    (member : candidate ∈ candidates) : candidate.text ∈ values.map Cell.display := by
  have found := tallies.valued candidate member
  have same : candidate.value.display = candidate.text := by simpa using List.find?_some found
  rw [← same]
  exact List.mem_map_of_mem (List.mem_of_find?_eq_some found)

/-- The texts that have come up keep their places when another vote is counted. -/
theorem ordered_append (tallies : Tallies values candidates) (value : Cell) :
    candidates.Pairwise fun a b =>
      ((values ++ [value]).map Cell.display).idxOf a.text <
        ((values ++ [value]).map Cell.display).idxOf b.text := by
  apply tallies.ordered.imp_of_mem
  intro a b first second before
  rw [List.map_append, List.idxOf_append_of_mem (tallies.text_mem first),
    List.idxOf_append_of_mem (tallies.text_mem second)]
  exact before

theorem valued_append (tallies : Tallies values candidates) {candidate : Candidate}
    (member : candidate ∈ candidates) (value : Cell) :
    (values ++ [value]).find? (·.display = candidate.text) = some candidate.value := by
  rw [List.find?_append, tallies.valued candidate member, Option.some_or]

theorem step_of_known (tallies : Tallies values candidates)
    (known : value.display ∈ candidates.map Candidate.text) :
    Tallies (values ++ [value]) (candidates.map (Candidate.after value.display)) := by
  have texts : (candidates.map (Candidate.after value.display)).map Candidate.text =
      candidates.map Candidate.text := by
    rw [List.map_map]
    exact List.map_congr_left fun candidate _ => Candidate.text_after value.display candidate
  refine ⟨?counted, ?valued, ?complete, ?ordered⟩
  case counted =>
    intro candidate member
    obtain ⟨old, there, rfl⟩ := List.mem_map.mp member
    rw [Candidate.votes_after, Candidate.text_after, tallies.counted old there, List.map_append,
      List.count_append, List.map_singleton, List.count_singleton]
    simp only [beq_iff_eq]
    by_cases same : old.text = value.display
    · rw [if_pos same, if_pos same.symm]
    · rw [if_neg same, if_neg (Ne.symm same)]
  case valued =>
    intro candidate member
    obtain ⟨old, there, rfl⟩ := List.mem_map.mp member
    rw [Candidate.text_after, Candidate.value_after]
    exact tallies.valued_append there value
  case complete =>
    intro text member
    rw [texts]
    rw [List.map_append, List.map_singleton, List.mem_append, List.mem_singleton] at member
    rcases member with earlier | rfl
    · exact tallies.complete text earlier
    · exact known
  case ordered =>
    apply List.pairwise_map.mpr
    apply (tallies.ordered_append value).imp
    intro a b before
    rwa [Candidate.text_after, Candidate.text_after]

theorem step_of_new (tallies : Tallies values candidates)
    (new : value.display ∉ candidates.map Candidate.text) :
    Tallies (values ++ [value]) (candidates ++ [⟨value.display, value, 1⟩]) := by
  have unseen : value.display ∉ values.map Cell.display :=
    fun member => new (tallies.complete _ member)
  refine ⟨?counted, ?valued, ?complete, ?ordered⟩
  case counted =>
    intro candidate member
    rw [List.map_append, List.count_append, List.map_singleton, List.count_singleton]
    simp only [beq_iff_eq]
    rcases List.mem_append.mp member with old | fresh
    · have different : value.display ≠ candidate.text :=
        fun same => new (same ▸ List.mem_map_of_mem old)
      rw [tallies.counted candidate old, if_neg different, Nat.add_zero]
    · rw [List.mem_singleton.mp fresh, List.count_eq_zero.mpr unseen, if_pos rfl]
  case valued =>
    intro candidate member
    rcases List.mem_append.mp member with old | fresh
    · exact tallies.valued_append old value
    · have none : values.find? (·.display = value.display) = none := by
        apply List.find?_eq_none.mpr
        intro other there same
        exact unseen (of_decide_eq_true same ▸ List.mem_map_of_mem there)
      rw [List.mem_singleton.mp fresh, List.find?_append, none]
      simp
  case complete =>
    intro text member
    rw [List.map_append, List.map_singleton, List.mem_append] at member ⊢
    exact member.imp_left (tallies.complete text)
  case ordered =>
    apply List.pairwise_append.mpr
    refine ⟨tallies.ordered_append value, List.pairwise_singleton _ _, ?_⟩
    intro candidate old fresh member
    rw [List.mem_singleton.mp member, List.map_append,
      List.idxOf_append_of_mem (tallies.text_mem old), List.idxOf_append_of_notMem unseen]
    exact Nat.lt_add_right _ (List.idxOf_lt_length_of_mem (tallies.text_mem old))

/-- Counting a vote keeps what the tally knows. -/
theorem step (tallies : Tallies values candidates) (value : Cell) :
    Tallies (values ++ [value]) (countVote value candidates) := by
  by_cases known : value.display ∈ candidates.map Candidate.text
  · rw [countVote_of_known tallies.distinct known]
    exact tallies.step_of_known known
  · rw [countVote_of_new fun candidate member same => known (same ▸ List.mem_map_of_mem member)]
    exact tallies.step_of_new known

end Tallies

theorem tallies_tally (values : List Cell) : Tallies values (tally values) := by
  induction values using List.reverseRecOn with
  | nil => exact ⟨nofun, nofun, nofun, .nil⟩
  | append_singleton earlier value ih =>
    have counted : tally (earlier ++ [value]) = countVote value (tally earlier) :=
      List.foldl_append
    rw [counted]
    exact ih.step value

/-! The winner. -/

/-- The winner has more votes than all candidates before it and no fewer than those after it. -/
theorem winner?_split (won : winner? candidates = some winner) :
    ∃ before after, candidates = before ++ winner :: after ∧
      (∀ candidate ∈ before, candidate.votes < winner.votes) ∧
      ∀ candidate ∈ after, candidate.votes ≤ winner.votes := by
  cases candidates with
  | nil => cases won
  | cons first rest =>
    induction rest using List.reverseRecOn generalizing winner with
    | nil =>
      cases won
      exact ⟨[], [], rfl, nofun, nofun⟩
    | append_singleton earlier last ih =>
      rw [winner?, List.foldl_append, Option.some_inj] at won
      obtain ⟨before, after, split, more, most⟩ := ih rfl
      generalize earlier.foldl _ first = leader at won split more most
      rw [← List.cons_append, split]
      by_cases overtaken : leader.votes < last.votes
      · have last : last = winner := by simpa [overtaken] using won
        subst last
        refine ⟨before ++ leader :: after, [], by simp, ?_, nofun⟩
        intro candidate member
        rcases List.mem_append.mp member with early | late
        · exact (more candidate early).trans overtaken
        · rcases List.mem_cons.mp late with rfl | late
          · exact overtaken
          · exact (most candidate late).trans_lt overtaken
      · have kept : leader = winner := by simpa [overtaken] using won
        subst kept
        refine ⟨before, after ++ [last], by simp, more, ?_⟩
        intro candidate member
        rcases List.mem_append.mp member with early | late
        · exact most candidate early
        · rw [List.mem_singleton.mp late]
          exact Nat.le_of_not_lt overtaken

theorem Tallies.leads (tallies : Tallies values candidates)
    (won : winner? candidates = some winner) :
    winner ∈ candidates ∧ Leads (values.map Cell.display) winner.text := by
  obtain ⟨before, after, rfl, more, most⟩ := winner?_split won
  have member : winner ∈ before ++ winner :: after :=
    List.mem_append_right before (List.mem_cons_self ..)
  have counted := tallies.counted winner member
  have candidate_of_present : ∀ text ∈ values.map Cell.display,
      ∃ candidate ∈ before ++ winner :: after,
        candidate.text = text ∧ candidate.votes = (values.map Cell.display).count text := by
    intro text present
    obtain ⟨candidate, there, rfl⟩ := List.mem_map.mp (tallies.complete text present)
    exact ⟨candidate, there, rfl, tallies.counted candidate there⟩
  refine ⟨member, tallies.text_mem member, ?_, ?_⟩
  · intro other
    by_cases present : other ∈ values.map Cell.display
    · obtain ⟨candidate, there, rfl, votes⟩ := candidate_of_present other present
      rw [← votes, ← counted]
      rcases List.mem_append.mp there with early | late
      · exact (more candidate early).le
      · rcases List.mem_cons.mp late with rfl | late
        · exact le_rfl
        · exact most candidate late
    · rw [List.count_eq_zero.mpr present]
      exact Nat.zero_le _
  · intro other different same
    have present : other ∈ values.map Cell.display := by
      apply List.count_pos_iff.mp
      rw [same]
      exact List.count_pos_iff.mpr (tallies.text_mem member)
    obtain ⟨candidate, there, rfl, votes⟩ := candidate_of_present other present
    rcases List.mem_append.mp there with early | late
    · have fewer := more candidate early
      omega
    · rcases List.mem_cons.mp late with rfl | late
      · exact absurd rfl different
      · have ordered := (List.pairwise_append.mp tallies.ordered).2.1
        exact (List.pairwise_cons.mp ordered).1 candidate late

/-! The vote as a whole. -/

section Vote

variable {trials : List Trial} {name : String}

theorem votes_eq_nil_iff : votes trials name = [] ↔ ∀ trial ∈ trials, trial.row.get? name = none :=
  List.filterMap_eq_nil_iff

theorem pluralityVote?_eq_none_iff :
    pluralityVote? trials name = none ↔ ∀ trial ∈ trials, trial.row.get? name = none := by
  rw [← votes_eq_nil_iff, pluralityVote?, Option.map_eq_none_iff]
  constructor
  · intro none
    by_contra voted
    have some := winner?_isSome (tally_ne_nil voted)
    rw [votes, none] at some
    cases some
  · intro unvoted
    rw [← votes, unvoted]
    rfl

/-- A vote returns the value with which the text came up that leads the texts. -/
theorem leads_of_pluralityVote? (voted : pluralityVote? trials name = some value) :
    ∃ text, Leads ((votes trials name).map Cell.display) text ∧
      (votes trials name).find? (·.display = text) = some value := by
  obtain ⟨winner, won, rfl⟩ := Option.map_eq_some_iff.mp voted
  have tallies := tallies_tally (votes trials name)
  obtain ⟨member, leads⟩ := tallies.leads won
  exact ⟨winner.text, leads, tallies.valued winner member⟩

/-- A vote is won by one of the values that were voted for. -/
theorem mem_of_pluralityVote? (voted : pluralityVote? trials name = some value) :
    ∃ trial ∈ trials, trial.row.get? name = some value := by
  obtain ⟨text, -, found⟩ := leads_of_pluralityVote? voted
  exact List.mem_filterMap.mp (List.mem_of_find?_eq_some found)

theorem pluralityVote?_of_leads {text : String}
    (leads : Leads ((votes trials name).map Cell.display) text)
    (found : (votes trials name).find? (·.display = text) = some value) :
    pluralityVote? trials name = some value := by
  cases voted : pluralityVote? trials name with
  | none =>
    rw [votes_eq_nil_iff.mpr (pluralityVote?_eq_none_iff.mp voted)] at found
    cases found
  | some other =>
    obtain ⟨winning, another, first⟩ := leads_of_pluralityVote? voted
    rw [another.unique leads] at first
    rw [← first, found]

/-- Whether all that describes the parameter of a name makes it a category: with one description for
each name, whether that one does. -/
def IsCategory (parameters : List Parameter) (name : String) : Prop :=
  (∃ parameter ∈ parameters, parameter.name = name) ∧
    ∀ parameter ∈ parameters, parameter.name = name → parameter.kind = .category

theorem choice?_category {parameter : Parameter} (category : parameter.kind = .category)
    (trials : List Trial) (weight : Float) :
    choice? trials weight false parameter = pluralityVote? (elite trials) parameter.name := by
  cases trials with
  | nil => rfl
  | cons best rest => simp [choice?, suggest?, category]

theorem get?_choices_of_category {fixed : ParameterSet} {parameters : List Parameter}
    (category : IsCategory parameters name) (free : fixed.contains name = false)
    (trials : List Trial) (weight : Float) :
    (choices trials fixed parameters weight false).get? name =
      pluralityVote? (elite trials) name := by
  obtain ⟨⟨parameter, member, rfl⟩, categories⟩ := category
  rw [← choice?_category (categories parameter member rfl) trials weight]
  apply NameMap.get?_ofList_filterMap (List.mem_filter.mpr ⟨member, by simp [free]⟩)
  intro other listed same
  have described := categories other (List.mem_filter.mp listed).1 same
  rw [choice?_category described, choice?_category (categories parameter member rfl), same]

end Vote

/-- The suggestion for a category is the plurality vote of the elite, a quarter of the ranked
trials: nothing where no trial has a value, and otherwise the first value whose text leads. The
quarter is taken of the number of trials as a double, which is that number up to `2 ^ 53`. -/
theorem recommend_votes (trials : List Trial) (name : String) :
    (pluralityVote? trials name = none ↔ ∀ trial ∈ trials, trial.row.get? name = none) ∧
    (∀ value, pluralityVote? trials name = some value ↔
      ∃ text, Leads ((votes trials name).map Cell.display) text ∧
        (votes trials name).find? (·.display = text) = some value) ∧
    ∀ fixed parameters weight, isWeight weight = true → IsCategory parameters name →
      fixed.contains name = false →
      ∃ next, recommend trials fixed parameters weight false = .ok next ∧
        (trials.length ≤ 2 ^ 53 → next.get? name =
          pluralityVote? (trials.take (min trials.length (max 3 (trials.length / 4)))) name) ∧
        (trials.length < 2 ^ 64 → next.get? name =
          pluralityVote? (trials.take (min trials.length
            (max 3 ⌊Binary64.value (Float.ofNat trials.length) / 4⌋₊))) name) := by
  refine ⟨pluralityVote?_eq_none_iff, ?_, ?_⟩
  · intro value
    constructor
    · exact leads_of_pluralityVote?
    · rintro ⟨text, leads, found⟩
      exact pluralityVote?_of_leads leads found
  · intro fixed parameters weight possible category free
    have voted : (choices trials fixed parameters weight false).get? name =
        pluralityVote? (elite trials) name := get?_choices_of_category category free trials weight
    refine ⟨_, recommend_eq possible trials fixed parameters false, fun few => ?_, fun fits => ?_⟩
    · rw [voted, elite, eliteCount_eq (few.trans_lt (by norm_num)), floor_quarter few, min_comm]
    · rw [voted, elite, eliteCount_eq fits, min_comm]

theorem recommend_votes_of_three :
    let brew (place : Nat) (filter : String) : Trial :=
      ⟨place, 8, .ofList [("filter", .text filter)]⟩
    let trials := [brew 4 "metal", brew 1 "paper", brew 7 "cloth", brew 0 "cloth"]
    let parameter : Parameter := ⟨"filter", .category, none, none⟩
    ∃ next, recommend trials .empty [parameter] 0.5 false = .ok next ∧
      next.get? "filter" = some (.text "metal") := by
  intro brew trials parameter
  have category : IsCategory [parameter] "filter" := by
    simp [IsCategory, parameter]
  obtain ⟨-, -, recommended⟩ := recommend_votes trials "filter"
  obtain ⟨next, made, voted, -⟩ :=
    recommended .empty [parameter] 0.5 (by decide) category rfl
  refine ⟨next, made, ?_⟩
  rw [voted (by decide)]
  decide

end Cupping.Recommendation

import Cupping.Proofs.Recommendation.Relevance

/-!
The order in which brews are logged. Rows may come in any order: as long as the same row is held
fixed and no two objectives are equal, they are ranked alike, and the advice on them is the same.
-/

namespace Cupping

/-- Sorting does not depend on the order of what is sorted, where no two of it are equal in the
order. -/
theorem mergeSort_eq_of_perm {α : Type} {le : α → α → Bool} {values others : List α}
    (trans : ∀ a b c, le a b → le b c → le a c) (total : ∀ a b, le a b || le b a)
    (untied : ∀ a ∈ values, ∀ b ∈ values, le a b → le b a → a = b) (same : values.Perm others) :
    values.mergeSort le = others.mergeSort le := by
  have sorted : (values.mergeSort le).Perm (others.mergeSort le) :=
    ((List.mergeSort_perm values le).trans same).trans (List.mergeSort_perm others le).symm
  apply sorted.eq_of_pairwise _ (List.pairwise_mergeSort trans total values)
    (List.pairwise_mergeSort trans total others)
  intro a b first second before after
  have there : b ∈ values := same.mem_iff.mpr (List.mem_mergeSort.mp second)
  exact untied a (List.mem_mergeSort.mp first) b there before after

namespace Ranking

variable {method : ScoringMethod} {names scorers : List String} {rows others : List Row}

/-- The ranking has the objectives of the rows, in another order. -/
theorem objectives_perm (method : ScoringMethod) (names scorers : List String)
    (rows : List Row) :
    ((rank method names scorers rows).map Trial.objective).Perm
      ((rows.filterMap (evidence? method names scorers)).map Evidence.objective) := by
  have said := congrArg (List.map Evidence.objective) (map_evidence_rank method names scorers rows)
  rw [List.map_map] at said
  change (rank method names scorers rows).map Trial.objective = _ at said
  rw [said]
  exact (List.mergeSort_perm _ _).map Evidence.objective

/-- Rows in another order are ranked alike, unless objectives are equal. -/
theorem map_evidence_rank_of_perm (shuffled : rows.Perm others)
    (untied : ((rank method names scorers rows).map Trial.objective).Nodup) :
    (rank method names scorers rows).map (Trial.evidence names) =
      (rank method names scorers others).map (Trial.evidence names) := by
  have distinct := (objectives_perm method names scorers rows).nodup_iff.mp untied
  rw [map_evidence_rank, map_evidence_rank]
  apply mergeSort_eq_of_perm
  · intro a b c first second
    exact Binary64.totalLe_trans _ _ _ second first
  · intro a b
    exact Binary64.totalLe_total _ _
  · intro a first b second before after
    exact List.inj_on_of_nodup_map distinct first second (Binary64.eq_of_totalLe after before)
  · exact shuffled.filterMap _

end Ranking

namespace Advice

variable {dataset : Dataset} {preferences : Preferences} {rows : List Row}

/-- Rows in another order, of which the same is held fixed, get the same advice, unless objectives
are equal. -/
theorem ofDataset_shuffled (possible : Recommendation.isWeight preferences.weight = true)
    (known : ∀ person ∈ preferences.persons, person ∈ dataset.persons)
    (shuffled : dataset.rows.Perm rows)
    (held : rows.find? (!Ranking.isComplete dataset.parameterNames ·) =
      dataset.rows.find? (!Ranking.isComplete dataset.parameterNames ·))
    (untied : ((Ranking.ofDataset dataset preferences.method preferences.persons).trials.map
      Trial.objective).Nodup) :
    ∃ advice changed, ofDataset dataset preferences = .ok advice ∧
      ofDataset { dataset with rows } preferences = .ok changed ∧
      changed.ranking.trials.map Trial.objective = advice.ranking.trials.map Trial.objective ∧
      changed.ranking.fixed = advice.ranking.fixed ∧
      changed.recommendation = advice.recommendation ∧
      changed.response = advice.response := by
  have suitable : preferences.fault? dataset.persons = none :=
    Preferences.fault?_eq_none_iff.mpr ⟨possible, known⟩
  rw [Dataset.trials_withRows dataset preferences dataset.rows] at untied
  have said := Ranking.map_evidence_rank_of_perm shuffled untied
  have fixed : Ranking.fixedParameters dataset.parameterNames rows =
      Ranking.fixedParameters dataset.parameterNames dataset.rows := by
    rw [Ranking.fixedParameters, Ranking.fixedParameters, held]
  have grounds : { dataset with rows }.grounds preferences = dataset.grounds preferences := by
    rw [Dataset.grounds_withRows, Dataset.grounds_withRows dataset preferences dataset.rows,
      Recommendation.leading_congr said, fixed]
  have objectives : (made { dataset with rows } preferences).ranking.trials.map Trial.objective =
      (made dataset preferences).ranking.trials.map Trial.objective :=
    calc (made { dataset with rows } preferences).ranking.trials.map Trial.objective
      _ = ((Ranking.rank preferences.method dataset.parameterNames
            (Ranking.effectiveScorers dataset preferences.persons) rows).map
              (Trial.evidence dataset.parameterNames)).map Evidence.objective := by
        rw [List.map_map]
        exact congrArg _ (Dataset.trials_withRows dataset preferences rows)
      _ = ((Ranking.rank preferences.method dataset.parameterNames
            (Ranking.effectiveScorers dataset preferences.persons) dataset.rows).map
              (Trial.evidence dataset.parameterNames)).map Evidence.objective := by rw [said]
      _ = (made dataset preferences).ranking.trials.map Trial.objective := by
        rw [List.map_map]
        exact congrArg _ (Dataset.trials_withRows dataset preferences dataset.rows).symm
  exact ⟨made dataset preferences, made { dataset with rows } preferences, ofDataset_eq suitable,
    ofDataset_eq suitable, objectives, fixed, recommendation_made_congr rfl grounds,
    response_made_congr rfl grounds⟩

/-- Three ranked rows and the one that is held fixed, logged the other way round. -/
theorem ofDataset_reversed :
    let data := "filter,grind,nick\npaper,18,7\nmetal,20,9\n,22,\npaper,24,8\n"
    let metadata := "type,name,low,high,parameter type\n" ++ "parameter,filter,,,category\n" ++
      "parameter,grind,10,30,int\n" ++ "score,nick,,,\n"
    let fine : Row := .ofList
      [("filter", .text "paper"), ("grind", .number 18), ("nick", .number 7)]
    let best : Row := .ofList
      [("filter", .text "metal"), ("grind", .number 20), ("nick", .number 9)]
    let control : Row := .ofList [("grind", .number 22)]
    let coarse : Row := .ofList
      [("filter", .text "paper"), ("grind", .number 24), ("nick", .number 8)]
    let dataset : Dataset := ⟨"v60.", [fine, best, control, coarse],
      [.category "filter", ⟨"grind", .integer, none, some ⟨10, 30, 1⟩⟩], ["nick"]⟩
    let preferences : Preferences := ⟨.mean, ["nick"], 0.5, false⟩
    Dataset.ofTexts "v60." data metadata = .ok dataset ∧
      ∃ advice changed, ofDataset dataset preferences = .ok advice ∧
        ofDataset { dataset with rows := [coarse, control, best, fine] } preferences =
          .ok changed ∧
        changed.ranking.trials.map Trial.objective = advice.ranking.trials.map Trial.objective ∧
        changed.ranking.fixed = advice.ranking.fixed ∧
        changed.recommendation = advice.recommendation ∧
        changed.response = advice.response := by
  intro data metadata fine best control coarse dataset preferences
  have accepted : Dataset.ofTexts "v60." data metadata = .ok dataset := by decide +kernel
  have possible : Recommendation.isWeight preferences.weight = true := by decide +kernel
  have known : ∀ person ∈ preferences.persons, person ∈ dataset.persons := by decide
  have shuffled : dataset.rows.Perm [coarse, control, best, fine] :=
    (List.reverse_perm [coarse, control, best, fine])
  have held : [coarse, control, best, fine].find?
      (!Ranking.isComplete dataset.parameterNames ·) =
        dataset.rows.find? (!Ranking.isComplete dataset.parameterNames ·) := by decide +kernel
  have objectives : (dataset.rows.filterMap (Ranking.evidence? preferences.method
      dataset.parameterNames ["nick"])).map Evidence.objective = [7, 9, 8] := by decide +kernel
  have untied : ((Ranking.ofDataset dataset preferences.method preferences.persons).trials.map
      Trial.objective).Nodup := by
    rw [Dataset.trials_withRows dataset preferences dataset.rows]
    apply (Ranking.objectives_perm _ _ _ _).nodup_iff.mpr
    rw [show Ranking.effectiveScorers dataset preferences.persons = ["nick"] from rfl, objectives]
    decide +kernel
  exact ⟨accepted, ofDataset_shuffled possible known shuffled held untied⟩

end Advice
end Cupping

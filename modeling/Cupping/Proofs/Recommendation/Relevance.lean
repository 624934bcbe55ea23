import Cupping.Proofs.Recommendation.Evidence
import Mathlib.Logic.Relation

/-!
What does not matter to a recommendation. Cells in columns that it does not read, blank cells, rows
that nobody scored, incomplete rows but the first, and the parameters of ranked rows that are not
looked at can be edited at will, one after the other, and the response stays the same.
-/

namespace Cupping

/-- Whether a row has nothing in a column: no cell, or one of blank text. -/
def Row.IsVacant (row : Row) (field : String) : Prop :=
  (row.cells.get? field).all Cell.isBlank = true

instance (row : Row) (field : String) : Decidable (row.IsVacant field) :=
  inferInstanceAs (Decidable (_ = true))

theorem Row.IsVacant.get?_eq_none {row : Row} {field : String} (vacant : row.IsVacant field) :
    row.get? field = none := by
  rw [IsVacant] at vacant
  rw [get?]
  cases found : row.cells.get? field with
  | none => rfl
  | some cell =>
    rw [found] at vacant
    simpa using vacant

namespace Dataset

section Edit

variable (dataset : Dataset) (preferences : Preferences)

/-- The columns that a recommendation reads: the parameters, and the scores that count. -/
def readColumns : List String :=
  dataset.parameterNames ++ Ranking.effectiveScorers dataset preferences.persons

/-- An edit of the rows of a dataset that does not matter to a recommendation. -/
inductive Edit : List Row → List Row → Prop where
  /-- Cells of a row change, come or go in columns that are not read. -/
  | stray (before : List Row) (row changed : Row) (after : List Row)
      (same : ∀ name ∈ dataset.readColumns preferences,
        changed.cells.get? name = row.cells.get? name) :
      Edit (before ++ row :: after) (before ++ changed :: after)
  /-- Blank cells of a row come or go. -/
  | blank (before : List Row) (row changed : Row) (after : List Row)
      (same : ∀ name, changed.cells.get? name = row.cells.get? name ∨
        row.IsVacant name ∧ changed.IsVacant name) :
      Edit (before ++ row :: after) (before ++ changed :: after)
  /-- A complete row comes that has no number in the scores that count. -/
  | unscored (before : List Row) (row : Row) (after : List Row)
      (complete : Ranking.isComplete dataset.parameterNames row = true)
      (unscored : ∀ person ∈ Ranking.effectiveScorers dataset preferences.persons,
        row.number? person = none) :
      Edit (before ++ after) (before ++ row :: after)
  /-- An incomplete row comes somewhere after another one. -/
  | incomplete (before : List Row) (row : Row) (after : List Row)
      (lacking : Ranking.isComplete dataset.parameterNames row = false)
      (another : ∃ earlier ∈ before, Ranking.isComplete dataset.parameterNames earlier = false) :
      Edit (before ++ after) (before ++ row :: after)
  /-- The parameters of a ranked row change that is outside the elite or, with `bestOnly`, not the
  best. -/
  | outside (before : List Row) (row changed : Row) (after : List Row) (place : Nat)
      (trials : List Trial)
      (ranked : (Ranking.ofDataset { dataset with rows := before ++ row :: after }
        preferences.method preferences.persons).trials = trials)
      (placed : (trials.map Trial.index)[place]? = some before.length)
      (unseen : Recommendation.eliteCount trials.length ≤ place ∨
        preferences.bestOnly = true ∧ 0 < place)
      (same : ∀ name, name ∉ dataset.parameterNames →
        changed.cells.get? name = row.cells.get? name)
      (complete : Ranking.isComplete dataset.parameterNames changed = true) :
      Edit (before ++ row :: after) (before ++ changed :: after)

end Edit
end Dataset

theorem Row.get?_congr {row changed : Row} {field : String}
    (same : changed.cells.get? field = row.cells.get? field) :
    changed.get? field = row.get? field := by
  rw [Row.get?, Row.get?, same]

/-- The same trial with another row, if it is the one of a given place in the dataset. -/
def Trial.withRowAt (index : Nat) (row : Row) (trial : Trial) : Trial :=
  if trial.index = index then { trial with row } else trial

@[simp]
theorem Trial.objective_withRowAt (index : Nat) (row : Row) (trial : Trial) :
    (trial.withRowAt index row).objective = trial.objective := by
  unfold withRowAt
  split <;> rfl

theorem Trial.map_withRowAt {index : Nat} {trials : List Trial}
    (absent : index ∉ trials.map Trial.index) (row : Row) :
    trials.map (Trial.withRowAt index row) = trials := by
  conv_rhs => rw [← List.map_id trials]
  refine List.map_congr_left fun trial member => ?_
  have apart : trial.index ≠ index := fun same => absent (same ▸ List.mem_map_of_mem member)
  rw [withRowAt, if_neg apart, id]

/-- What stands past the trials that are looked at is not one of them. -/
theorem Recommendation.notMem_leading {trials : List Trial} {bestOnly : Bool} {place index : Nat}
    (distinct : (trials.map Trial.index).Nodup)
    (placed : (trials.map Trial.index)[place]? = some index)
    (unseen : eliteCount trials.length ≤ place ∨ bestOnly = true ∧ 0 < place) :
    index ∉ (leading bestOnly trials).map Trial.index := by
  have ranked : 0 < trials.length := by
    have below := (List.getElem?_eq_some_iff.mp placed).1
    rw [List.length_map] at below
    omega
  have elite := eliteCount_pos ranked
  have past : (if bestOnly then 1 else eliteCount trials.length) ≤ place := by
    cases bestOnly <;> grind
  obtain ⟨beyond, rfl⟩ := Nat.exists_eq_add_of_le past
  rw [← List.getElem?_drop] at placed
  rw [leading, List.map_take]
  intro listed
  exact List.disjoint_take_drop distinct (Nat.le_refl _) listed (List.mem_of_getElem? placed)

namespace Ranking

section Rows

variable {method : ScoringMethod} {names scorers : List String} {row changed : Row}
  {rows others before after : List Row}

/-- What a row says, if it is ranked. -/
def evidence? (method : ScoringMethod) (names scorers : List String) (row : Row) :
    Option Evidence :=
  if isComplete names row then
    (Scoring.score? method row scorers).map fun objective => ⟨objective, row.project names⟩
  else none

/-- What a row holds fixed, if it is the first one to lack a parameter. -/
def held? (names : List String) (row : Row) : Option ParameterSet :=
  if isComplete names row then none else some (row.project names)

/-- What the trials say is what the ranked rows say, sorted. -/
theorem map_evidence_rank (method : ScoringMethod) (names scorers : List String)
    (rows : List Row) :
    (rank method names scorers rows).map (Trial.evidence names) =
      (rows.filterMap (evidence? method names scorers)).mergeSort
        fun a b => Binary64.totalLe b.objective a.objective := by
  have said : (rows.zipIdx.filterMap (trialOf? method names scorers)).map (Trial.evidence names) =
      rows.filterMap (evidence? method names scorers) := by
    conv_rhs => rw [← List.zipIdx_map_fst 0 rows, List.filterMap_map]
    rw [List.map_filterMap]
    refine List.filterMap_congr fun numbered _ => ?_
    simp only [trialOf?, evidence?, Function.comp_apply]
    split
    · rw [Option.map_map]
      rfl
    · rfl
  rw [rank, ← said]
  exact List.map_mergeSort fun _ _ _ _ => rfl

theorem fixedParameters_eq (names : List String) (rows : List Row) :
    fixedParameters names rows = (rows.findSome? (held? names)).getD .empty := by
  induction rows with
  | nil => rfl
  | cons row rest ih =>
    unfold fixedParameters at ih ⊢
    cases complete : isComplete names row with
    | true => simpa [complete, held?] using ih
    | false => simp [complete, held?]

theorem isComplete_congr (same : ∀ name ∈ names, changed.get? name = row.get? name) :
    isComplete names changed = isComplete names row := by
  refine Bool.eq_iff_iff.mpr ?_
  simp only [isComplete, List.all_eq_true]
  exact forall₂_congr fun name member => by rw [Row.isPresent, Row.isPresent, same name member]

theorem project_congr (same : ∀ name ∈ names, changed.get? name = row.get? name) :
    changed.project names = row.project names := by
  refine congrArg NameMap.ofList (List.filterMap_congr fun name member => ?_)
  rw [same name member]

theorem score?_congr (same : ∀ person ∈ scorers, changed.get? person = row.get? person) :
    Scoring.score? method changed scorers = Scoring.score? method row scorers := by
  refine congrArg (Scoring.aggregate? method) (List.filterMap_congr fun person member => ?_)
  rw [Row.number?, Row.number?, same person member]

theorem evidence?_of_unscored (unscored : ∀ person ∈ scorers, row.number? person = none) :
    evidence? method names scorers row = none := by
  have silent : Scoring.readings row scorers = [] := List.filterMap_eq_nil_iff.mpr unscored
  simp [evidence?, Scoring.score?, silent, Scoring.aggregate?]

/-- A ranked row that stays complete and keeps its objective keeps its place in the ranking. -/
theorem rank_replaced {objective : Float} (complete : isComplete names row = true)
    (scored : Scoring.score? method row scorers = some objective)
    (completed : isComplete names changed = true)
    (rescored : Scoring.score? method changed scorers = some objective) :
    rank method names scorers (before ++ changed :: after) =
      (rank method names scorers (before ++ row :: after)).map
        (Trial.withRowAt before.length changed) := by
  have early : before.length ∉
      (before.zipIdx.filterMap (trialOf? method names scorers)).map Trial.index := by
    intro listed
    obtain ⟨trial, member, same⟩ := List.mem_map.mp listed
    obtain ⟨numbered, there, found⟩ := List.mem_filterMap.mp member
    obtain ⟨rfl, -, -⟩ := trialOf?_eq_some.mp found
    have below := List.snd_lt_add_of_mem_zipIdx there
    omega
  have late : before.length ∉ ((after.zipIdx (before.length + 1)).filterMap
      (trialOf? method names scorers)).map Trial.index := by
    intro listed
    obtain ⟨trial, member, same⟩ := List.mem_map.mp listed
    obtain ⟨numbered, there, found⟩ := List.mem_filterMap.mp member
    obtain ⟨rfl, -, -⟩ := trialOf?_eq_some.mp found
    have above := List.le_snd_of_mem_zipIdx there
    omega
  have old : trialOf? method names scorers (row, before.length) =
      some ⟨before.length, objective, row⟩ := trialOf?_eq_some.mpr ⟨rfl, complete, scored⟩
  have new : trialOf? method names scorers (changed, before.length) =
      some ⟨before.length, objective, changed⟩ := trialOf?_eq_some.mpr ⟨rfl, completed, rescored⟩
  have unsorted : (before ++ changed :: after).zipIdx.filterMap (trialOf? method names scorers) =
      ((before ++ row :: after).zipIdx.filterMap (trialOf? method names scorers)).map
        (Trial.withRowAt before.length changed) := by
    simp only [List.zipIdx_append, List.zipIdx_cons, List.filterMap_append, Nat.zero_add,
      List.filterMap_cons_some old, List.filterMap_cons_some new, List.map_append, List.map_cons,
      Trial.map_withRowAt early, Trial.map_withRowAt late]
    simp [Trial.withRowAt]
  rw [rank, unsorted, rank]
  exact (List.map_mergeSort fun _ _ _ _ => by simp [isBefore]).symm

end Rows
end Ranking

namespace Dataset

section Grounds

variable {dataset : Dataset} {preferences : Preferences} {row changed : Row}
  {rows others before after : List Row}

theorem trials_withRows (dataset : Dataset) (preferences : Preferences) (rows : List Row) :
    (Ranking.ofDataset { dataset with rows } preferences.method preferences.persons).trials =
      Ranking.rank preferences.method dataset.parameterNames
        (Ranking.effectiveScorers dataset preferences.persons) rows := by
  simp [Ranking.ofDataset, Ranking.effectiveScorers, List.isEmpty_iff, parameterNames]

theorem grounds_withRows (dataset : Dataset) (preferences : Preferences) (rows : List Row) :
    grounds { dataset with rows } preferences =
      ⟨(Recommendation.leading preferences.bestOnly (Ranking.rank preferences.method
        dataset.parameterNames (Ranking.effectiveScorers dataset preferences.persons) rows)).map
          (Trial.evidence dataset.parameterNames),
        Ranking.fixedParameters dataset.parameterNames rows⟩ := by
  simp only [grounds, trials_withRows]
  rfl

/-- What a row of a dataset says, if it is ranked. -/
def evidence? (dataset : Dataset) (preferences : Preferences) : Row → Option Evidence :=
  Ranking.evidence? preferences.method dataset.parameterNames
    (Ranking.effectiveScorers dataset preferences.persons)

/-- Rows that say the same, and of which the same are held fixed, give the same grounds. -/
theorem grounds_congr
    (said : rows.filterMap (dataset.evidence? preferences) =
      others.filterMap (dataset.evidence? preferences))
    (held : rows.findSome? (Ranking.held? dataset.parameterNames) =
      others.findSome? (Ranking.held? dataset.parameterNames)) :
    grounds { dataset with rows } preferences =
      grounds { dataset with rows := others } preferences := by
  unfold evidence? at said
  have same := Ranking.map_evidence_rank preferences.method dataset.parameterNames
    (Ranking.effectiveScorers dataset preferences.persons) rows
  rw [said, ← Ranking.map_evidence_rank] at same
  rw [grounds_withRows, grounds_withRows, Recommendation.leading_congr same,
    Ranking.fixedParameters_eq, Ranking.fixedParameters_eq, held]

/-- A row can be replaced by one that has the same values in the columns that are read. -/
theorem grounds_replaced
    (same : ∀ name ∈ dataset.readColumns preferences, changed.get? name = row.get? name) :
    grounds { dataset with rows := before ++ changed :: after } preferences =
      grounds { dataset with rows := before ++ row :: after } preferences := by
  have parameters : ∀ name ∈ dataset.parameterNames, changed.get? name = row.get? name :=
    fun name member => same name (List.mem_append_left _ member)
  have scores : ∀ person ∈ Ranking.effectiveScorers dataset preferences.persons,
      changed.get? person = row.get? person :=
    fun person member => same person (List.mem_append_right _ member)
  have complete := Ranking.isComplete_congr parameters
  have project := Ranking.project_congr parameters
  have said : dataset.evidence? preferences changed = dataset.evidence? preferences row := by
    simp only [evidence?, Ranking.evidence?, complete, project, Ranking.score?_congr scores]
  have held : Ranking.held? dataset.parameterNames changed =
      Ranking.held? dataset.parameterNames row := by
    rw [Ranking.held?, Ranking.held?, complete, project]
  refine grounds_congr ?_ ?_
  · simp only [List.filterMap_append, List.filterMap_cons, said]
  · simp only [List.findSome?_append, List.findSome?_cons, held]

/-- A row that is not ranked can come, unless it is the first one that lacks a parameter. -/
theorem grounds_inserted (silent : dataset.evidence? preferences row = none)
    (settled : Ranking.held? dataset.parameterNames row = none ∨
      (before.findSome? (Ranking.held? dataset.parameterNames)).isSome = true) :
    grounds { dataset with rows := before ++ row :: after } preferences =
      grounds { dataset with rows := before ++ after } preferences := by
  refine grounds_congr ?_ ?_
  · rw [List.filterMap_append, List.filterMap_append, List.filterMap_cons_none silent]
  · rw [List.findSome?_append, List.findSome?_append, List.findSome?_cons]
    rcases settled with none | earlier
    · rw [none]
    · obtain ⟨values, found⟩ := Option.isSome_iff_exists.mp earlier
      rw [found, Option.some_or, Option.some_or]

/-- The parameters of a ranked row can change where its trial is not looked at. -/
theorem grounds_outside {place : Nat} {trials : List Trial}
    (apart : ∀ person ∈ Ranking.effectiveScorers dataset preferences.persons,
      person ∉ dataset.parameterNames)
    (ranked : (Ranking.ofDataset { dataset with rows := before ++ row :: after }
      preferences.method preferences.persons).trials = trials)
    (placed : (trials.map Trial.index)[place]? = some before.length)
    (unseen : Recommendation.eliteCount trials.length ≤ place ∨
      preferences.bestOnly = true ∧ 0 < place)
    (same : ∀ name, name ∉ dataset.parameterNames →
      changed.cells.get? name = row.cells.get? name)
    (completed : Ranking.isComplete dataset.parameterNames changed = true) :
    grounds { dataset with rows := before ++ changed :: after } preferences =
      grounds { dataset with rows := before ++ row :: after } preferences := by
  rw [trials_withRows] at ranked
  obtain ⟨trial, found, there⟩ : ∃ trial, trials[place]? = some trial ∧
      trial.index = before.length := by
    simpa using placed
  have member : trial ∈ trials := List.mem_of_getElem? found
  rw [← ranked] at member
  obtain ⟨itsRow, complete, scored⟩ := Ranking.mem_rank.mp member
  obtain rfl : row = trial.row := by
    simpa [there] using itsRow
  have rescored : Scoring.score? preferences.method changed
      (Ranking.effectiveScorers dataset preferences.persons) = some trial.objective := by
    rw [Ranking.score?_congr fun person listed =>
      Row.get?_congr (same person (apart person listed)), scored]
  have unlisted : before.length ∉
      (Recommendation.leading preferences.bestOnly trials).map Trial.index :=
    Recommendation.notMem_leading (ranked ▸ Ranking.nodup_index_rank ..) placed unseen
  rw [grounds_withRows, grounds_withRows, Ranking.rank_replaced complete scored completed rescored,
    ranked, Recommendation.leading_map, Trial.map_withRowAt unlisted, Ranking.fixedParameters_eq,
    Ranking.fixedParameters_eq]
  simp only [List.findSome?_append, List.findSome?_cons, Ranking.held?, complete, completed,
    if_true]

/-- No edit changes what an advice rests on. -/
theorem grounds_edit
    (apart : ∀ person ∈ Ranking.effectiveScorers dataset preferences.persons,
      person ∉ dataset.parameterNames)
    (edit : dataset.Edit preferences rows others) :
    grounds { dataset with rows := others } preferences =
      grounds { dataset with rows } preferences := by
  cases edit with
  | stray before row changed after same =>
    exact grounds_replaced fun name member => Row.get?_congr (same name member)
  | blank before row changed after same =>
    refine grounds_replaced fun name _ => ?_
    rcases same name with kept | ⟨vacant, stillVacant⟩
    · exact Row.get?_congr kept
    · rw [vacant.get?_eq_none, stillVacant.get?_eq_none]
  | unscored before row after complete unscored =>
    refine grounds_inserted (Ranking.evidence?_of_unscored unscored) (.inl ?_)
    rw [Ranking.held?, complete, if_pos rfl]
  | incomplete before row after lacking another =>
    refine grounds_inserted (by simp [evidence?, Ranking.evidence?, lacking]) (.inr ?_)
    obtain ⟨earlier, member, incomplete⟩ := another
    exact List.findSome?_isSome_iff.mpr ⟨earlier, member, by simp [Ranking.held?, incomplete]⟩
  | outside before row changed after place trials ranked placed unseen same complete =>
    exact grounds_outside apart ranked placed unseen same complete

/-- Nor does any number of edits, taken back or not. -/
theorem grounds_edits
    (apart : ∀ person ∈ Ranking.effectiveScorers dataset preferences.persons,
      person ∉ dataset.parameterNames)
    (edits : Relation.EqvGen (dataset.Edit preferences) rows others) :
    grounds { dataset with rows := others } preferences =
      grounds { dataset with rows } preferences := by
  induction edits with
  | rel _ _ edit => exact grounds_edit apart edit
  | refl _ => rfl
  | symm _ _ _ ih => exact ih.symm
  | trans _ _ _ _ _ first second => exact second.trans first

end Grounds
end Dataset

namespace Advice

/-- Edits of an accepted dataset that do not matter, in any number and order, taken back or not,
leave the score and all lines of the recommendation as they are. -/
theorem response_unmoved {stem data metadata : String} {dataset : Dataset}
    {preferences : Preferences} {rows : List Row}
    (accepted : Dataset.ofTexts stem data metadata = .ok dataset)
    (possible : Recommendation.isWeight preferences.weight = true)
    (known : ∀ person ∈ preferences.persons, person ∈ dataset.persons)
    (edited : Relation.EqvGen (dataset.Edit preferences) dataset.rows rows) :
    ∃ advice changed, ofDataset dataset preferences = .ok advice ∧
      ofDataset { dataset with rows } preferences = .ok changed ∧
      changed.response = advice.response := by
  have scorers : ∀ person ∈ Ranking.effectiveScorers dataset preferences.persons,
      person ∈ dataset.persons := by
    unfold Ranking.effectiveScorers
    split
    · exact fun _ member => member
    · exact known
  have apart : ∀ person ∈ Ranking.effectiveScorers dataset preferences.persons,
      person ∉ dataset.parameterNames := fun person member =>
    Dataset.persons_apart_of_accepted accepted person (scorers person member)
  have suitable : preferences.fault? dataset.persons = none :=
    Preferences.fault?_eq_none_iff.mpr ⟨possible, known⟩
  have same := Dataset.grounds_edits apart edited
  exact ⟨made dataset preferences, made { dataset with rows } preferences, ofDataset_eq suitable,
    ofDataset_eq suitable, response_made_congr rfl same⟩

/-- Every kind of edit once: a note goes, a blank cell comes, an unscored row goes, an incomplete
row comes, and the last of four ranked rows gets other parameters. -/
theorem response_unmoved_by_each_kind :
    let data := "filter,grind,nick,note\nmetal,28,,\npaper,,,\nmetal,20,9,sour\n" ++
      "metal,22,8,\npaper,18,7,\npaper,24,6,\n"
    let metadata := "type,name,low,high,parameter type\n" ++ "parameter,filter,,,category\n" ++
      "parameter,grind,10,30,int\n" ++ "score,nick,,,\n"
    let unscored : Row := .ofList [("filter", .text "metal"), ("grind", .number 28)]
    let control : Row := .ofList [("filter", .text "paper")]
    let noted : Row := .ofList
      [("filter", .text "metal"), ("grind", .number 20), ("nick", .number 9),
        ("note", .text "sour")]
    let second : Row := .ofList
      [("filter", .text "metal"), ("grind", .number 22), ("nick", .number 8)]
    let third : Row := .ofList
      [("filter", .text "paper"), ("grind", .number 18), ("nick", .number 7)]
    let last : Row := .ofList
      [("filter", .text "paper"), ("grind", .number 24), ("nick", .number 6)]
    let dataset : Dataset := ⟨"v60.", [unscored, control, noted, second, third, last],
      [.category "filter", ⟨"grind", .integer, none, some ⟨10, 30, 1⟩⟩], ["nick"]⟩
    let blank : Row := .ofList [("filter", .text "paper"), ("grind", .text " ")]
    let plain : Row := .ofList
      [("filter", .text "metal"), ("grind", .number 20), ("nick", .number 9)]
    let moved : Row := .ofList
      [("filter", .text "metal"), ("grind", .number 11), ("nick", .number 6)]
    let incomplete : Row := .ofList [("grind", .number 30), ("nick", .number 10)]
    let preferences : Preferences := ⟨.mean, ["nick"], 0.5, false⟩
    Dataset.ofTexts "v60." data metadata = .ok dataset ∧
      ∃ advice changed, ofDataset dataset preferences = .ok advice ∧
        ofDataset { dataset with rows := [blank, plain, second, third, moved, incomplete] }
          preferences = .ok changed ∧
        changed.response = advice.response := by
  intro data metadata unscored control noted second third last dataset blank plain moved incomplete
    preferences
  have accepted : Dataset.ofTexts "v60." data metadata = .ok dataset := by decide +kernel
  have possible : Recommendation.isWeight preferences.weight = true := by decide +kernel
  have known : ∀ person ∈ preferences.persons, person ∈ dataset.persons := by decide
  have unsorted : dataset.rows.zipIdx.filterMap
      (Ranking.trialOf? .mean ["filter", "grind"] ["nick"]) =
        [⟨2, 9, noted⟩, ⟨3, 8, second⟩, ⟨4, 7, third⟩, ⟨5, 6, last⟩] := by decide +kernel
  have sorted : ([⟨2, 9, noted⟩, ⟨3, 8, second⟩, ⟨4, 7, third⟩, ⟨5, 6, last⟩] :
      List Trial).Pairwise (Ranking.isBefore · ·) := by decide +kernel
  have ranked : (Ranking.ofDataset dataset preferences.method preferences.persons).trials =
      [⟨2, 9, noted⟩, ⟨3, 8, second⟩, ⟨4, 7, third⟩, ⟨5, 6, last⟩] :=
    (congrArg (List.mergeSort · Ranking.isBefore) unsorted).trans
      (List.mergeSort_of_pairwise sorted)
  have parameters : dataset.Edit preferences [unscored, control, noted, second, third, last]
      [unscored, control, noted, second, third, moved] := by
    refine .outside [unscored, control, noted, second, third] last moved [] 3 _ ranked rfl
      (.inl (by decide +kernel)) (fun name absent => ?_) (by decide +kernel)
    have apart : name ≠ "filter" ∧ name ≠ "grind" := by
      simpa [dataset, Dataset.parameterNames, Parameter.category] using absent
    simp [moved, last, Row.ofList, NameMap.get?_ofList, NameMap.lookup_cons, apart]
  have note : dataset.Edit preferences [unscored, control, noted, second, third, moved]
      [unscored, control, plain, second, third, moved] :=
    .stray [unscored, control] noted plain [second, third, moved] (by decide +kernel)
  have blanks : dataset.Edit preferences [unscored, control, plain, second, third, moved]
      [unscored, blank, plain, second, third, moved] := by
    refine .blank [unscored] control blank [plain, second, third, moved] fun name => ?_
    by_cases grind : name = "grind"
    · subst grind
      exact .inr ⟨by decide +kernel, by decide +kernel⟩
    · left
      simp [control, blank, Row.ofList, NameMap.get?_ofList, NameMap.lookup_cons, grind]
  have silent : dataset.Edit preferences [blank, plain, second, third, moved]
      [unscored, blank, plain, second, third, moved] :=
    .unscored [] unscored [blank, plain, second, third, moved] (by decide +kernel)
      (by decide +kernel)
  have lacking : dataset.Edit preferences [blank, plain, second, third, moved]
      [blank, plain, second, third, moved, incomplete] :=
    .incomplete [blank, plain, second, third, moved] incomplete [] (by decide +kernel)
      ⟨blank, .head _, by decide +kernel⟩
  have edited : Relation.EqvGen (dataset.Edit preferences) dataset.rows
      [blank, plain, second, third, moved, incomplete] :=
    (((Relation.EqvGen.rel _ _ parameters).trans _ _ _ (.rel _ _ note)).trans _ _ _
      (.rel _ _ blanks)).trans _ _ _ ((Relation.EqvGen.symm _ _ (.rel _ _ silent)).trans _ _ _
        (.rel _ _ lacking))
  exact ⟨accepted, response_unmoved accepted possible known edited⟩

end Advice
end Cupping

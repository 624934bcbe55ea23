import Cupping.Ranking
import Mathlib.Data.List.Nodup

/-!
What is ranked, and in which order. The trials of a dataset are those of its complete rows that
somebody has scored, each of them once, and there is only one order for them.
-/

namespace Cupping

namespace Binary64

@[simp]
theorem totalLe_iff {x y : Float} : totalLe x y = true ↔ rank x ≤ rank y := by
  simp [totalLe]

theorem totalLe_trans (x y z : Float) (first : totalLe x y = true) (second : totalLe y z = true) :
    totalLe x z = true := by
  simp only [totalLe_iff] at first second ⊢
  exact Int.le_trans first second

theorem totalLe_total (x y : Float) : (totalLe x y || totalLe y x) = true := by
  simpa using Int.le_total (rank x) (rank y)

/-- Doubles that come before each other have the same bits. -/
theorem totalLe_antisymm {x y : Float} (first : totalLe x y = true) (second : totalLe y x = true) :
    x.toBits = y.toBits := by
  have same : rank x = rank y :=
    Int.le_antisymm (totalLe_iff.mp first) (totalLe_iff.mp second)
  simp only [rank] at same
  apply UInt64.toNat_inj.mp
  split at same <;> split at same <;> omega

/-- Doubles that come before each other are the same. -/
theorem eq_of_totalLe {x y : Float} (first : totalLe x y = true)
    (second : totalLe y x = true) : x = y := by
  have bits := totalLe_antisymm first second
  obtain ⟨⟨left, leftValid⟩⟩ := x
  obtain ⟨⟨right, rightValid⟩⟩ := y
  cases (show left = right from bits)
  rfl

end Binary64

/-- A stable sort: elements that may stand in either order keep the one they have. -/
theorem pairwise_mergeSort_stable {le : α → α → Bool} {earlier : α → α → Prop} {values : List α}
    (trans : ∀ a b c, le a b → le b c → le a c) (total : ∀ a b, le a b || le b a)
    (placed : values.Pairwise earlier) :
    (values.mergeSort le).Pairwise fun a b => le a b ∧ (le b a → earlier a b) := by
  induction values with
  | nil => simp
  | cons first rest ih =>
    obtain ⟨before, after, whole, others, passed⟩ := List.mergeSort_cons trans total first rest
    obtain ⟨ahead, behind⟩ := List.pairwise_cons.mp placed
    have sorted := List.pairwise_mergeSort trans total (first :: rest)
    have settled := ih behind
    rw [whole] at sorted ⊢
    rw [others] at settled
    have member : ∀ value ∈ after, value ∈ rest := fun value found =>
      List.mem_mergeSort.mp (others ▸ List.mem_append_right before found)
    obtain ⟨lower, upper, across⟩ := List.pairwise_append.mp settled
    obtain ⟨-, sorted, crossing⟩ := List.pairwise_append.mp sorted
    refine List.pairwise_append.mpr ⟨lower, List.pairwise_cons.mpr ⟨?_, upper⟩, ?_⟩
    · intro value found
      exact ⟨List.rel_of_pairwise_cons sorted found, fun _ => ahead value (member value found)⟩
    · intro value found other there
      rcases List.mem_cons.mp there with rfl | there
      · refine ⟨crossing value found _ (.head _), fun back => ?_⟩
        have := passed value found
        simp [back] at this
      · exact across value found other there

/-- The order of trials: the larger objective first, and of equal ones the earlier row. -/
def Trial.Precedes (a b : Trial) : Prop :=
  Binary64.rank b.objective < Binary64.rank a.objective ∨
    Binary64.rank a.objective = Binary64.rank b.objective ∧ a.index < b.index

theorem Trial.Precedes.asymm {a b : Trial} (before : a.Precedes b) : ¬ b.Precedes a := by
  unfold Precedes at *
  omega

theorem nodup_of_pairwise {trials : List Trial} (ordered : trials.Pairwise Trial.Precedes) :
    trials.Nodup :=
  ordered.imp fun before same => (same ▸ before).asymm (same ▸ before)

namespace Ranking

theorem isBefore_trans (a b c : Trial) (first : isBefore a b = true)
    (second : isBefore b c = true) : isBefore a c = true :=
  Binary64.totalLe_trans _ _ _ second first

theorem isBefore_total (a b : Trial) : (isBefore a b || isBefore b a) = true :=
  Binary64.totalLe_total _ _

theorem trialOf?_eq_some {method : ScoringMethod} {names scorers : List String}
    {numbered : Row × Nat} {trial : Trial} :
    trialOf? method names scorers numbered = some trial ↔
      numbered = (trial.row, trial.index) ∧ isComplete names trial.row = true ∧
        Scoring.score? method trial.row scorers = some trial.objective := by
  constructor
  · intro found
    unfold trialOf? at found
    split at found
    · rename_i complete
      obtain ⟨objective, scored, rfl⟩ := Option.map_eq_some_iff.mp found
      exact ⟨rfl, complete, scored⟩
    · cases found
  · rintro ⟨rfl, complete, scored⟩
    simp [trialOf?, complete, scored]

theorem mem_rank {method : ScoringMethod} {names scorers : List String} {rows : List Row}
    {trial : Trial} :
    trial ∈ rank method names scorers rows ↔
      rows[trial.index]? = some trial.row ∧ isComplete names trial.row = true ∧
        Scoring.score? method trial.row scorers = some trial.objective := by
  simp only [rank, List.mem_mergeSort, List.mem_filterMap, trialOf?_eq_some]
  constructor
  · rintro ⟨numbered, member, rfl, complete, scored⟩
    exact ⟨List.mem_zipIdx_iff_getElem?.mp member, complete, scored⟩
  · rintro ⟨found, complete, scored⟩
    exact ⟨_, List.mem_zipIdx_iff_getElem?.mpr found, rfl, complete, scored⟩

/-- The trials of numbered rows come in the order of the rows. -/
theorem trials_pairwise (method : ScoringMethod) (names scorers : List String) (rows : List Row) :
    (rows.zipIdx.filterMap (trialOf? method names scorers)).Pairwise
      fun a b => a.index < b.index := by
  have numbered : rows.zipIdx.Pairwise fun a b => a.2 < b.2 := by
    rw [← List.pairwise_map, List.zipIdx_map_snd]
    exact List.pairwise_lt_range'
  refine numbered.filterMap _ fun a b before first found second there => ?_
  obtain ⟨rfl, -, -⟩ := trialOf?_eq_some.mp found
  obtain ⟨rfl, -, -⟩ := trialOf?_eq_some.mp there
  exact before

theorem rank_pairwise (method : ScoringMethod) (names scorers : List String) (rows : List Row) :
    (rank method names scorers rows).Pairwise Trial.Precedes := by
  have sorted := pairwise_mergeSort_stable isBefore_trans isBefore_total
    (trials_pairwise method names scorers rows)
  refine sorted.imp fun {a b} ⟨before, tied⟩ => ?_
  simp only [isBefore, Binary64.totalLe_iff] at before tied
  rcases Int.lt_or_eq_of_le before with larger | same
  · exact .inl larger
  · exact .inr ⟨same.symm, tied (Int.le_of_eq same.symm)⟩

/-- The persons whose scores count: those selected, or all of the dataset if none are. -/
def effectiveScorers (dataset : Dataset) (selected : List String) : List String :=
  if selected = [] then dataset.persons else selected

/-- Whether the row at a place of a dataset is ranked: it has a value for every parameter and an
objective. -/
def HasTrial (dataset : Dataset) (method : ScoringMethod) (selected : List String) (index : Nat) :
    Prop :=
  ∃ row, dataset.rows[index]? = some row ∧
    (∀ name ∈ dataset.parameterNames, row.isPresent name = true) ∧
    (Scoring.score? method row (effectiveScorers dataset selected)).isSome = true

/-- Whether a list of trials is the ranking of a dataset. -/
structure IsRanking (dataset : Dataset) (method : ScoringMethod) (selected : List String)
    (trials : List Trial) : Prop where
  once : ∀ index, HasTrial dataset method selected index →
    (trials.map Trial.index).count index = 1
  otherwise : ∀ index, ¬ HasTrial dataset method selected index →
    index ∉ trials.map Trial.index
  carried : ∀ trial ∈ trials, dataset.rows[trial.index]? = some trial.row ∧
    Scoring.score? method trial.row (effectiveScorers dataset selected) = some trial.objective
  ordered : trials.Pairwise Trial.Precedes

namespace IsRanking

variable {dataset : Dataset} {method : ScoringMethod} {selected : List String}
  {trials others : List Trial}

/-- The trials of a ranking are known by what they carry. -/
theorem mem_iff (ranking : IsRanking dataset method selected trials) (trial : Trial) :
    trial ∈ trials ↔ HasTrial dataset method selected trial.index ∧
      dataset.rows[trial.index]? = some trial.row ∧
      Scoring.score? method trial.row (effectiveScorers dataset selected) =
        some trial.objective := by
  constructor
  · intro member
    refine ⟨?_, ranking.carried trial member⟩
    by_contra missing
    exact ranking.otherwise _ missing (List.mem_map_of_mem member)
  · rintro ⟨ranked, row, objective⟩
    have present : trial.index ∈ trials.map Trial.index := by
      rw [← List.count_pos_iff, ranking.once _ ranked]
      exact Nat.one_pos
    obtain ⟨other, member, same⟩ := List.mem_map.mp present
    obtain ⟨itsRow, itsObjective⟩ := ranking.carried other member
    have rows : other.row = trial.row := by
      rw [same, row] at itsRow
      exact (Option.some.inj itsRow).symm
    have objectives : other.objective = trial.objective := by
      rw [rows, objective] at itsObjective
      exact (Option.some.inj itsObjective).symm
    have whole : other = trial := by
      cases other
      cases trial
      simp_all
    exact whole ▸ member

theorem unique (ranking : IsRanking dataset method selected trials)
    (other : IsRanking dataset method selected others) : trials = others := by
  have same : trials.Perm others :=
    (List.perm_ext_iff_of_nodup (nodup_of_pairwise ranking.ordered)
      (nodup_of_pairwise other.ordered)).mpr fun trial =>
        (ranking.mem_iff trial).trans (other.mem_iff trial).symm
  refine same.eq_of_pairwise (fun a b _ _ before after => ?_) ranking.ordered other.ordered
  exact absurd after before.asymm

end IsRanking

theorem mem_ofDataset {dataset : Dataset} {method : ScoringMethod} {selected : List String}
    {trial : Trial} :
    trial ∈ (ofDataset dataset method selected).trials ↔
      dataset.rows[trial.index]? = some trial.row ∧
        (∀ name ∈ dataset.parameterNames, trial.row.isPresent name = true) ∧
          Scoring.score? method trial.row (effectiveScorers dataset selected) =
            some trial.objective := by
  simp only [ofDataset, mem_rank, isComplete, List.all_eq_true, List.isEmpty_iff, effectiveScorers]

/-- No row is ranked twice. -/
theorem nodup_index_rank (method : ScoringMethod) (names scorers : List String) (rows : List Row) :
    ((rank method names scorers rows).map Trial.index).Nodup := by
  have same := (List.mergeSort_perm (rows.zipIdx.filterMap (trialOf? method names scorers))
    isBefore).map Trial.index
  refine same.nodup_iff.mpr (List.pairwise_map.mpr ?_)
  exact (trials_pairwise method names scorers rows).imp Nat.ne_of_lt

theorem isRanking_ofDataset (dataset : Dataset) (method : ScoringMethod) (selected : List String) :
    IsRanking dataset method selected (ofDataset dataset method selected).trials := by
  refine ⟨?_, ?_, ?_, rank_pairwise ..⟩
  · rintro index ⟨row, found, complete, scored⟩
    obtain ⟨objective, scored⟩ := Option.isSome_iff_exists.mp scored
    have member : ⟨index, objective, row⟩ ∈ (ofDataset dataset method selected).trials :=
      mem_ofDataset.mpr ⟨found, complete, scored⟩
    exact List.count_eq_one_of_mem (nodup_index_rank ..) (List.mem_map_of_mem member)
  · intro index missing listed
    obtain ⟨trial, member, rfl⟩ := List.mem_map.mp listed
    obtain ⟨found, complete, scored⟩ := mem_ofDataset.mp member
    exact missing ⟨trial.row, found, complete, Option.isSome_of_eq_some scored⟩
  · intro trial member
    obtain ⟨found, -, scored⟩ := mem_ofDataset.mp member
    exact ⟨found, scored⟩

/-- The trials of a ranking are the ranked rows of the dataset in the one right order. -/
theorem ofDataset_trials_eq_iff (dataset : Dataset) (method : ScoringMethod)
    (selected : List String) (trials : List Trial) :
    (ofDataset dataset method selected).trials = trials ↔
      IsRanking dataset method selected trials := by
  have ranking := isRanking_ofDataset dataset method selected
  constructor
  · rintro rfl
    exact ranking
  · exact ranking.unique

end Ranking
end Cupping

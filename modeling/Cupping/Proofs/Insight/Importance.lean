import Cupping.Insight
import Cupping.Proofs.Ranking.Statistics

/-!
Which parameters are shown as important, and in which order. Those are measured that are numeric and
whose readings correlate with the objectives of the same trials; each is listed once, the strongest
first, and of equally strong ones the one that comes first among the parameters.
-/

namespace Cupping.Insight

open Binary64

/-- What a trial has to give for a parameter: the number that can be read in its row, and its
objective. -/
def Samples (name : String) (trial : Trial) (sample : Float × Float) : Prop :=
  trial.row.Reads name sample.1 ∧ sample.2 = trial.objective

/-- Whether an importance is that of a parameter among some trials. -/
structure Measures (trials : List Trial) (parameter : String × ParameterKind)
    (item : Importance) : Prop where
  named : item.name = parameter.1
  numeric : parameter.2 ≠ .category
  correlated : ∃ samples r, Picks (Samples parameter.1) trials samples ∧
    correlation? (samples.map Prod.fst) (samples.map Prod.snd) = some r ∧ item.importance = r.abs

/-- The order of importances: the larger first, and of equal ones the one named first. -/
def Precedes (names : List String) (a b : Importance) : Prop :=
  rank b.importance < rank a.importance ∨
    rank a.importance = rank b.importance ∧ names.idxOf a.name < names.idxOf b.name

/-- Whether a list of importances is the right one for some parameters. -/
structure IsImportanceRanking (trials : List Trial) (kinds : List (String × ParameterKind))
    (items : List Importance) : Prop where
  once : (items.map Importance.name).Nodup
  sound : ∀ item ∈ items, ∃ parameter ∈ kinds, Measures trials parameter item
  complete : ∀ parameter ∈ kinds, ∀ item, Measures trials parameter item → item ∈ items
  numeric : ∀ parameter ∈ kinds, parameter.2 = .category →
    parameter.1 ∉ items.map Importance.name
  sampled : ∀ item ∈ items, ∀ samples, Picks (Samples item.name) trials samples →
    2 ≤ samples.length
  ordered : items.Pairwise (Precedes (kinds.map Prod.fst))

variable {trials : List Trial} {kinds : List (String × ParameterKind)} {items : List Importance}
  {name : String} {parameter : String × ParameterKind} {item : Importance}

theorem picks_samples_iff {pairs : List (Float × Float)} :
    Picks (Samples name) trials pairs ↔ pairs = samples trials name := by
  refine picks_iff fun trial sample => ?_
  rw [Option.map_eq_some_iff, Samples]
  constructor
  · rintro ⟨x, given, rfl⟩
    exact ⟨Row.number?_eq_some_iff.mp given, rfl⟩
  · rintro ⟨reads, same⟩
    exact ⟨sample.1, Row.number?_eq_some_iff.mpr reads, Prod.ext rfl same.symm⟩

/-- The importance of a parameter, if it is one that can be measured. -/
def measured? (trials : List Trial) (parameter : String × ParameterKind) : Option Importance :=
  if parameter.2.isNumeric then importance? trials parameter.1 else none

theorem isNumeric_iff {kind : ParameterKind} : kind.isNumeric = true ↔ kind ≠ .category := by
  cases kind <;> decide

theorem measured?_eq_some_iff : measured? trials parameter = some item ↔
    Measures trials parameter item := by
  rw [measured?, Option.ite_none_right_eq_some, isNumeric_iff, importance?, Option.map_eq_some_iff]
  constructor
  · rintro ⟨numeric, r, found, rfl⟩
    exact ⟨rfl, numeric, samples trials parameter.1, r, picks_samples_iff.mpr rfl, found, rfl⟩
  · rintro ⟨named, numeric, pairs, r, picks, found, same⟩
    rw [picks_samples_iff.mp picks] at found
    refine ⟨numeric, r, found, ?_⟩
    rw [← named, ← same]

theorem importances_eq (trials : List Trial) (kinds : List (String × ParameterKind)) :
    importances trials kinds = (kinds.filterMap (measured? trials)).mergeSort
      fun a b => totalLe b.importance a.importance := rfl

theorem mem_importances_iff : item ∈ importances trials kinds ↔
    ∃ parameter ∈ kinds, Measures trials parameter item := by
  rw [importances_eq, List.mem_mergeSort, List.mem_filterMap]
  simp only [measured?_eq_some_iff]

/-- What can be correlated has two samples at least. -/
theorem length_of_correlation? {xs ys : List Float} {r : Float}
    (found : correlation? xs ys = some r) :
    xs.length = ys.length ∧ 2 ≤ xs.length := by
  rw [correlation?, Option.ite_none_left_eq_some, not_or, not_not, not_lt] at found
  exact found.1

theorem nodup_names (distinct : (kinds.map Prod.fst).Nodup) :
    ((importances trials kinds).map Importance.name).Nodup := by
  have same := (List.mergeSort_perm (kinds.filterMap (measured? trials))
    fun a b => totalLe b.importance a.importance).map Importance.name
  refine same.nodup_iff.mpr (List.pairwise_map.mpr ?_)
  refine (List.pairwise_map.mp distinct).filterMap _ ?_
  intro a b different first found second there
  rw [(measured?_eq_some_iff.mp found).named, (measured?_eq_some_iff.mp there).named]
  exact different

/-- Distinct names are found in the order in which they stand. -/
theorem pairwise_idxOf {names : List String} (distinct : names.Nodup) :
    names.Pairwise fun a b => names.idxOf a < names.idxOf b := by
  rw [List.pairwise_iff_getElem]
  intro i j before inside less
  rwa [distinct.idxOf_getElem, distinct.idxOf_getElem]

theorem ordered_importances (distinct : (kinds.map Prod.fst).Nodup) :
    (importances trials kinds).Pairwise (Precedes (kinds.map Prod.fst)) := by
  have named : (kinds.filterMap (measured? trials)).Pairwise fun a b =>
      (kinds.map Prod.fst).idxOf a.name < (kinds.map Prod.fst).idxOf b.name := by
    refine (List.pairwise_map.mp (pairwise_idxOf distinct)).filterMap _ ?_
    intro a b before first found second there
    rw [(measured?_eq_some_iff.mp found).named, (measured?_eq_some_iff.mp there).named]
    exact before
  have trans (a b c : Importance) (first : totalLe b.importance a.importance)
      (second : totalLe c.importance b.importance) : totalLe c.importance a.importance :=
    totalLe_trans _ _ _ second first
  have total (a b : Importance) :
      totalLe b.importance a.importance || totalLe a.importance b.importance := totalLe_total _ _
  have sorted := pairwise_mergeSort_stable trans total named
  refine sorted.imp fun {a b} ⟨before, tied⟩ => ?_
  simp only [totalLe_iff] at before tied
  rcases Int.lt_or_eq_of_le before with larger | same
  · exact .inl larger
  · exact .inr ⟨same.symm, tied (Int.le_of_eq same.symm)⟩

theorem Precedes.asymm {names : List String} {a b : Importance} (before : Precedes names a b) :
    ¬ Precedes names b a := by
  unfold Precedes at *
  omega

/-- There is only one such list. -/
theorem IsImportanceRanking.unique {others : List Importance}
    (ranking : IsImportanceRanking trials kinds items)
    (other : IsImportanceRanking trials kinds others) : items = others := by
  have members : ∀ item, item ∈ items ↔ item ∈ others := by
    intro item
    constructor
    · intro member
      obtain ⟨parameter, listed, measures⟩ := ranking.sound item member
      exact other.complete parameter listed item measures
    · intro member
      obtain ⟨parameter, listed, measures⟩ := other.sound item member
      exact ranking.complete parameter listed item measures
  have same : items.Perm others :=
    (List.perm_ext_iff_of_nodup (ranking.once.of_map _) (other.once.of_map _)).mpr members
  exact same.eq_of_pairwise (fun a b _ _ before after => absurd after before.asymm)
    ranking.ordered other.ordered

theorem Measures.two_le_length (measures : Measures trials parameter item)
    {samples : List (Float × Float)} (picks : Picks (Samples item.name) trials samples) :
    2 ≤ samples.length := by
  obtain ⟨others, r, picked, found, -⟩ := measures.correlated
  rw [measures.named, picks_samples_iff] at picks
  rw [picks_samples_iff] at picked
  rw [picks, ← picked, ← List.length_map (f := Prod.fst)]
  exact (length_of_correlation? found).2

theorem isImportanceRanking_importances (distinct : (kinds.map Prod.fst).Nodup) :
    IsImportanceRanking trials kinds (importances trials kinds) := by
  refine ⟨nodup_names distinct, fun _ => mem_importances_iff.mp, ?complete, ?numeric, ?sampled,
    ordered_importances distinct⟩
  case complete =>
    exact fun parameter listed _ measures => mem_importances_iff.mpr ⟨parameter, listed, measures⟩
  case numeric =>
    intro parameter listed category found
    obtain ⟨item, member, same⟩ := List.mem_map.mp found
    obtain ⟨other, there, measures⟩ := mem_importances_iff.mp member
    rw [measures.named] at same
    have equal := List.inj_on_of_nodup_map distinct there listed same
    exact measures.numeric (equal ▸ category)
  case sampled =>
    intro item member samples picks
    obtain ⟨parameter, -, measures⟩ := mem_importances_iff.mp member
    exact measures.two_le_length picks

/-- The importances of parameters with distinct names are the one right list: each parameter that
can be measured with its own correlation, once, and in order. -/
theorem importances_eq_iff (distinct : (kinds.map Prod.fst).Nodup) :
    importances trials kinds = items ↔ IsImportanceRanking trials kinds items := by
  have ranking : IsImportanceRanking trials kinds (importances trials kinds) :=
    isImportanceRanking_importances distinct
  constructor
  · rintro rfl
    exact ranking
  · exact ranking.unique

theorem importances_eq_iff_of_four_brews :
    let brew (index : Nat) (objective dose grind temp : Float) (filter : Cell) : Trial :=
      ⟨index, objective, .ofList [("dose", .number dose), ("grind", .number grind),
        ("temp", .number temp), ("filter", filter)]⟩
    let trials : List Trial := [brew 3 3 18 16 92 (.text "a"), brew 2 2 17 14 92 (.text "b"),
      brew 1 1 16 12 93 (.text "a"), brew 0 0 15 10 93 (.number 3)]
    let kinds : List (String × ParameterKind) :=
      [("grind", .integer), ("filter", .real), ("dose", .real), ("temp", .real),
        ("nick", .category)]
    let items : List Importance :=
      [⟨"grind", 1⟩, ⟨"dose", 1⟩, ⟨"temp", .ofBits 0x3FEC9F25C5BFEDD9⟩]
    importances trials kinds = items ∧ IsImportanceRanking trials kinds items := by
  intro brew trials kinds items
  have measured : kinds.filterMap (measured? trials) = items := by decide +kernel
  have sorted : items.Pairwise fun a b => totalLe b.importance a.importance = true := by
    decide +kernel
  have listed : importances trials kinds = items := by
    rw [importances_eq, measured, List.mergeSort_of_pairwise sorted]
  exact ⟨listed, (importances_eq_iff (by decide)).mp listed⟩

end Cupping.Insight

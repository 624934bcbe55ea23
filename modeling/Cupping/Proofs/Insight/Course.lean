import Cupping.Insight
import Cupping.Proofs.Binary64.TotalOrder
import Cupping.Proofs.Ranking.Objective

/-!
The course of the objectives. It shows every trial once, in the order of the dataset, with the best
objective up to it; at its end it agrees with the ranking on which objective is the best.
-/

namespace Cupping.Insight

open Binary64

/-- Whether a number is the largest of some numbers, which one of them equals numerically. -/
structure IsMaximum (best : Float) (objectives : List Float) : Prop where
  reached : ∃ objective ∈ objectives, (objective == best) = true
  above : ∀ objective ∈ objectives, objective ≤ best

namespace IsMaximum

variable {best other : Float} {objectives : List Float}

theorem le (first : IsMaximum best objectives) (second : IsMaximum other objectives) :
    best ≤ other := by
  obtain ⟨objective, member, same⟩ := first.reached
  obtain ⟨number, another⟩ := isNaN_of_le (first.above objective member)
  have below := second.above objective member
  have values := value_le_of_le below
  rw [(beq_iff_value number another).mp same] at values
  exact (le_iff_value another (isNaN_of_le below).2).mpr values

/-- There is numerically only one maximum. -/
theorem beq (first : IsMaximum best objectives) (second : IsMaximum other objectives) :
    (best == other) = true :=
  beq_of_le_of_le (first.le second) (second.le first)

theorem perm {others : List Float} (maximum : IsMaximum best objectives)
    (same : objectives.Perm others) : IsMaximum best others := by
  obtain ⟨objective, member, equal⟩ := maximum.reached
  refine ⟨⟨objective, same.mem_iff.mp member, equal⟩, ?_⟩
  intro another there
  exact maximum.above another (same.mem_iff.mpr there)

end IsMaximum

/-! The running maximum. -/

section Running

variable {objectives : List Float}

theorem value_lowest : value (-(1.0 / 0.0)) = -limit := by
  have parts : (-(1.0 / 0.0) : Float).toModel.unpack = .infinity .negative := rfl
  rw [value, parts, worth_infinity_negative]

/-- Started below all numbers it is the maximum of those that it has passed. -/
theorem isMaximum_foldl (some : objectives ≠ [])
    (numbers : ∀ objective ∈ objectives, objective.isNaN = false) :
    IsMaximum (objectives.foldl larger (-(1.0 / 0.0))) objectives := by
  have lowest : (-(1.0 / 0.0) : Float).isNaN = false := by decide
  have above := (le_foldl_larger lowest numbers).2
  refine ⟨?_, above⟩
  rcases List.mem_cons.mp (foldl_mem_of_choice larger_choice (-(1.0 / 0.0)) objectives) with
    start | passed
  · -- Nothing was larger than the start, so that the first number is as low.
    obtain ⟨first, member⟩ := List.exists_mem_of_ne_nil objectives some
    have below := value_le_of_le (above first member)
    rw [start, value_lowest] at below
    refine ⟨first, member, ?_⟩
    rw [start, beq_iff_value (numbers first member) lowest, value_lowest]
    exact le_antisymm below (value_mem first).1
  · exact ⟨_, passed, (beq_iff_value (numbers _ passed) (numbers _ passed)).mpr rfl⟩

end Running

/-! The points. -/

section Points

variable {best : Float} {trials : List Trial} {point : HistoryPoint}
  {before after : List HistoryPoint}

theorem map_pointsFrom (best : Float) (trials : List Trial) :
    (pointsFrom best trials).map (fun point => (point.index, point.objective)) =
      trials.map fun trial => (trial.index, trial.objective) := by
  induction trials generalizing best with
  | nil => rfl
  | cons trial rest ih => rw [pointsFrom, List.map_cons, ih, List.map_cons]

/-- The best objective at a point is the running maximum up to it. -/
theorem bestSoFar_of_split (split : pointsFrom best trials = before ++ point :: after) :
    point.bestSoFar = ((before ++ [point]).map HistoryPoint.objective).foldl larger best := by
  induction before generalizing best trials with
  | nil =>
    cases trials with
    | nil => cases split
    | cons trial rest =>
      obtain ⟨rfl, -⟩ := List.cons.inj split
      rfl
  | cons first earlier ih =>
    cases trials with
    | nil => cases split
    | cons trial rest =>
      obtain ⟨rfl, later⟩ := List.cons.inj split
      exact ih later

theorem pointsFrom_rising (number : best.isNaN = false)
    (numbers : ∀ trial ∈ trials, trial.objective.isNaN = false) :
    (∀ point ∈ pointsFrom best trials, best ≤ point.bestSoFar) ∧
      (pointsFrom best trials).Pairwise fun a b => a.bestSoFar ≤ b.bestSoFar := by
  induction trials generalizing best with
  | nil => exact ⟨nofun, .nil⟩
  | cons trial rest ih =>
    obtain ⟨another, others⟩ := List.forall_mem_cons.mp numbers
    have step := self_le_larger number another
    obtain ⟨later, rising⟩ := ih (isNaN_of_le step).2 others
    refine ⟨List.forall_mem_cons.mpr ⟨step, ?_⟩, List.pairwise_cons.mpr ⟨later, rising⟩⟩
    intro point member
    exact le_of_le_of_le step (later point member)

end Points

/-- Whether points are the course of some trials: each trial once, by rising index, with the
maximum of the objectives up to it. -/
structure IsCourse (trials : List Trial) (points : List HistoryPoint) : Prop where
  carried : (points.map fun point => (point.index, point.objective)).Perm
    (trials.map fun trial => (trial.index, trial.objective))
  ordered : points.Pairwise fun a b => a.index < b.index
  best : ∀ before point after, points = before ++ point :: after →
    IsMaximum point.bestSoFar ((before ++ [point]).map HistoryPoint.objective)
  rising : points.Pairwise fun a b => a.bestSoFar ≤ b.bestSoFar

variable {trials : List Trial}

theorem history_carried (trials : List Trial) :
    ((history trials).map fun point => (point.index, point.objective)).Perm
      (trials.map fun trial => (trial.index, trial.objective)) := by
  rw [history, map_pointsFrom]
  exact (List.mergeSort_perm ..).map _

theorem history_ordered (distinct : (trials.map Trial.index).Nodup) :
    (history trials).Pairwise fun a b => a.index < b.index := by
  have sorted : (trials.mergeSort fun a b => decide (a.index ≤ b.index)).Pairwise
      fun a b => a.index ≤ b.index := by
    refine (List.pairwise_mergeSort ?_ ?_ trials).imp of_decide_eq_true
    · intro a b c first second
      exact decide_eq_true ((of_decide_eq_true first).trans (of_decide_eq_true second))
    · intro a b
      simpa using Nat.le_total a.index b.index
  have apart : (trials.mergeSort fun a b => decide (a.index ≤ b.index)).Pairwise
      fun a b => a.index ≠ b.index :=
    List.pairwise_map.mp (((List.mergeSort_perm trials _).map Trial.index).nodup_iff.mpr distinct)
  have indices : (history trials).map HistoryPoint.index =
      (trials.mergeSort fun a b => decide (a.index ≤ b.index)).map Trial.index := by
    have carried := congrArg (List.map Prod.fst) (map_pointsFrom (-(1.0 / 0.0))
      (trials.mergeSort fun a b => decide (a.index ≤ b.index)))
    rwa [List.map_map, List.map_map] at carried
  apply List.pairwise_map.mp
  rw [indices]
  apply List.pairwise_map.mpr
  apply (sorted.and apart).imp
  rintro a b ⟨le, different⟩
  exact Nat.lt_of_le_of_ne le different

theorem history_objectives (trials : List Trial) :
    ((history trials).map HistoryPoint.objective).Perm (trials.map Trial.objective) := by
  have carried := (history_carried trials).map Prod.snd
  rwa [List.map_map, List.map_map] at carried

theorem isCourse_history (distinct : (trials.map Trial.index).Nodup)
    (numbers : ∀ trial ∈ trials, trial.objective.isNaN = false) :
    IsCourse trials (history trials) := by
  refine ⟨history_carried trials, history_ordered distinct, ?best, ?rising⟩
  case best =>
    intro before point after split
    rw [bestSoFar_of_split split]
    apply isMaximum_foldl (by simp)
    intro objective member
    have listed : objective ∈ (history trials).map HistoryPoint.objective := by
      rw [split, ← List.singleton_append, ← List.append_assoc, List.map_append]
      exact List.mem_append_left _ member
    obtain ⟨trial, there, rfl⟩ := List.mem_map.mp ((history_objectives trials).mem_iff.mp listed)
    exact numbers trial there
  case rising =>
    have sorted : ∀ trial ∈ trials.mergeSort fun a b => decide (a.index ≤ b.index),
        trial.objective.isNaN = false :=
      fun trial member => numbers trial (List.mem_mergeSort.mp member)
    exact (pointsFrom_rising (by decide) sorted).2

/-- The first of ranked trials has the maximum of the objectives. -/
theorem isMaximum_of_ranked {top : Trial} {rest : List Trial}
    (ordered : (top :: rest).Pairwise Trial.Precedes)
    (numbers : ∀ trial ∈ top :: rest, trial.objective.isNaN = false) :
    IsMaximum top.objective ((top :: rest).map Trial.objective) := by
  have number := numbers top (List.mem_cons_self ..)
  refine ⟨⟨top.objective, List.mem_cons_self .., (beq_iff_value number number).mpr rfl⟩, ?_⟩
  intro objective member
  obtain ⟨trial, there, rfl⟩ := List.mem_map.mp member
  apply le_of_totalLe (numbers trial there) number
  rw [totalLe_iff]
  rcases List.mem_cons.mp there with rfl | later
  · exact le_rfl
  · rcases List.rel_of_pairwise_cons ordered later with larger | ⟨same, -⟩
    · exact larger.le
    · exact same.ge

theorem history_getLast? (distinct : (trials.map Trial.index).Nodup)
    (numbers : ∀ trial ∈ trials, trial.objective.isNaN = false)
    (ordered : trials.Pairwise Trial.Precedes) :
    Option.Rel (fun point trial => (point.bestSoFar == trial.objective) = true)
      (history trials).getLast? trials.head? := by
  cases trials with
  | nil =>
    rw [history, List.mergeSort_nil]
    exact Option.Rel.none
  | cons top rest =>
    have course := isCourse_history distinct numbers
    have some : history (top :: rest) ≠ [] := by
      intro none
      have length := (history_carried (top :: rest)).length_eq
      rw [none] at length
      cases length
    obtain ⟨before, last, split⟩ := (List.eq_nil_or_concat _).resolve_left some
    rw [List.concat_eq_append] at split
    rw [split, List.getLast?_append, List.getLast?_singleton, Option.some_or, List.head?_cons]
    have maximum := course.best before last [] split
    rw [← split] at maximum
    exact .some ((maximum.perm (history_objectives _)).beq (isMaximum_of_ranked ordered numbers))

/-- The history is the course of the trials, and its last point has the best objective of the
ranking that it is made of. -/
theorem history_is_course :
    (∀ trials : List Trial, (trials.map Trial.index).Nodup →
      (∀ trial ∈ trials, trial.objective.isNaN = false) → IsCourse trials (history trials)) ∧
    ∀ dataset method selected, (Ranking.effectiveScorers dataset selected).length < 2 ^ 64 →
      let ranking := Ranking.ofDataset dataset method selected
      IsCourse ranking.trials (history ranking.trials) ∧
        Option.Rel (fun point trial => (point.bestSoFar == trial.objective) = true)
          (history ranking.trials).getLast? ranking.best? := by
  refine ⟨fun trials => isCourse_history, ?_⟩
  intro dataset method selected fits ranking
  have ranked := Ranking.isRanking_ofDataset dataset method selected
  have distinct : (ranking.trials.map Trial.index).Nodup := Ranking.nodup_index_rank ..
  have numbers : ∀ trial ∈ ranking.trials, trial.objective.isNaN = false := by
    intro trial member
    exact Scoring.isNaN_score fits (ranked.carried trial member).2
  exact ⟨isCourse_history distinct numbers, history_getLast? distinct numbers ranked.ordered⟩

theorem history_of_two_brews :
    let brew (score : Float) : Row := .ofList [("filter", .text "paper"), ("nick", .number score)]
    let trials : List Trial := [⟨1, 9, brew 9⟩, ⟨0, 7, brew 7⟩, ⟨2, -(1.0 / 0.0), brew 0⟩]
    let dataset : Dataset :=
      ⟨"v60.", [brew 9, brew 7], [⟨"filter", .category, none, none⟩], ["nick"]⟩
    let ranking := Ranking.ofDataset dataset .mean []
    IsCourse trials (history trials) ∧ IsCourse ranking.trials (history ranking.trials) ∧
      ∃ last, (history ranking.trials).getLast? = some last ∧ (last.bestSoFar == 9) = true := by
  intro brew trials dataset ranking
  have course := history_is_course.1 trials (by decide) (by decide)
  obtain ⟨built, agreed⟩ := history_is_course.2 dataset .mean [] (by decide)
  have numbered : dataset.rows.zipIdx.filterMap (Ranking.trialOf? .mean ["filter"] ["nick"]) =
      [⟨0, 9, brew 9⟩, ⟨1, 7, brew 7⟩] := by decide +kernel
  have sorted : ([⟨0, 9, brew 9⟩, ⟨1, 7, brew 7⟩] : List Trial).Pairwise
      (Ranking.isBefore · ·) := by decide +kernel
  have ranked : ranking.trials = [⟨0, 9, brew 9⟩, ⟨1, 7, brew 7⟩] :=
    (congrArg (List.mergeSort · Ranking.isBefore) numbered).trans
      (List.mergeSort_of_pairwise sorted)
  refine ⟨course, built, ?_⟩
  rw [Ranking.best?, ranked, List.head?_cons, ← ranked] at agreed
  cases last : (history ranking.trials).getLast? with
  | none =>
    rw [last] at agreed
    cases agreed
  | some point =>
    rw [last] at agreed
    cases agreed with
    | some same => exact ⟨point, rfl, same⟩

end Cupping.Insight

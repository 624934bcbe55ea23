import Cupping.Proofs.Ranking.Objective

/-!
Objectives as statistics of the scores. The numbers that can be read in the cells of the chosen
persons count, in their order, and nothing else does. The highest and the lowest of them are among
them, the median has as many before it as behind it, and of these three none depends on the order
in which the persons are chosen.
-/

namespace Cupping

open Binary64

/-- Whether values are what some items have to give, in the order of the items; an item that has
nothing to give is passed over. -/
inductive Picks {α β : Type} (gives : α → β → Prop) : List α → List β → Prop where
  | nil : Picks gives [] []
  | taken {item : α} {items : List α} {value : β} {values : List β} (given : gives item value)
    (rest : Picks gives items values) : Picks gives (item :: items) (value :: values)
  | passed {item : α} {items : List α} {values : List β} (nothing : ∀ value, ¬ gives item value)
    (rest : Picks gives items values) : Picks gives (item :: items) values

/-- What is picked by a function is picked by it alone. -/
theorem picks_iff {α β : Type} {gives : α → β → Prop} {pick : α → Option β}
    (picked : ∀ item value, pick item = some value ↔ gives item value) {items : List α}
    {values : List β} : Picks gives items values ↔ values = items.filterMap pick := by
  constructor
  · intro picks
    induction picks with
    | nil => rfl
    | taken given rest ih => rw [List.filterMap_cons, (picked _ _).mpr given, ih]
    | @passed item items values nothing rest ih =>
      have none : pick item = none :=
        Option.eq_none_iff_forall_ne_some.mpr fun value found =>
          nothing value ((picked _ _).mp found)
      rw [List.filterMap_cons, none, ih]
  · rintro rfl
    induction items with
    | nil => exact .nil
    | cons item rest ih =>
      rw [List.filterMap_cons]
      cases found : pick item with
      | none =>
        refine .passed (fun value given => ?_) ih
        rw [(picked item value).mpr given] at found
        cases found
      | some value => exact .taken ((picked item value).mp found) ih

/-- Whether a cell can be read as a finite number: it holds the number, or a text that is one,
white space around it aside. -/
inductive Cell.Reads : Cell → Float → Prop where
  | number {x : Float} (finite : x.isFinite = true) : Reads (.number x) x
  | text {text : String} {x : Float} (written : Decimal.read? (Text.trim text) = some x)
    (finite : x.isFinite = true) : Reads (.text text) x

theorem Cell.number?_eq_some_iff {cell : Cell} {x : Float} :
    cell.number? = some x ↔ cell.Reads x := by
  constructor
  · intro given
    have finite := isFinite_of_number? given
    cases cell with
    | number value =>
      rw [number?, Option.ite_none_right_eq_some] at given
      cases Option.some.inj given.2
      exact .number finite
    | text text =>
      rw [number?, readNumber?, Option.filter_eq_some_iff] at given
      exact .text given.1 finite
  · intro reads
    cases reads with
    | number finite => rw [number?, if_pos finite]
    | text written finite =>
      rw [number?, readNumber?, Option.filter_eq_some_iff]
      exact ⟨written, finite⟩

/-- No number is blank. -/
theorem Cell.Reads.isBlank {cell : Cell} {x : Float} (reads : cell.Reads x) :
    cell.isBlank = false := by
  cases reads with
  | number finite => rfl
  | text written finite =>
    have nothing : Decimal.read? "" = none := by decide
    rw [Cell.isBlank, ← Bool.not_eq_true, Text.isBlank_iff_trim]
    intro empty
    rw [empty, nothing] at written
    cases written

/-- Whether a number can be read in the cell of a row under a name. -/
def Row.Reads (row : Row) (field : String) (x : Float) : Prop :=
  ∃ cell, row.cells.get? field = some cell ∧ cell.Reads x

theorem Row.number?_eq_some_iff {row : Row} {field : String} {x : Float} :
    row.number? field = some x ↔ row.Reads field x := by
  rw [number?, Option.bind_eq_some_iff]
  constructor
  · rintro ⟨cell, present, given⟩
    exact ⟨cell, (Option.filter_eq_some_iff.mp present).1, Cell.number?_eq_some_iff.mp given⟩
  · rintro ⟨cell, present, reads⟩
    refine ⟨cell, Option.filter_eq_some_iff.mpr ⟨present, ?_⟩, Cell.number?_eq_some_iff.mpr reads⟩
    rw [reads.isBlank]
    rfl

namespace Scoring

/-- Whether a number is the median of some values: in the total order as many stand before it as
behind it, or it is half the sum of two neighbours with that property. -/
inductive IsMedian (values : List Float) : Float → Prop where
  | middle {below above : List Float} {x : Float} (same : (below ++ x :: above).Perm values)
    (ordered : (below ++ x :: above).Pairwise fun a b => rank a ≤ rank b)
    (central : below.length = above.length) : IsMedian values x
  | between {below above : List Float} {x y : Float}
    (same : (below ++ x :: y :: above).Perm values)
    (ordered : (below ++ x :: y :: above).Pairwise fun a b => rank a ≤ rank b)
    (central : below.length = above.length) : IsMedian values ((x + y) / 2.0)

/-- What an objective is to the values that it is made of. -/
def IsStatistic : ScoringMethod → List Float → Float → Prop
  | .mean, values, x => x = sum values / .ofNat values.length
  | .median, values, x => IsMedian values x
  | .highest, values, x => x ∈ values ∧ ∀ y ∈ values, y ≤ x
  | .lowest, values, x => x ∈ values ∧ ∀ y ∈ values, x ≤ y

variable {row : Row} {fields : List String} {values others : List Float} {x : Float}
  {method : ScoringMethod}

theorem picks_reads_iff : Picks row.Reads fields values ↔ values = readings row fields :=
  picks_iff fun _ _ => Row.number?_eq_some_iff

theorem readings_eq_nil_iff :
    readings row fields = [] ↔ ∀ field ∈ fields, ∀ x, ¬ row.Reads field x := by
  rw [readings, List.filterMap_eq_nil_iff]
  refine forall₂_congr fun field _ => ?_
  rw [Option.eq_none_iff_forall_ne_some]
  exact forall_congr' fun x => not_congr Row.number?_eq_some_iff

theorem mergeSort_ordered (values : List Float) :
    (values.mergeSort totalLe).Pairwise fun a b => rank a ≤ rank b :=
  (List.pairwise_mergeSort totalLe_trans totalLe_total values).imp totalLe_iff.mp

/-- What stands at a place of a list has that many before it. -/
theorem exists_split_of_getElem? {α : Type} {values : List α} {place : Nat} {x : α}
    (found : values[place]? = some x) :
    ∃ below above, values = below ++ x :: above ∧ below.length = place := by
  obtain ⟨inside, rfl⟩ := List.getElem?_eq_some_iff.mp found
  refine ⟨values.take place, values.drop (place + 1), ?_, List.length_take_of_le inside.le⟩
  rw [← List.drop_eq_getElem_cons inside, List.take_append_drop]

theorem isMedian_of_median? (found : median? values = some x) : IsMedian values x := by
  have same := List.mergeSort_perm values totalLe
  have ordered := mergeSort_ordered values
  dsimp only [median?] at found
  generalize values.mergeSort totalLe = sorted at same ordered found
  split at found
  · rename_i odd
    obtain ⟨below, above, rfl, place⟩ := exists_split_of_getElem? found
    refine .middle same ordered ?_
    rw [List.length_append, List.length_cons] at odd place
    omega
  · rename_i even
    split at found
    · rename_i x y first second
      cases Option.some.inj found
      obtain ⟨below, rest, rfl, place⟩ := exists_split_of_getElem? first
      rw [List.length_append, List.length_cons] at even place
      -- Of an even number of values the second one stands right behind the first one.
      have next : (below.length + rest.length + 1) / 2 = below.length + 1 := by omega
      rw [List.length_append, List.length_cons, ← add_assoc, next,
        List.getElem?_append_right (Nat.le_add_right _ _), Nat.add_sub_cancel_left] at second
      obtain ⟨above, rfl⟩ : ∃ above, rest = y :: above := by
        cases rest with
        | nil => cases second
        | cons next above => exact ⟨above, by rw [Option.some.inj second]⟩
      refine .between same ordered ?_
      rw [List.length_cons] at even place
      omega
    · cases found

theorem median?_isSome (some : values ≠ []) : (median? values).isSome = true := by
  have positive : 0 < (values.mergeSort totalLe).length := by
    rw [List.length_mergeSort]
    exact List.length_pos_iff.mpr some
  dsimp only [median?]
  split
  · rw [List.getElem?_eq_getElem (show (values.mergeSort totalLe).length / 2 < _ by omega)]
    rfl
  · rw [List.getElem?_eq_getElem (show (values.mergeSort totalLe).length / 2 - 1 < _ by omega),
      List.getElem?_eq_getElem (show (values.mergeSort totalLe).length / 2 < _ by omega)]
    rfl

theorem aggregate?_eq_none_iff : aggregate? method values = none ↔ values = [] := by
  cases values with
  | nil => exact iff_of_true rfl rfl
  | cons first rest =>
    refine iff_of_false ?_ (List.cons_ne_nil _ _)
    cases method with
    | median =>
      intro none
      have found := median?_isSome (List.cons_ne_nil first rest)
      rw [show median? (first :: rest) = .none from none] at found
      cases found
    | _ => nofun

theorem isStatistic_of_aggregate? (numbers : ∀ x ∈ values, x.isFinite = true)
    (found : aggregate? method values = some x) : IsStatistic method values x := by
  cases values with
  | nil => cases found
  | cons first rest =>
    obtain ⟨finite, others⟩ := List.forall_mem_cons.mp numbers
    have number := isNaN_of_isFinite finite
    have another : ∀ y ∈ rest, y.isNaN = false := fun y member =>
      isNaN_of_isFinite (others y member)
    cases method with
    | mean => exact (Option.some.inj found).symm
    | median => exact isMedian_of_median? found
    | highest =>
      cases Option.some.inj found
      exact ⟨foldl_mem_of_choice larger_choice first rest,
        List.forall_mem_cons.mpr (le_foldl_larger number another)⟩
    | lowest =>
      cases Option.some.inj found
      exact ⟨foldl_mem_of_choice smaller_choice first rest,
        List.forall_mem_cons.mpr (foldl_smaller_le number another)⟩

theorem IsMedian.perm (median : IsMedian values x) (same : values.Perm others) :
    IsMedian others x := by
  cases median with
  | middle sorted ordered central => exact .middle (sorted.trans same) ordered central
  | between sorted ordered central => exact .between (sorted.trans same) ordered central

/-- There is one total order of some values only, and one median of them. -/
theorem IsMedian.unique {y : Float} (first : IsMedian values x) (second : IsMedian values y) :
    x = y := by
  have once {listed found : List Float} (same : listed.Perm values) (other : found.Perm values)
      (ordered : listed.Pairwise fun a b => rank a ≤ rank b)
      (sorted : found.Pairwise fun a b => rank a ≤ rank b) : listed = found :=
    (same.trans other.symm).eq_of_pairwise (fun a b _ _ before after =>
      eq_of_totalLe (totalLe_iff.mpr before) (totalLe_iff.mpr after)) ordered sorted
  cases first with
  | middle same ordered central =>
    cases second with
    | middle other sorted even =>
      have whole := once same other ordered sorted
      have lengths := congrArg List.length whole
      simp only [List.length_append, List.length_cons] at lengths
      exact (List.cons.inj (List.append_inj whole (by omega)).2).1
    | between other sorted even =>
      have lengths := congrArg List.length (once same other ordered sorted)
      simp only [List.length_append, List.length_cons] at lengths
      omega
  | between same ordered central =>
    cases second with
    | middle other sorted even =>
      have lengths := congrArg List.length (once same other ordered sorted)
      simp only [List.length_append, List.length_cons] at lengths
      omega
    | between other sorted even =>
      have whole := once same other ordered sorted
      have lengths := congrArg List.length whole
      simp only [List.length_append, List.length_cons] at lengths
      obtain ⟨rfl, rest⟩ := List.cons.inj (List.append_inj whole (by omega)).2
      obtain ⟨rfl, -⟩ := List.cons.inj rest
      rfl

theorem IsMedian.isNaN (median : IsMedian values x) (numbers : ∀ x ∈ values, x.isFinite = true) :
    x.isNaN = false := by
  cases median with
  | middle same => exact isNaN_of_isFinite (numbers x (same.mem_iff.mp (by simp)))
  | between same =>
    have literal : (2.0 : Float) = .ofNat 2 := by decide
    rw [literal]
    exact isNaN_half (numbers _ (same.mem_iff.mp (by simp))) (numbers _ (same.mem_iff.mp (by simp)))

/-- Only the mean depends on the order in which the values are given. -/
theorem IsStatistic.beq_of_perm {y : Float} (unordered : method ≠ .mean)
    (numbers : ∀ x ∈ values, x.isFinite = true) (first : IsStatistic method values x)
    (second : IsStatistic method others y) (same : values.Perm others) : (x == y) = true := by
  cases method with
  | mean => exact absurd rfl unordered
  | median =>
    have number := first.isNaN numbers
    rw [first.unique (second.perm same.symm)] at number ⊢
    exact (beq_iff_value number number).mpr rfl
  | highest =>
    exact beq_of_le_of_le (second.2 x (same.mem_iff.mp first.1))
      (first.2 y (same.mem_iff.mpr second.1))
  | lowest =>
    exact beq_of_le_of_le (first.2 y (same.mem_iff.mpr second.1))
      (second.2 x (same.mem_iff.mp first.1))

theorem aggregate?_of_perm (unordered : method ≠ .mean)
    (numbers : ∀ x ∈ values, x.isFinite = true) (same : values.Perm others) :
    Option.Rel (fun x y => (x == y) = true) (aggregate? method values)
      (aggregate? method others) := by
  cases found : aggregate? method values with
  | none =>
    rw [aggregate?_eq_none_iff] at found
    subst found
    rw [aggregate?_eq_none_iff.mpr same.nil_eq.symm]
    exact .none
  | some x =>
    cases there : aggregate? method others with
    | none =>
      rw [aggregate?_eq_none_iff] at there
      subst there
      rw [aggregate?_eq_none_iff.mpr same.eq_nil] at found
      cases found
    | some y =>
      have bounded : ∀ x ∈ others, x.isFinite = true := fun x member =>
        numbers x (same.mem_iff.mpr member)
      exact .some ((isStatistic_of_aggregate? numbers found).beq_of_perm unordered numbers
        (isStatistic_of_aggregate? bounded there) same)

/-- The objective of a row is a statistic of the numbers that can be read in it, and there is none
exactly when there are no such numbers. -/
theorem score_is_statistic (row : Row) (fields : List String) (method : ScoringMethod) :
    (score? method row fields = none ↔ ∀ field ∈ fields, ∀ x, ¬ row.Reads field x) ∧
    (∃ values, Picks row.Reads fields values) ∧
    (∀ values objective, Picks row.Reads fields values → score? method row fields = some objective →
      IsStatistic method values objective) ∧
    (method ≠ .mean → ∀ others, fields.Perm others →
      Option.Rel (fun x y => (x == y) = true) (score? method row fields)
        (score? method row others)) := by
  have numbers : ∀ x ∈ readings row fields, x.isFinite = true := fun _ => isFinite_of_mem_readings
  refine ⟨?absent, ⟨_, picks_reads_iff.mpr rfl⟩, ?statistic, ?order⟩
  case absent => rw [score?, aggregate?_eq_none_iff, readings_eq_nil_iff]
  case statistic =>
    rintro values objective picks scored
    rw [picks_reads_iff.mp picks]
    exact isStatistic_of_aggregate? numbers scored
  case order =>
    intro unordered others same
    exact aggregate?_of_perm unordered numbers (same.filterMap _)

theorem score_of_five_raters :
    let row : Row := .ofList [("ann", .number 8), ("bob", .text " 6 "), ("eve", .text "n/a"),
      ("joe", .number (-0.0)), ("kim", .text "inf")]
    let fields := ["ann", "bob", "eve", "joe", "kim", "zoe"]
    score? .median row fields = some 6 ∧
      ∃ objective, score? .median row fields.reverse = some objective ∧
        (6 == objective) = true := by
  intro row fields
  obtain ⟨absent, -, statistic, unordered⟩ := score_is_statistic row fields .median
  have picks : Picks row.Reads fields [8, 6, -0.0] := by
    rw [picks_reads_iff]
    decide +kernel
  have ordered : ([-0.0] ++ 6 :: [8] : List Float).Perm [8, 6, -0.0] := by decide
  have central : IsMedian [8, 6, -0.0] 6 := .middle ordered (by decide) rfl
  have reads : row.Reads "ann" 8 := ⟨.number 8, by decide, .number (by decide)⟩
  obtain ⟨objective, scored⟩ : ∃ objective, score? .median row fields = some objective := by
    rw [← Option.ne_none_iff_exists', ne_eq, absent]
    exact fun nothing => nothing "ann" (by decide) 8 reads
  have same := (statistic [8, 6, -0.0] objective picks scored).unique central
  subst same
  have shuffled := unordered (by decide) fields.reverse (List.reverse_perm fields).symm
  rw [scored] at shuffled
  refine ⟨scored, ?_⟩
  cases there : score? .median row fields.reverse with
  | none =>
    rw [there] at shuffled
    cases shuffled
  | some other =>
    rw [there] at shuffled
    cases shuffled with
    | some same => exact ⟨other, rfl, same⟩

end Scoring
end Cupping

import Cupping.Dataset
import Cupping.Proofs.Binary64.Comparison

/-!
What a row of metadata has to say to describe a column, and which column that is.
-/

namespace Cupping

theorem bind_eq_ok {ε α β : Type} {first : Except ε α} {next : α → Except ε β} {result : β} :
    first >>= next = .ok result ↔ ∃ value, first = .ok value ∧ next value = .ok result := by
  cases first with
  | error fault => simp [bind, Except.bind]
  | ok value => simp [bind, Except.bind]

theorem mapError_eq_ok {ε δ α : Type} {first : Except ε α} {message : ε → δ} {value : α} :
    first.mapError message = .ok value ↔ first = .ok value := by
  cases first with
  | ok value =>
    constructor
    · exact fun same => congrArg Except.ok (Except.ok.inj same)
    · exact fun same => congrArg Except.ok (Except.ok.inj same)
  | error fault =>
    constructor
    · intro accepted
      cases accepted
    · intro accepted
      cases accepted

namespace NumericRange

/-- Finite bounds that are in order, and a finite and positive distance between the values. -/
structure IsProper (range : NumericRange) : Prop where
  low : range.low.isFinite = true
  high : range.high.isFinite = true
  step : range.step.isFinite = true
  ordered : range.low ≤ range.high
  positive : 0.0 < range.step

/-- Three numbers make a range exactly if it is a proper one. -/
theorem make_eq_ok_iff {low high step : Float} {range : NumericRange} :
    make low high step = .ok range ↔ range = ⟨low, high, step⟩ ∧ range.IsProper := by
  have whole : (0.0 : Float).isFinite = true := by decide
  constructor
  · intro made
    unfold make at made
    split at made
    · cases made
    · rename_i finite
      obtain ⟨⟨first, second⟩, third⟩ :
          (low.isFinite = true ∧ high.isFinite = true) ∧ step.isFinite = true := by
        simpa using finite
      split at made
      · cases made
      · rename_i ordered
        split at made
        · cases made
        · rename_i positive
          cases made
          exact ⟨rfl, first, second, third, (Binary64.not_lt_iff_le first second).mp ordered,
            (Binary64.not_le_iff_lt whole third).mp positive⟩
  · rintro ⟨rfl, proper⟩
    have finite : ¬ (!(low.isFinite && high.isFinite && step.isFinite)) = true := by
      simp [proper.low, proper.high, proper.step]
    rw [make, if_neg finite,
      if_neg ((Binary64.not_lt_iff_le proper.low proper.high).mpr proper.ordered),
      if_neg ((Binary64.not_le_iff_lt whole proper.step).mpr proper.positive)]

end NumericRange

namespace Parameter

/-- A numeric parameter has a proper range, and a category has none. -/
structure IsProper (parameter : Parameter) : Prop where
  numeric : parameter.kind.isNumeric = true →
    ∃ range, parameter.range = some range ∧ range.IsProper
  category : parameter.kind = .category → parameter.range = none

theorem numeric_eq_ok_iff {name : String} {kind : ParameterKind} {low high step : Float}
    {described : Parameter} :
    numeric name kind low high step = .ok described ↔ kind.isNumeric = true ∧
      described = ⟨name, kind, none, some ⟨low, high, step⟩⟩ ∧
        NumericRange.IsProper ⟨low, high, step⟩ := by
  cases isNumeric : kind.isNumeric with
  | false => simp [numeric, isNumeric]
  | true =>
    cases made : NumericRange.make low high step with
    | error cause =>
      have improper : ¬ NumericRange.IsProper ⟨low, high, step⟩ := by
        intro proper
        rw [NumericRange.make_eq_ok_iff.mpr ⟨rfl, proper⟩] at made
        cases made
      simp [numeric, isNumeric, made, improper]
    | ok range =>
      obtain ⟨rfl, proper⟩ := NumericRange.make_eq_ok_iff.mp made
      simp [numeric, isNumeric, made, proper, eq_comm]

end Parameter

namespace Column

/-- What a row of metadata says about its column under some heading. -/
def said? (row : Row) (heading : String) : Option String :=
  (row.get? heading).map Cell.display

/-- A row of metadata gives a column its name and its type. -/
structure Labels (row : Row) (name type : String) : Prop where
  name : said? row "name" = some name
  type : (said? row "type").map Text.lowerAscii = some type

/-- A row of metadata gives the bounds and the step, which is one unless a number is given. -/
structure Bounds (row : Row) (range : NumericRange) : Prop where
  low : row.number? "low" = some range.low
  high : row.number? "high" = some range.high
  step : (row.number? "step").getD 1.0 = range.step

/-- Whether a row of metadata describes a column. -/
inductive Describes (row : Row) : Column → Prop where
  | score {name : String} (labels : Labels row name "score") : Describes row (.score name)
  | category {name : String} (labels : Labels row name "parameter")
      (kind : kindOfRow row = .ok .category) :
      Describes row (.parameter ⟨name, .category, said? row "unit", none⟩)
  | numeric {name : String} {kind : ParameterKind} {range : NumericRange}
      (labels : Labels row name "parameter") (given : kindOfRow row = .ok kind)
      (isNumeric : kind.isNumeric = true) (bounds : Bounds row range) (proper : range.IsProper) :
      Describes row (.parameter ⟨name, kind, said? row "unit", some range⟩)

/-- A described parameter is a proper one. -/
theorem Describes.isProper {row : Row} {described : Parameter}
    (describes : Describes row (.parameter described)) : described.IsProper := by
  cases describes with
  | category labels given =>
    constructor
    · intro isNumeric
      cases isNumeric
    · exact fun _ => rfl
  | numeric labels given isNumeric bounds proper =>
    constructor
    · exact fun _ => ⟨_, rfl, proper⟩
    · rintro rfl
      cases isNumeric

theorem requiredNumber_eq_ok_iff {row : Row} {name field : String} {value : Float} :
    requiredNumber row name field = .ok value ↔ row.number? field = some value := by
  cases given : row.number? field <;> simp [requiredNumber, given]

theorem numericOfRow_eq_ok_iff {row : Row} {name : String} {kind : ParameterKind}
    {described : Parameter} :
    numericOfRow row name kind = .ok described ↔ kind.isNumeric = true ∧
      ∃ range, described = ⟨name, kind, none, some range⟩ ∧ Bounds row range ∧ range.IsProper := by
  constructor
  · intro accepted
    obtain ⟨low, lowest, accepted⟩ := bind_eq_ok.mp accepted
    obtain ⟨high, highest, accepted⟩ := bind_eq_ok.mp accepted
    dsimp only at accepted
    split at accepted
    · rename_i made
      cases accepted
      obtain ⟨isNumeric, rfl, proper⟩ := Parameter.numeric_eq_ok_iff.mp made
      exact ⟨isNumeric, _, rfl, ⟨requiredNumber_eq_ok_iff.mp lowest,
        requiredNumber_eq_ok_iff.mp highest, rfl⟩, proper⟩
    · cases accepted
  · rintro ⟨isNumeric, ⟨low, high, step⟩, rfl, ⟨lowest, highest, rfl⟩, proper⟩
    refine bind_eq_ok.mpr ⟨low, requiredNumber_eq_ok_iff.mpr lowest, bind_eq_ok.mpr
      ⟨high, requiredNumber_eq_ok_iff.mpr highest, ?_⟩⟩
    simp only [Parameter.numeric_eq_ok_iff.mpr ⟨isNumeric, rfl, proper⟩]

/-- The parameter that a row describes under a name. -/
def parameterOfRow (row : Row) (name : String) : Except MetadataFault Column := do
  let kind ← kindOfRow row
  if kind.isNumeric then
    let described ← numericOfRow row name kind
    .ok (.parameter { described with unit := said? row "unit" })
  else .ok (.parameter { Parameter.category name with unit := said? row "unit" })

theorem ofRow_of_labels {row : Row} {name type : String} (labels : Labels row name type) :
    ofRow row = if type = "score" then .ok (.score name)
      else if type = "parameter" then parameterOfRow row name
      else .error (.unknownType name type) := by
  obtain ⟨label, named, rfl⟩ := Option.map_eq_some_iff.mp labels.name
  obtain ⟨text, typed, rfl⟩ := Option.map_eq_some_iff.mp labels.type
  obtain ⟨cell, given, rfl⟩ := Option.map_eq_some_iff.mp typed
  simp only [ofRow, named, given]
  rfl

theorem labels_of_ofRow {row : Row} {column : Column} (accepted : ofRow row = .ok column) :
    ∃ name type, Labels row name type := by
  cases named : row.get? "name" with
  | none => simp [ofRow, named, bind, Except.bind] at accepted
  | some name =>
    cases typed : row.get? "type" with
    | none => simp [ofRow, named, typed, bind, Except.bind] at accepted
    | some type => exact ⟨_, _, ⟨by simp [said?, named]; rfl, by simp [said?, typed]; rfl⟩⟩

theorem parameterOfRow_eq_ok_iff {row : Row} {name : String} {column : Column} :
    parameterOfRow row name = .ok column ↔
      kindOfRow row = .ok .category ∧
          column = .parameter ⟨name, .category, said? row "unit", none⟩ ∨
        ∃ kind range, kindOfRow row = .ok kind ∧ kind.isNumeric = true ∧ Bounds row range ∧
          range.IsProper ∧ column = .parameter ⟨name, kind, said? row "unit", some range⟩ := by
  constructor
  · intro accepted
    obtain ⟨kind, given, accepted⟩ := bind_eq_ok.mp accepted
    split at accepted
    · obtain ⟨described, made, accepted⟩ := bind_eq_ok.mp accepted
      obtain rfl := Except.ok.inj accepted
      obtain ⟨isNumeric, range, rfl, bounds, proper⟩ := numericOfRow_eq_ok_iff.mp made
      exact .inr ⟨kind, range, given, isNumeric, bounds, proper, rfl⟩
    · rename_i notNumeric
      obtain rfl := Except.ok.inj accepted
      cases kind with
      | category => exact .inl ⟨given, rfl⟩
      | integer => exact absurd rfl notNumeric
      | real => exact absurd rfl notNumeric
  · rintro (⟨given, rfl⟩ | ⟨kind, range, given, isNumeric, bounds, proper, rfl⟩)
    · exact bind_eq_ok.mpr ⟨.category, given, rfl⟩
    · refine bind_eq_ok.mpr ⟨kind, given, ?_⟩
      rw [if_pos isNumeric]
      exact bind_eq_ok.mpr
        ⟨_, numericOfRow_eq_ok_iff.mpr ⟨isNumeric, range, rfl, bounds, proper⟩, rfl⟩

/-- A row of metadata is read as the column that it describes, and as nothing if there is none. -/
theorem ofRow_eq_ok_iff {row : Row} {column : Column} :
    ofRow row = .ok column ↔ Describes row column := by
  constructor
  · intro accepted
    obtain ⟨name, type, labels⟩ := labels_of_ofRow accepted
    rw [ofRow_of_labels labels] at accepted
    split at accepted
    · rename_i score
      obtain rfl := Except.ok.inj accepted
      exact .score (score ▸ labels)
    · split at accepted
      · rename_i parameter
        subst parameter
        rcases parameterOfRow_eq_ok_iff.mp accepted with
          ⟨given, rfl⟩ | ⟨kind, range, given, isNumeric, bounds, proper, rfl⟩
        · exact .category labels given
        · exact .numeric labels given isNumeric bounds proper
      · cases accepted
  · intro describes
    have other : "parameter" ≠ "score" := by decide
    cases describes with
    | score labels => rw [ofRow_of_labels labels, if_pos rfl]
    | category labels given =>
      rw [ofRow_of_labels labels, if_neg other, if_pos rfl, parameterOfRow_eq_ok_iff]
      exact .inl ⟨given, rfl⟩
    | numeric labels given isNumeric bounds proper =>
      rw [ofRow_of_labels labels, if_neg other, if_pos rfl, parameterOfRow_eq_ok_iff]
      exact .inr ⟨_, _, given, isNumeric, bounds, proper, rfl⟩

end Column
end Cupping

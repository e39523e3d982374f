import SurveyGate.Proofs.Trigger.Columns

/-!
# `SurveyGate.Proofs.Trigger.Defaults`: columns that hold their defaults

All kinds of triggers share one table, so a row has something in the columns of other kinds, too:
what the table holds where nobody wrote anything (`ColumnSort.IsDefault`). Such a cell is meant to
count as empty, and in most columns it does: there a row compiles as if the cell were missing
(`compile_defaults`). In three columns any value counts, the default among them
(`Column.counting`): a row that has it there is refused, and `compile_blank_value` is such a row.
-/

set_option autoImplicit false

namespace SurveyGate

open SurveyGate.Text

namespace ColumnSort

/-- The values that the table holds where nobody wrote anything: blank texts, zeros, flags that are
not set or set by default, and every visitor. -/
def IsDefault : (s : ColumnSort) → s.Content → Prop
  | .text, s => isBlankText s = true
  | .count, n => n = 0
  | .percent, n => n = 0
  | .flag, b => b = false
  | .flagSet, b => b = true
  | .survey, id => id.val = 0
  | .answer, id => id.val = 0
  | .value, v => ∃ s, v = .text s ∧ isBlankText s = true
  | .audience, a => a = .code 0 ∨ a = .named .all

/-- The default of a column, an empty text where it is a text. -/
def default : (s : ColumnSort) → s.Content
  | .text => ""
  | .count => (0 : UInt32)
  | .percent => (0 : Int)
  | .flag => false
  | .flagSet => true
  | .survey => (⟨0⟩ : SurveyId)
  | .answer => (⟨0⟩ : AnswerId)
  | .value => DeviceValue.text ""
  | .audience => StoredAudience.code 0

/-- The default of a sort is one. -/
theorem isDefault_default (s : ColumnSort) : s.IsDefault s.default := by
  cases s with
  | text => exact (by decide +kernel : isBlankText "" = true)
  | count => rfl
  | percent => rfl
  | flag => rfl
  | flagSet => rfl
  | survey => rfl
  | answer => rfl
  | value => exact ⟨"", rfl, by decide +kernel⟩
  | audience => exact .inl rfl

end ColumnSort

namespace Column

/-- The columns in which any value counts as filled. -/
def counting : List Column :=
  [.deviceDataValue, .previousAnsweredSurveyId, .previousPossibleAnswerId]

/-- A default counts as filled in the columns in which any value does, and in no other. -/
theorem isFilled_of_isDefault {c : Column} {x : c.Content} (h : c.sort.IsDefault x) :
    c.sort.isFilled x = true ↔ c ∈ counting := by
  -- What a default looks like depends on what the column holds.
  have hsort : ∀ (s : ColumnSort) (x : s.Content), s.IsDefault x →
      (s.isFilled x = true ↔ s = .survey ∨ s = .answer ∨ s = .value) := by
    intro s x hx
    cases s with
    | text =>
      have hblank : isBlankText x = true := hx
      simp [ColumnSort.isFilled, hblank]
    | count =>
      obtain rfl : x = (0 : UInt32) := hx
      simp [ColumnSort.isFilled]
    | percent =>
      obtain rfl : x = (0 : Int) := hx
      simp [ColumnSort.isFilled]
    | flag =>
      obtain rfl : x = false := hx
      simp [ColumnSort.isFilled]
    | flagSet =>
      obtain rfl : x = true := hx
      simp [ColumnSort.isFilled]
    | survey => simp [ColumnSort.isFilled]
    | answer => simp [ColumnSort.isFilled]
    | value => simp [ColumnSort.isFilled]
    | audience =>
      rcases hx with rfl | rfl
      · simp [ColumnSort.isFilled]
      · simp [ColumnSort.isFilled]
  rw [hsort c.sort x h]
  cases c <;> decide

end Column

namespace TriggerRow

/-- The row with other cells in some columns. -/
def withCells (r : TriggerRow) (cs : List Column) (cells : (c : Column) → Option c.Content) :
    TriggerRow :=
  { r with cell := fun c => if c ∈ cs then cells c else r.cell c }

variable {r r' : TriggerRow} {k : Kind} {cs : List Column}
  {cells : (c : Column) → Option c.Content} {limit : Nat}

/-- A column in the list has the cell that is set. -/
theorem cell_withCells_of_mem {c : Column} (hc : c ∈ cs) :
    (r.withCells cs cells).cell c = cells c :=
  if_pos hc

/-- Every other column keeps its cell. -/
theorem cell_withCells_of_not_mem {c : Column} (hc : c ∉ cs) :
    (r.withCells cs cells).cell c = r.cell c :=
  if_neg hc

/-- Two rows that fill the same columns are judged alike by the columns of other kinds. -/
theorem firstForeign?_congr (h : ∀ c, r.fills c = r'.fills c) :
    r.firstForeign? k = r'.firstForeign? k := by
  unfold firstForeign?
  simp only [h]

/-- A row with a foreign column is rejected by the first one. -/
theorem compile_of_foreign {c : Column} (hkind : Kind.ofText? r.kind = some k)
    (hfirst : r.firstForeign? k = some c) :
    r.compile limit = .error (.foreignColumn k c) := by
  simp only [compile, hkind, hfirst]

/-- A row that fills a column of another kind is refused for one. -/
theorem exists_foreign_of_fills (hkind : Kind.ofText? r.kind = some k) {c : Column}
    (hfills : r.fills c = true) (hforeign : c ∉ k.columns) :
    ∃ e, e ∉ k.columns ∧ r.compile limit = .error (.foreignColumn k e) := by
  cases hfirst : r.firstForeign? k with
  | none =>
    have hnone := List.find?_eq_none.1 hfirst c c.mem_all
    simp [hfills, hforeign] at hnone
  | some e =>
    have hfound := List.find?_some hfirst
    simp only [Bool.and_eq_true, Bool.not_eq_true', List.contains_eq_mem,
      decide_eq_false_iff_not] at hfound
    exact ⟨e, hfound.2, compile_of_foreign hkind hfirst⟩

/-- Rows that agree in their own columns and fill the same ones compile alike. -/
theorem compile_congr (hkind : r.kind = r'.kind) (hid : r.id = r'.id)
    (hexcluded : r.excluded = r'.excluded) (hnamed : Kind.ofText? r.kind = some k)
    (hown : ∀ c ∈ k.columns, r.cell c = r'.cell c) (hfills : ∀ c, r.fills c = r'.fills c) :
    r.compile limit = r'.compile limit := by
  have hnamed' : Kind.ofText? r'.kind = some k := by rw [← hkind, hnamed]
  simp only [compile, hnamed, hnamed', firstForeign?_congr hfills, draft_congr hown, hid, hexcluded]

/-- Take a row whose kind is named, some columns of other kinds, and a default for each of them.

- If any value may be missing from these columns, the row with the defaults in them compiles as the
  row with nothing in them.
- A default in a column in which any value counts makes the row be refused for a column of another
  kind, whatever else it holds. -/
theorem compile_defaults (r : TriggerRow) (limit : Nat) {k : Kind} (hnamed : trim r.kind ∈ k.names)
    {cs : List Column} (hforeign : ∀ c ∈ cs, c ∉ k.columns) {d : (c : Column) → c.Content}
    (hdefault : ∀ c ∈ cs, c.sort.IsDefault (d c)) :
    let unused := r.withCells cs fun _ => none
    let defaulted := r.withCells cs fun c => some (d c)
    ((∀ c ∈ cs, c ∉ Column.counting) → defaulted.compile limit = unused.compile limit) ∧
    ∀ c ∈ cs, c ∈ Column.counting →
      ∃ e, e ∉ k.columns ∧ defaulted.compile limit = .error (.foreignColumn k e) := by
  intro unused defaulted
  have hkind : Kind.ofText? r.kind = some k := Kind.ofText?_eq_some_iff.2 hnamed
  have hfills (c : Column) (hc : c ∈ cs) : defaulted.fills c = true ↔ c ∈ Column.counting := by
    rw [fills, cell_withCells_of_mem hc, Option.any_some]
    exact Column.isFilled_of_isDefault (hdefault c hc)
  refine ⟨fun hempty => ?_, fun c hc hcounting => ?_⟩
  · refine compile_congr rfl rfl rfl hkind (fun c hc => ?_) fun c => ?_
    · have hout : c ∉ cs := fun hin => hforeign c hin hc
      rw [cell_withCells_of_not_mem hout, cell_withCells_of_not_mem hout]
    · by_cases hc : c ∈ cs
      · have hunfilled : defaulted.fills c = false :=
          Bool.eq_false_iff.2 fun h => hempty c hc ((hfills c hc).1 h)
        rw [hunfilled, fills, cell_withCells_of_mem hc]
        rfl
      · rw [fills, fills, cell_withCells_of_not_mem hc, cell_withCells_of_not_mem hc]
  · exact exists_foreign_of_fills hkind ((hfills c hc).2 hcounting) (hforeign c hc)

/-- A row for the pages about prices. -/
def pricingRow : TriggerRow where
  id := none
  kind := "url_contains"
  excluded := false
  cell := fun
    | .url => some "/pricing"
    | _ => none

/-- The columns of other kinds whose defaults count as empty. -/
def pricingUnused : List Column :=
  Column.all.filter fun c => !Kind.urlContains.columns.contains c && !Column.counting.contains c

/-- The row compiles with the defaults of the whole table in it, the three columns left out, and is
refused with them. -/
theorem compile_defaults_pricing :
    let unused := pricingRow.withCells pricingUnused fun _ => none
    let defaulted := pricingRow.withCells pricingUnused fun c => some c.sort.default
    let overfull := pricingRow.withCells Column.counting fun c => some c.sort.default
    trim pricingRow.kind ∈ Kind.urlContains.names ∧
      unused.compile 0 = .ok ⟨none, .urlContains "/pricing", false⟩ ∧
      defaulted.compile 0 = unused.compile 0 ∧
      ∃ e, e ∉ Kind.urlContains.columns ∧
        overfull.compile 0 = .error (.foreignColumn .urlContains e) := by
  intro unused defaulted overfull
  have hnamed : trim pricingRow.kind ∈ Kind.urlContains.names := by decide +kernel
  have hdefault (cs : List Column) (c : Column) (_ : c ∈ cs) : c.sort.IsDefault c.sort.default :=
    c.sort.isDefault_default
  have hunusedForeign : ∀ c ∈ pricingUnused, c ∉ Kind.urlContains.columns := by decide +kernel
  have hcountingForeign : ∀ c ∈ Column.counting, c ∉ Kind.urlContains.columns := by decide +kernel
  obtain ⟨hsame, -⟩ := compile_defaults pricingRow 0 hnamed hunusedForeign (hdefault _)
  obtain ⟨-, hrefused⟩ := compile_defaults pricingRow 0 hnamed hcountingForeign (hdefault _)
  have hkind : Kind.ofText? unused.kind = some .urlContains := Kind.ofText?_eq_some_iff.2 hnamed
  have hfills : ∀ c ∈ Column.all, unused.fills c = true → c ∈ Kind.urlContains.columns := by
    decide +kernel
  have hunused : unused.compile 0 = .ok ⟨none, .urlContains "/pricing", false⟩ :=
    compile_of_own hkind fun c => hfills c c.mem_all
  exact ⟨hnamed, hunused, hsame (by decide +kernel),
    hrefused .deviceDataValue (by decide) (by decide)⟩

/-- A blank text in the column of recorded values, where any text may stand, is refused in a row
that compiles without it. So is the number zero of a survey. -/
theorem compile_blank_value :
    let blank := pricingRow.withCells [.deviceDataValue] fun c => some c.sort.default
    let zero := pricingRow.withCells [.previousAnsweredSurveyId] fun c => some c.sort.default
    Column.deviceDataValue ∉ Kind.urlContains.columns ∧
      Column.deviceDataValue.sort.IsDefault (.text "") ∧
      (pricingRow.withCells [.deviceDataValue] fun _ => none).compile 0 =
        .ok ⟨none, .urlContains "/pricing", false⟩ ∧
      blank.cell .deviceDataValue = some (.text "") ∧
      blank.compile 0 = .error (.foreignColumn .urlContains .deviceDataValue) ∧
      zero.compile 0 = .error (.foreignColumn .urlContains .previousAnsweredSurveyId) := by
  intro blank zero
  have hkind : Kind.ofText? "url_contains" = some .urlContains := by decide +kernel
  have hblank : blank.firstForeign? .urlContains = some .deviceDataValue := by decide +kernel
  have hzero : zero.firstForeign? .urlContains = some .previousAnsweredSurveyId := by
    decide +kernel
  exact ⟨by decide, ⟨"", rfl, by decide +kernel⟩, rfl, rfl, compile_of_foreign hkind hblank,
    compile_of_foreign hkind hzero⟩

end TriggerRow

end SurveyGate

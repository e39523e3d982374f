import SurveyGate.Proofs.Trigger.WellFormed

/-!
# `SurveyGate.Proofs.Trigger.Columns`: rows and the columns of their kind

A row names its kind by one of two names. No name is that of two kinds, so the kind of a row is the
one that is named between the blanks (`Kind.ofText?_eq_some_iff`).

Of the columns of other kinds a row may fill none, and of those it does the first in the order of the
table is told. Whatever else compiling a row says depends on its own columns alone:
`TriggerRow.draft_congr` states this for each kind, and `TriggerRow.ownOnly` is the row that has
nothing else. `compile_by_own_columns` puts the three answers together.
-/

set_option autoImplicit false

namespace SurveyGate

open SurveyGate.Text

/-! ### Names of kinds -/

namespace Kind

/-- The names under which a row may state a kind. -/
def names (k : Kind) : List String := [k.name, k.legacyName]

variable {k : Kind} {s t : String}

/-- The names of a kind have no blanks at their ends. -/
theorem tidy_of_mem_names (h : s ∈ k.names) : Tidy s := by
  have hall : ∀ k ∈ all, ∀ s ∈ k.names, s ≠ "" ∧ s.toList.head?.all (!isBlank ·) ∧
      s.toList.getLast?.all (!isBlank ·) := by
    decide +kernel
  obtain ⟨hne, hfront, hback⟩ := hall k (mem_all k) s h
  refine ⟨hne, fun c hc => ?_, fun c hc => ?_⟩
  · simpa [hc] using hfront
  · simpa [hc] using hback

/-- No name is that of two kinds, so a name is found at its kind. -/
theorem ofText?_of_mem_names (h : s ∈ k.names) : ofText? s = some k := by
  have hall : ∀ k ∈ all, ∀ s ∈ k.names,
      all.find? (fun a => a.name == s || a.legacyName == s) = some k := by
    decide +kernel
  rw [ofText?, (tidy_of_mem_names h).trim_eq, hall k (mem_all k) s h]

/-- Blanks around a text make no difference to the kind that it names. -/
theorem ofText?_congr (h : trim s = trim t) : ofText? s = ofText? t := by
  rw [ofText?, h, ofText?]

/-- A kind is told by one of its names, blanks around it left out. -/
theorem ofText?_eq_some_iff : ofText? s = some k ↔ trim s ∈ k.names := by
  constructor
  · intro h
    have hnames := List.find?_some h
    rw [Bool.or_eq_true, beq_iff_eq, beq_iff_eq] at hnames
    rcases hnames with hname | hlegacy
    · exact List.mem_cons.2 (.inl hname.symm)
    · exact List.mem_cons_of_mem _ (List.mem_singleton.2 hlegacy.symm)
  · intro h
    rw [← ofText?_of_mem_names h, ofText?_congr (tidy_of_mem_names h).trim_eq]

/-- A text that is no name tells no kind. -/
theorem ofText?_eq_none (h : ∀ k : Kind, trim s ∉ k.names) : ofText? s = none := by
  cases hkind : ofText? s with
  | none => rfl
  | some k => exact absurd (ofText?_eq_some_iff.1 hkind) (h k)

end Kind

/-! ### Columns of other kinds -/

namespace TriggerRow

/-- The row without what it has in the columns of other kinds. -/
def ownOnly (r : TriggerRow) (k : Kind) : TriggerRow :=
  { r with cell := fun c => if c ∈ k.columns then r.cell c else none }

variable {r r' : TriggerRow} {k : Kind} {limit : Nat}

/-- The columns of the kind keep their cells. -/
theorem cell_ownOnly {c : Column} (hc : c ∈ k.columns) : (r.ownOnly k).cell c = r.cell c :=
  if_pos hc

/-- A column of another kind is not filled by what is left of the row. -/
theorem mem_columns_of_fills_ownOnly {c : Column} (h : (r.ownOnly k).fills c = true) :
    c ∈ k.columns := by
  by_contra hc
  have hcell : (r.ownOnly k).cell c = none := if_neg hc
  rw [fills, hcell] at h
  cases h

/-- A row that fills its own columns alone has no foreign one. -/
theorem firstForeign?_eq_none (h : ∀ c, r.fills c = true → c ∈ k.columns) :
    r.firstForeign? k = none := by
  refine List.find?_eq_none.2 fun c _ hc => ?_
  rw [Bool.and_eq_true, Bool.not_eq_true', List.contains_eq_mem, decide_eq_false_iff_not] at hc
  exact hc.2 (h c hc.1)

/-- The first filled column of another kind, in the order of the table. -/
theorem firstForeign?_eq_some {before after : List Column} {c : Column}
    (htable : Column.all = before ++ c :: after) (hc : r.fills c = true) (hforeign : c ∉ k.columns)
    (hbefore : ∀ d ∈ before, r.fills d = true → d ∈ k.columns) : r.firstForeign? k = some c := by
  refine List.find?_eq_some_iff_append.2 ⟨by simp [hc, hforeign], before, after, htable, ?_⟩
  intro d hd
  cases hfills : r.fills d with
  | false => rfl
  | true => simp [hbefore d hd hfills]

/-- What the columns of a kind write does not depend on the columns of other kinds. -/
theorem draft_congr (h : ∀ c ∈ k.columns, r.cell c = r'.cell c) : r.draft k = r'.draft k := by
  cases k <;>
    simp only [Kind.columns, List.forall_mem_cons] at h <;>
    simp only [draft, required, audience, visits, h]

/-! ### Compiling -/

/-- Without a filled column of another kind, a row compiles as its own columns say. -/
theorem compile_of_own (hkind : Kind.ofText? r.kind = some k)
    (h : ∀ c, r.fills c = true → c ∈ k.columns) :
    r.compile limit = do
      let criterion ← (← r.draft k).check limit
      return ⟨r.id, criterion, r.excluded⟩ := by
  simp only [compile, hkind, firstForeign?_eq_none h]

/-- Rows are judged by the columns of their own kind:

- where the kind is none of the accepted names, blanks around it left out, the answer is an error
  with the text as it stands;
- a filled column of another kind is an error, whatever the columns of its own kind hold, and the
  first one in the order of the table is told;
- otherwise the answer is that of the row without the columns of other kinds;
- either name of the kind, with or without blanks around it, gives the same answer;
- a trigger that a row makes is of the kind that is named, with the number of the row, and excluded
  if the row is. -/
theorem compile_by_own_columns (r : TriggerRow) (limit : Nat) :
    ((∀ k : Kind, trim r.kind ∉ k.names) → r.compile limit = .error (.unknownKind r.kind)) ∧
    ∀ k : Kind, trim r.kind ∈ k.names →
      (∀ before c after, Column.all = before ++ c :: after → r.fills c = true → c ∉ k.columns →
        (∀ d ∈ before, r.fills d = true → d ∈ k.columns) →
        r.compile limit = .error (.foreignColumn k c)) ∧
      ((∀ c, r.fills c = true → c ∈ k.columns) →
        r.compile limit = (r.ownOnly k).compile limit) ∧
      (∀ name front back, name ∈ k.names → Blank front → Blank back →
        { r with kind := front ++ name ++ back }.compile limit = r.compile limit) ∧
      ∀ t, r.compile limit = .ok t →
        t.criterion.kind = k ∧ t.id = r.id ∧ t.excluded = r.excluded := by
  refine ⟨fun hnone => by simp only [compile, Kind.ofText?_eq_none hnone], fun k hnamed => ?_⟩
  have hkind : Kind.ofText? r.kind = some k := Kind.ofText?_eq_some_iff.2 hnamed
  refine ⟨fun before c after htable hc hforeign hbefore => ?_, fun hown => ?_,
    fun name front back hname hfront hback => ?_, fun t ht => ?_⟩
  · simp only [compile, hkind, firstForeign?_eq_some htable hc hforeign hbefore]
  · -- Nothing is left in foreign columns, and the own columns write the same draft.
    rw [compile_of_own hkind hown, compile_of_own (r := r.ownOnly k) hkind
      fun c => mem_columns_of_fills_ownOnly, draft_congr fun c hc => (cell_ownOnly hc).symm]
    rfl
  · have hpadded : Kind.ofText? (front ++ name ++ back) = some k := by
      rw [Kind.ofText?_congr (trim_padded hfront hback), Kind.ofText?_of_mem_names hname]
    simp only [compile, hpadded, hkind]
    rfl
  · obtain ⟨hkind', -, hid, hexcluded⟩ := r.compile_yields limit t ht
    exact ⟨Option.some.inj (hkind'.symm.trans hkind), hid, hexcluded⟩

/-- A row for visitors who have seen three pages, with a cell of another column at its default. -/
def pageviewRow : TriggerRow where
  id := some ⟨4⟩
  kind := "pageview"
  excluded := true
  cell := fun
    | .pageviewsCount => some (3 : UInt32)
    | .visitorType => some (.code 0)
    | _ => none

/-- The row as it is, with the older name of its kind between blanks, with a kind that there is not,
and with a URL in the place of the number. -/
theorem compile_by_own_columns_pageview :
    let padded := { pageviewRow with kind := "\t" ++ "PageviewTrigger" ++ "  " }
    let unknown := { pageviewRow with kind := " Pageview " }
    let misplaced := { pageviewRow with cell := fun | .url => some "/" | _ => none }
    pageviewRow.compile 0 = .ok ⟨some ⟨4⟩, .pageview 3, true⟩ ∧
      pageviewRow.compile 0 = (pageviewRow.ownOnly .pageview).compile 0 ∧
      padded.compile 0 = pageviewRow.compile 0 ∧
      unknown.compile 0 = .error (.unknownKind " Pageview ") ∧
      misplaced.compile 0 = .error (.foreignColumn .pageview .url) := by
  intro padded unknown misplaced
  have hnamed : trim "pageview" ∈ Kind.pageview.names := by decide +kernel
  obtain ⟨-, hpageview⟩ := compile_by_own_columns pageviewRow 0
  obtain ⟨-, hown, hpadded, -⟩ := hpageview .pageview hnamed
  obtain ⟨hunknown, -⟩ := compile_by_own_columns unknown 0
  obtain ⟨-, hmisplaced⟩ := compile_by_own_columns misplaced 0
  obtain ⟨hforeign, -⟩ := hmisplaced .pageview hnamed
  have hfills : ∀ c ∈ Column.all, pageviewRow.fills c = true → c ∈ Kind.pageview.columns := by
    decide +kernel
  refine ⟨rfl, hown fun c => hfills c c.mem_all, ?_, hunknown ?_, ?_⟩
  · exact hpadded "PageviewTrigger" "\t" "  " (by decide) (by decide +kernel) (by decide +kernel)
  · have hall : ∀ k ∈ Kind.all, trim " Pageview " ∉ k.names := by decide +kernel
    exact fun k => hall k k.mem_all
  · exact hforeign [] .url Column.all.tail rfl (by decide +kernel) (by decide) nofun

end TriggerRow

end SurveyGate

import Mathlib.Data.List.Forall2
import SurveyGate.Proofs.Store.Writes

/-!
# `SurveyGate.Proofs.Store.Loading`: where the triggers of a survey come from

Triggers come to a survey in two ways: rows are loaded in place of what the survey has, or one
trigger is added behind it. `RowsCompile` relates rows to the triggers they write, each row to the
trigger at its place. Rows of a list either all compile (`exists_rowsCompile`), or there is a first
one that does not (`exists_first_failing`), and the first failure is all that loading tells.

`Write.Loads` says that a write loads triggers for a survey, and `addedTo` are the triggers that
writes add to it. `loadRows_all_or_nothing` states what loading does to a store, and what a survey
has after any writes: the triggers that were loaded last, and behind them those added since.
-/

set_option autoImplicit false

namespace SurveyGate

/-- Each row compiles to the trigger at its place. -/
def RowsCompile (limit : Nat) : List TriggerRow → List Trigger → Prop :=
  List.Forall₂ fun row t => row.compile limit = .ok t

/-- A write loads triggers for a survey: those of its rows, which all compile. -/
inductive Write.Loads (id : SurveyId) : Write → List Trigger → Prop where
  | rows {rows : List TriggerRow} {limit : Nat} {ts : List Trigger}
      (compile : RowsCompile limit rows ts) : Loads id (.loadRows id rows limit) ts

/-- The trigger that a write adds to a survey. -/
def Write.added? (id : SurveyId) : Write → Option Trigger
  | .addTrigger i t => if i = id then some t else none
  | _ => none

/-- The triggers that writes add to a survey, in order. -/
def addedTo (id : SurveyId) (ws : List Write) : List Trigger := ws.filterMap (Write.added? id)

/-! ### Rows of a list -/

section
variable {α β ε : Type} {f : α → Except ε β}

/-- A run over a list in which each step succeeds has the results of the steps. -/
theorem mapM_of_forall₂ {xs : List α} {ys : List β}
    (h : List.Forall₂ (fun x y => f x = .ok y) xs ys) : xs.mapM f = .ok ys := by
  induction h with
  | nil => rfl
  | cons hx _ ih =>
    rw [List.mapM_cons, hx, ih]
    rfl

/-- A run over a list fails as its first failing step does. -/
theorem mapM_eq_error {good rest : List α} {bad : α} {e : ε}
    (hgood : ∀ x ∈ good, ∃ y, f x = .ok y) (hbad : f bad = .error e) :
    (good ++ bad :: rest).mapM f = .error e := by
  induction good with
  | nil =>
    rw [List.nil_append, List.mapM_cons, hbad]
    rfl
  | cons x xs ih =>
    obtain ⟨⟨y, hx⟩, hxs⟩ := List.forall_mem_cons.1 hgood
    rw [List.cons_append, List.mapM_cons, hx, ih hxs]
    rfl

/-- Steps that all succeed have a list of results. -/
theorem exists_forall₂_ok {xs : List α} (h : ∀ x ∈ xs, ∃ y, f x = .ok y) :
    ∃ ys, List.Forall₂ (fun x y => f x = .ok y) xs ys := by
  induction xs with
  | nil => exact ⟨[], .nil⟩
  | cons x xs ih =>
    obtain ⟨⟨y, hx⟩, hxs⟩ := List.forall_mem_cons.1 h
    obtain ⟨ys, hys⟩ := ih hxs
    exact ⟨y :: ys, .cons hx hys⟩

/-- If some step fails, there is a first one that does. -/
theorem exists_first_error {xs : List α} (h : ∃ x ∈ xs, ∀ y, f x ≠ .ok y) :
    ∃ good bad rest e, xs = good ++ bad :: rest ∧ (∀ x ∈ good, ∃ y, f x = .ok y) ∧
      f bad = .error e := by
  induction xs with
  | nil =>
    obtain ⟨x, hx, -⟩ := h
    cases hx
  | cons x xs ih =>
    cases hx : f x with
    | error e => exact ⟨[], x, xs, e, rfl, by simp, hx⟩
    | ok y =>
      obtain ⟨z, hz, hfail⟩ := h
      -- The head succeeds, so the step that fails stands behind it.
      have htail : z ∈ xs := by
        rcases List.mem_cons.1 hz with rfl | hmem
        · exact absurd hx (hfail y)
        · exact hmem
      obtain ⟨good, bad, rest, e, rfl, hgood, hbad⟩ := ih ⟨z, htail, hfail⟩
      exact ⟨x :: good, bad, rest, e, rfl, List.forall_mem_cons.2 ⟨⟨y, hx⟩, hgood⟩, hbad⟩

end

namespace Store

variable {st : Store} {id : SurveyId} {rows : List TriggerRow} {limit : Nat} {ts : List Trigger}

/-! ### One load -/

/-- Rows that all compile replace the triggers of the survey. -/
theorem loadRows_of_compile (h : RowsCompile limit rows ts) :
    st.loadRows id rows limit = (.ok rows.length, { st with triggers := st.triggers.put id ts }) := by
  rw [loadRows, mapM_of_forall₂ h, h.length_eq]

/-- Rows of which one does not compile change nothing. -/
theorem loadRows_of_error {good rest : List TriggerRow} {bad : TriggerRow} {e : ValidationError}
    (hgood : ∀ row ∈ good, ∃ t, row.compile limit = .ok t) (hbad : bad.compile limit = .error e) :
    st.loadRows id (good ++ bad :: rest) limit = (.error e, st) := by
  rw [loadRows, mapM_eq_error hgood hbad]

/-- Behind a put the survey has these triggers, and every other one what it had. -/
theorem triggersOf_put (i : SurveyId) :
    { st with triggers := st.triggers.put id ts }.triggersOf i =
      if id = i then ts else st.triggersOf i := by
  show ((st.triggers.put id ts).get? i).getD [] = _
  rw [Table.get?_put]
  split <;> rfl

/-! ### Writes -/

/-- Apart from a load, a write leaves the triggers of a survey where they are, and may add one. -/
theorem triggersOf_write {w : Write} (h : ∀ ts, ¬w.Loads id ts) :
    (st.write w).triggersOf id = st.triggersOf id ++ (w.added? id).toList := by
  cases w with
  | addTrigger i t =>
    show { st with triggers := st.triggers.put i (st.triggersOf i ++ [t]) }.triggersOf id =
      _ ++ (if i = id then some t else none).toList
    rw [triggersOf_put]
    split
    · rename_i heq
      rw [heq]
      rfl
    · rw [Option.toList_none, List.append_nil]
  | loadRows i rows limit =>
    show (st.loadRows i rows limit).2.triggersOf id = st.triggersOf id ++ []
    rw [List.append_nil]
    -- Rows that compile belong to another survey; others change nothing.
    by_cases hall : ∀ row ∈ rows, ∃ t, row.compile limit = .ok t
    · obtain ⟨ts, hts⟩ := exists_forall₂_ok hall
      have hne : i ≠ id := by
        rintro rfl
        exact h ts (.rows hts)
      rw [loadRows_of_compile hts, triggersOf_put, if_neg hne]
    · push Not at hall
      obtain ⟨good, bad, rest, e, rfl, hgood, hbad⟩ := exists_first_error hall
      rw [loadRows_of_error hgood hbad]
  | impression device account i t =>
    show (st.recordImpression device account i t).triggersOf id = _ ++ []
    rw [recordImpression_eq, List.append_nil]
    rfl
  | _ => exact (List.append_nil _).symm

/-- Behind a load the survey has these triggers. -/
theorem triggersOf_write_of_loads {w : Write} (h : w.Loads id ts) :
    (st.write w).triggersOf id = ts := by
  cases h with
  | rows hts =>
    show (st.loadRows id _ _).2.triggersOf id = ts
    rw [loadRows_of_compile hts, triggersOf_put, if_pos rfl]

/-- While nothing is loaded for a survey, triggers are only added to it. -/
theorem triggersOf_written {ws : List Write} (h : ∀ w ∈ ws, ∀ ts, ¬w.Loads id ts) :
    (st.written ws).triggersOf id = st.triggersOf id ++ addedTo id ws := by
  induction ws generalizing st with
  | nil => exact (List.append_nil _).symm
  | cons w ws ih =>
    obtain ⟨hw, hws⟩ := List.forall_mem_cons.1 h
    show ((st.write w).written ws).triggersOf id = _
    rw [ih hws, triggersOf_write hw, List.append_assoc, addedTo, addedTo, List.filterMap_cons]
    cases w.added? id <;> rfl

/-- Among writes there is a last one that loads triggers for a survey, or none does. -/
theorem exists_last_load (id : SurveyId) (ws : List Write) :
    (∀ w ∈ ws, ∀ ts, ¬w.Loads id ts) ∨
      ∃ before w since ts, ws = before ++ w :: since ∧ w.Loads id ts ∧
        ∀ w ∈ since, ∀ ts, ¬w.Loads id ts := by
  induction ws with
  | nil => exact .inl (by simp)
  | cons w ws ih =>
    rcases ih with hnone | ⟨before, w', since, ts, rfl, hload, hsince⟩
    · by_cases hw : ∃ ts, w.Loads id ts
      · obtain ⟨ts, hload⟩ := hw
        exact .inr ⟨[], w, ws, ts, rfl, hload, hnone⟩
      · push Not at hw
        exact .inl (List.forall_mem_cons.2 ⟨hw, hnone⟩)
    · exact .inr ⟨w :: before, w', since, ts, rfl, hload, hsince⟩

/-- Rows are loaded all or not at all, and a survey has the triggers that were loaded last and those
added since:

- if every row compiles, the number of rows is told, the survey has the triggers that they write, in
  the order of the rows, and nothing else in the store is different;
- if some row does not, the error of the first such row is told, and the store is as it was;
- after any writes to an empty store, the triggers read of a survey are those of the last load and
  those added behind it, or just those added if nothing was loaded. -/
theorem loadRows_all_or_nothing (st : Store) (id : SurveyId) (rows : List TriggerRow)
    (limit : Nat) :
    ((∀ row ∈ rows, ∃ t, row.compile limit = .ok t) → ∃ ts, RowsCompile limit rows ts ∧
      let loaded := (st.loadRows id rows limit).2
      (st.loadRows id rows limit).1 = .ok rows.length ∧ loaded.reads.triggers id = .ok ts ∧
        (∀ i, i ≠ id → loaded.triggers.get? i = st.triggers.get? i) ∧
        { loaded with triggers := st.triggers } = st) ∧
    ((∃ row ∈ rows, ∀ t, row.compile limit ≠ .ok t) → ∃ good bad rest e,
      rows = good ++ bad :: rest ∧ (∀ row ∈ good, ∃ t, row.compile limit = .ok t) ∧
        bad.compile limit = .error e ∧ st.loadRows id rows limit = (.error e, st)) ∧
    ∀ (retention : Option Int) (ws : List Write),
      let listed := ((keeping retention).written ws).reads.triggers id
      (∃ before w since ts, ws = before ++ w :: since ∧ w.Loads id ts ∧
        (∀ w ∈ since, ∀ ts, ¬w.Loads id ts) ∧ listed = .ok (ts ++ addedTo id since)) ∨
      (∀ w ∈ ws, ∀ ts, ¬w.Loads id ts) ∧ listed = .ok (addedTo id ws) := by
  refine ⟨fun hall => ?_, fun hsome => ?_, fun retention ws => ?_⟩
  · obtain ⟨ts, hts⟩ := exists_forall₂_ok hall
    refine ⟨ts, hts, ?_⟩
    rw [loadRows_of_compile hts]
    refine ⟨rfl, ?_, fun i hi => Table.get?_put_of_ne _ _ hi.symm, rfl⟩
    show Except.ok (triggersOf _ id) = _
    rw [triggersOf_put, if_pos rfl]
  · obtain ⟨good, bad, rest, e, rfl, hgood, hbad⟩ := exists_first_error hsome
    exact ⟨good, bad, rest, e, rfl, hgood, hbad, loadRows_of_error hgood hbad⟩
  · rcases exists_last_load id ws with hnone | ⟨before, w, since, ts, rfl, hload, hsince⟩
    · exact .inr ⟨hnone, congrArg Except.ok (triggersOf_written hnone)⟩
    · refine .inl ⟨before, w, since, ts, rfl, hload, hsince, ?_⟩
      show Except.ok (triggersOf _ id) = _
      -- Whatever the load found is gone.
      rw [written_append, ← List.singleton_append, written_append, triggersOf_written hsince]
      exact congrArg (fun us => Except.ok (us ++ _)) (triggersOf_write_of_loads hload)

/-- A row that asks for three pages, under the older name of its kind. -/
def pagesRow : TriggerRow where
  id := some ⟨7⟩
  kind := " PageviewTrigger"
  excluded := false
  cell := fun
    | .pageviewsCount => some (3 : UInt32)
    | _ => none

/-- The row without its number of pages. -/
def emptyPagesRow : TriggerRow := { pagesRow with cell := fun _ => none }

/-- A survey with a trigger of its own is given a row. The two rows after it come to nothing, since
the second one lacks its number of pages, and a trigger is added behind the first row. -/
theorem loadRows_all_or_nothing_pages :
    let exit := Trigger.including .pageIntentExit
    let pages : Trigger := ⟨some ⟨7⟩, .pageview 3, false⟩
    let st := (keeping none).written
      [.addTrigger ⟨1⟩ exit, .loadRows ⟨1⟩ [pagesRow] 0, .loadRows ⟨1⟩ [pagesRow, emptyPagesRow] 0,
        .addTrigger ⟨1⟩ exit]
    (∃ ts, RowsCompile 0 [pagesRow, pagesRow] ts ∧
      (st.loadRows ⟨1⟩ [pagesRow, pagesRow] 0).2.reads.triggers ⟨1⟩ = .ok ts) ∧
    (∃ e, st.loadRows ⟨1⟩ [pagesRow, emptyPagesRow] 0 = (.error e, st)) ∧
    st.reads.triggers ⟨1⟩ = .ok [pages, exit] := by
  intro exit pages st
  have hpages : pagesRow.compile 0 = .ok pages := rfl
  have hempty : emptyPagesRow.compile 0 = .error (.missingColumn .pageview .pageviewsCount) := rfl
  obtain ⟨hload, -, -⟩ := loadRows_all_or_nothing st ⟨1⟩ [pagesRow, pagesRow] 0
  obtain ⟨-, hfail, -⟩ := loadRows_all_or_nothing st ⟨1⟩ [pagesRow, emptyPagesRow] 0
  obtain ⟨ts, hts, -, hread, -⟩ := hload (by simp [hpages])
  obtain ⟨_, _, _, e, -, -, -, hsame⟩ :=
    hfail ⟨emptyPagesRow, by simp, fun t => by simp [hempty]⟩
  exact ⟨⟨ts, hts, hread⟩, ⟨e, hsame⟩, rfl⟩

end Store

end SurveyGate

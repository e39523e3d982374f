import SurveyGate.Proofs.Decision.Report

/-!
# `SurveyGate.Proofs.Decision.TriggerOrder`: the order of triggers

Two stores hold the same, except that the triggers of one survey stand in another order. The survey
is shown from one as from the other, and two undisturbed diagnoses have the same entries up to order
and messages (`decide_diagnose_perm_triggers`). The entries of the survey itself stand in front of
both reports and are the same in both, messages included.

The place of a group in a report and the order of its members do follow the triggers; the group only
asks whether any member is true, which is what `plan_keys_perm` rests on.
-/

set_option autoImplicit false

namespace SurveyGate

/-- The answers of stores in which a survey has the given triggers instead of its own. -/
def Reads.withTriggers (r : Reads) (id : SurveyId) (ts : List Trigger) : Reads :=
  { r with triggers := fun i => if i = id then .ok ts else r.triggers i }

/-- The entries of a report that stand for the survey itself: its checks, or that it cannot be
read. -/
def surveyFindings (r : Reads) (id : SurveyId) (v : Visitor) : List Finding :=
  match r.survey id with
  | .ok s => checkFindings r s v
  | .error e => [unreadFinding surveyExistsLabel e]

/-- Two reports with the given entries in front of both and, up to order and messages, the same
entries. -/
structure Report.Reorders (front : List Finding) (a b : Report) : Prop where
  eligible : a.eligible = b.eligible
  keys : (a.findings.map Finding.key).Perm (b.findings.map Finding.key)
  front_left : front <+: a.findings
  front_right : front <+: b.findings

section
variable {r : Reads} {id : SurveyId} {s : Survey} {ts ts' : List Trigger} {p : ProbePolicy}
  {v : Visitor}

/-- Giving a survey the triggers that it has changes nothing. -/
theorem Reads.withTriggers_self (h : r.triggers id = .ok ts) : r.withTriggers id ts = r := by
  have htriggers : (fun i => if i = id then .ok ts else r.triggers i) = r.triggers := by
    funext i
    by_cases hi : i = id
    · rw [if_pos hi, hi, h]
    · rw [if_neg hi]
  rw [Reads.withTriggers, htriggers]

/-- The given triggers are loaded with the survey. -/
theorem Reads.load_withTriggers (h : r.survey id = .ok s) (ts : List Trigger) :
    load (r.withTriggers id ts) id = .ok (s, ts) :=
  load_eq_ok_iff.2 ⟨h, if_pos rfl⟩

/-- A survey that cannot be read cannot be loaded, whatever its triggers are. -/
theorem load_of_survey_error {e : StorageError} (h : r.survey id = .error e) :
    load r id = .error (surveyExistsLabel, e) := by
  rw [load, h]

/-- The entries of a survey that can be read are those of its checks. -/
theorem surveyFindings_of_ok (h : r.survey id = .ok s) :
    surveyFindings r id v = checkFindings r s v := by
  rw [surveyFindings, h]

/-- A survey that cannot be read has one entry, which says so. -/
theorem surveyFindings_of_error {e : StorageError} (h : r.survey id = .error e) :
    surveyFindings r id v = [unreadFinding surveyExistsLabel e] := by
  rw [surveyFindings, h]

/-- The terms of a plan all pass or do not, whatever the order of the triggers. -/
theorem plan_all_passes_perm (o : Criterion → Outcome) (h : ts.Perm ts') :
    ((plan ts).all fun term => (term.finding o).passes) =
      (plan ts').all fun term => (term.finding o).passes := by
  have hkeys (us : List Trigger) : ((plan us).all fun term => (term.finding o).passes) =
      ((plan us).map fun term => (term.finding o).key).all keyPasses := by
    rw [List.all_map]
    rfl
  rw [hkeys, hkeys, (plan_keys_perm o h).all_eq]

/-- A decision does not depend on the order of the triggers. -/
theorem decide_withTriggers_perm (hpage : v.PageIsFixed) (h : ts.Perm ts')
    (calls : List PageCall) :
    (decide (r.withTriggers id ts) id v calls).1 =
      (decide (r.withTriggers id ts') id v calls).1 := by
  cases hs : r.survey id with
  | error e =>
    have hload (us : List Trigger) := load_of_survey_error (r := r.withTriggers id us) hs
    rw [decide_of_load_error (hload ts), decide_of_load_error (hload ts')]
  | ok s =>
    rw [decide_eq_and (Reads.load_withTriggers hs ts) hpage,
      decide_eq_and (Reads.load_withTriggers hs ts') hpage, plan_all_passes_perm _ h]
    rfl

/-- The keys of a report depend on the order of the triggers only in their own order. -/
theorem diagnose_withTriggers_keys_perm (hpage : v.PageIsFixed) (h : ts.Perm ts') {run run' : Run}
    (hrun : Undisturbed p v (diagnose (r.withTriggers id ts) p id v run).2)
    (hrun' : Undisturbed p v (diagnose (r.withTriggers id ts') p id v run').2) :
    ((diagnose (r.withTriggers id ts) p id v run).1.findings.map Finding.key).Perm
      ((diagnose (r.withTriggers id ts') p id v run').1.findings.map Finding.key) := by
  cases hs : r.survey id with
  | error e =>
    have hload (us : List Trigger) := load_of_survey_error (r := r.withTriggers id us) hs
    rw [diagnose_of_load_error (hload ts), diagnose_of_load_error (hload ts')]
  | ok s =>
    rw [diagnose_keys (Reads.load_withTriggers hs ts) hpage run hrun,
      diagnose_keys (Reads.load_withTriggers hs ts') hpage run' hrun']
    exact ((plan_keys_perm _ h).append_left _).append_right _

/-- The entries of the survey itself stand in front of a report on triggers that can be read. -/
theorem surveyFindings_prefix_diagnose (hts : r.triggers id = .ok ts) (run : Run) :
    surveyFindings r id v <+: (diagnose r p id v run).1.findings := by
  cases hs : r.survey id with
  | error e =>
    refine ⟨[], ?_⟩
    rw [surveyFindings_of_error hs, diagnose_of_load_error (load_of_survey_error hs)]
    rfl
  | ok s =>
    rw [surveyFindings_of_ok hs, diagnose_of_load_ok (load_eq_ok_iff.2 ⟨hs, hts⟩)]
    exact (List.prefix_append _ _).trans (List.prefix_append _ _)

/-- Reordering the triggers of a survey changes no decision, and no report beyond the order and the
messages of its entries. -/
theorem decide_diagnose_perm_triggers (hpage : v.PageIsFixed) (hts : r.triggers id = .ok ts)
    (hperm : ts.Perm ts') (calls : List PageCall) (run run' : Run) :
    (decide r id v calls).1 = (decide (r.withTriggers id ts') id v calls).1 ∧
      (Undisturbed p v (diagnose r p id v run).2 →
        Undisturbed p v (diagnose (r.withTriggers id ts') p id v run').2 →
        Report.Reorders (surveyFindings r id v) (diagnose r p id v run).1
          (diagnose (r.withTriggers id ts') p id v run').1) := by
  -- Both sides become stores with given triggers, of which the lemmas above speak.
  have hself := Reads.withTriggers_self hts
  refine ⟨?_, fun hrun hrun' => ?_⟩
  · have hdecide : (decide (r.withTriggers id ts) id v calls).1 = _ :=
      decide_withTriggers_perm hpage hperm calls
    rwa [hself] at hdecide
  · have hkeys := diagnose_withTriggers_keys_perm (r := r) hpage hperm (by rwa [hself]) hrun'
    rw [hself] at hkeys
    -- The entries of the survey itself are not made from its triggers.
    have hsame : surveyFindings (r.withTriggers id ts') id v = surveyFindings r id v := rfl
    have hfront := surveyFindings_prefix_diagnose (p := p) (v := v)
      (r := r.withTriggers id ts') (if_pos rfl) run'
    rw [hsame] at hfront
    exact {
      eligible := by rw [Report.eligible_eq_all_keys, Report.eligible_eq_all_keys, hkeys.all_eq]
      keys := hkeys
      front_left := surveyFindings_prefix_diagnose hts run
      front_right := hfront }

end

/-- Read backwards, the group of the plans begins with the other plan. -/
theorem decide_diagnose_perm_triggers_promo :
    let r := promoStore.reads
    let ts := promoStore.triggersOf ⟨1⟩
    let r' := r.withTriggers ⟨1⟩ ts.reverse
    let start := Run.start false
    promoVisitor.PageIsFixed ∧ r.triggers ⟨1⟩ = .ok ts ∧ ts.Perm ts.reverse ∧
      Undisturbed promoPolicy promoVisitor (diagnose r promoPolicy ⟨1⟩ promoVisitor start).2 ∧
      Undisturbed promoPolicy promoVisitor (diagnose r' promoPolicy ⟨1⟩ promoVisitor start).2 ∧
      (decide r ⟨1⟩ promoVisitor []).1 = (decide r' ⟨1⟩ promoVisitor []).1 ∧
      Report.Reorders (surveyFindings r ⟨1⟩ promoVisitor)
        (diagnose r promoPolicy ⟨1⟩ promoVisitor start).1
        (diagnose r' promoPolicy ⟨1⟩ promoVisitor start).1 := by
  intro r ts r' start
  have hrun : Undisturbed promoPolicy promoVisitor
      (diagnose r promoPolicy ⟨1⟩ promoVisitor start).2 := fun _ _ => by decide
  have hrun' : Undisturbed promoPolicy promoVisitor
      (diagnose r' promoPolicy ⟨1⟩ promoVisitor start).2 := fun _ _ => by decide
  have hts : r.triggers ⟨1⟩ = .ok ts := rfl
  have hperm : ts.Perm ts.reverse := (List.reverse_perm ts).symm
  obtain ⟨hdecide, hreports⟩ := decide_diagnose_perm_triggers (p := promoPolicy)
    promoVisitor_pageIsFixed hts hperm [] start start
  exact ⟨promoVisitor_pageIsFixed, hts, hperm, hrun, hrun', hdecide, hreports hrun hrun'⟩

end SurveyGate

import SurveyGate.Decision.Report
import SurveyGate.Proofs.Decision.Asking
import SurveyGate.Proofs.Decision.Probing

/-!
# `SurveyGate.Proofs.Decision.Report`: diagnoses and decisions

A diagnosis asks the page with patience, and a decision asks it once. On a page whose answers do not
change the two find the same truth values, as long as the diagnosis is `Undisturbed`: it was neither
cancelled nor stopped by its deadline, where there is a page to ask at all.

`diagnose_keys` states the keys of all entries of such a report: those of the survey's checks, those
of the terms, and those of the entries beside the conditions (`extraKeys`). All that follows is read
off them. The entries beside the conditions pass whatever they say, so the report is eligible just
when the survey is shown. The keys of the terms depend on the order of the triggers only in their
own order, and the entries of the checks do not depend on the triggers at all.
-/

set_option autoImplicit false

namespace SurveyGate

/-- A diagnosis that ended in the given run was neither cancelled nor stopped by its deadline. A
visitor without a page or without a URL to ask it at has no deadline. -/
def Undisturbed (p : ProbePolicy) (v : Visitor) (run : Run) : Prop :=
  v.page.isSome = true → v.usableUrl?.isSome = true → p.over? run = none

/-! ### Criteria -/

/-- The truth value for what a page decides. -/
def Kleene.ofDecided : Option Bool → Kleene
  | some value => .ofBool value
  | none => .indeterminate

/-- The truth value of a criterion for what a page decides. -/
def Criterion.valueOf (c : Criterion) : Option Bool → Kleene
  | some found => (c.ofAnswer found).satisfied
  | none => .indeterminate

/-- What a patient question means for a criterion is up to what it decides. -/
theorem Criterion.satisfied_ofResult (c : Criterion) (result : Except ExecutionError Bool) :
    (c.ofResult result).satisfied = c.valueOf result.toOption := by
  cases result <;> rfl

/-- What a single call means for a criterion is up to what it decides. -/
theorem Criterion.satisfied_ofReply (c : Criterion) (reply : Reply) :
    (c.ofReply reply).satisfied = c.valueOf reply.decided? := by
  rcases reply with (_ | _ | _) | _ | _ | _ <;> rfl

/-- What a question beside the conditions means is up to what it decides. -/
theorem Probe.satisfied_outcome (probe : Probe) (result : Except ExecutionError Bool) :
    (probe.outcome result).satisfied = .ofDecided result.toOption := by
  cases result <;> rfl

section
variable {p : ProbePolicy} {v : Visitor}

/-- A criterion whose examination is not disturbed comes out as when it is asked once. -/
theorem Criterion.examine_spec (hpage : v.PageIsFixed) (c : Criterion) (run : Run)
    (h : Undisturbed p v (c.examine p v run).2) :
    Undisturbed p v run ∧ (c.examine p v run).1.satisfied = (c.asked v).satisfied := by
  unfold Criterion.asked
  unfold Criterion.examine at h ⊢
  unfold Criterion.evaluate
  -- With nothing to ask, no URL or no page, both sides are the outcome of the criterion alone.
  cases hprobe : c.probe? with
  | none =>
    rw [hprobe] at h
    exact ⟨h, rfl⟩
  | some probe =>
    cases hurl : v.usableUrl? with
    | none =>
      rw [hprobe, hurl] at h
      exact ⟨h, rfl⟩
    | some url =>
      cases hp : v.page with
      | none =>
        rw [hprobe, hurl, hp] at h
        exact ⟨h, rfl⟩
      | some page =>
        obtain ⟨answer, rfl⟩ := hpage page hp
        rw [hprobe, hurl, hp] at h
        have hend : p.over? (p.ask (Page.fixed answer) ⟨url, probe⟩ run).2 = none :=
          h (by rw [hp]; rfl) (by rw [hurl]; rfl)
        have hstart := ProbePolicy.not_over_of_ask hend
        refine ⟨fun _ _ => hstart, ?_⟩
        show (c.ofResult (p.ask (Page.fixed answer) ⟨url, probe⟩ run).1).satisfied =
          (c.ofReply (Page.fixed answer [] ⟨url, probe⟩)).satisfied
        rw [c.satisfied_ofResult, c.satisfied_ofReply, ProbePolicy.toOption_ask_fixed hstart]
        rfl

/-! ### Entries beside the conditions -/

/-- The keys of the entries beside the conditions. -/
def extraKeys (s : Survey) (v : Visitor) : List (String × Kleene × Role) :=
  match v.page, v.usableUrl? with
  | some page, some url => (extraProbes s).map fun (label, probe) =>
    (label, .ofDecided (page [] ⟨url, probe⟩).decided?, .informational)
  | some _, none => s.inlineSelector.toList.map fun _ =>
    (inlineLabel, .indeterminate, .informational)
  | none, _ => []

/-- The entries beside the conditions pass whatever they say. -/
theorem keyPasses_of_mem_extraKeys (s : Survey) (v : Visitor) :
    (extraKeys s v).all keyPasses = true := by
  unfold extraKeys
  split
  · rw [List.all_map]
    exact List.all_eq_true.2 fun _ _ => rfl
  · rw [List.all_map]
    exact List.all_eq_true.2 fun _ _ => rfl
  · rfl

/-- The keys of the entries beside the conditions, when the diagnosis is not disturbed. -/
theorem extraFindings_keys (hpage : v.PageIsFixed) (s : Survey) (run : Run)
    (h : Undisturbed p v (extraFindings p s v run).2) :
    Undisturbed p v run ∧ (extraFindings p s v run).1.map Finding.key = extraKeys s v := by
  unfold extraKeys
  unfold extraFindings at h ⊢
  cases hp : v.page with
  | none =>
    rw [hp] at h
    exact ⟨h, rfl⟩
  | some page =>
    cases hurl : v.usableUrl? with
    | none =>
      rw [hp, hurl] at h
      refine ⟨h, ?_⟩
      show (s.inlineSelector.toList.map _).map Finding.key = _
      rw [List.map_map]
      rfl
    | some url =>
      obtain ⟨answer, rfl⟩ := hpage page hp
      rw [hp, hurl] at h
      have hend := h (by rw [hp]; rfl) (by rw [hurl]; rfl)
      obtain ⟨hstart, hkeys⟩ := map_mapM_of_alive (fun run => p.over? run = none)
        (f := fun entry : String × Probe =>
          examineProbe p (Page.fixed answer) url entry.1 entry.2)
        (g := Finding.key)
        (k := fun entry => (entry.1,
          Kleene.ofDecided (Page.fixed answer [] ⟨url, entry.2⟩).decided?, .informational))
        (fun entry run hrun => ProbePolicy.not_over_of_ask hrun)
        (fun entry run hrun => by
          have hlive := ProbePolicy.not_over_of_ask hrun
          show (entry.1,
            (entry.2.outcome (p.ask (Page.fixed answer) ⟨url, entry.2⟩ run).1).satisfied,
            Role.informational) = _
          rw [entry.2.satisfied_outcome, ProbePolicy.toOption_ask_fixed hlive]
          rfl)
        (extraProbes s) run hend
      exact ⟨fun _ _ => hstart, hkeys⟩

/-! ### Reports -/

variable {r : Reads} {id : SurveyId} {s : Survey} {ts : List Trigger}

/-- What cannot be loaded has a report of one entry. -/
theorem diagnose_of_load_error {label : String} {e : StorageError}
    (h : load r id = .error (label, e)) (run : Run) :
    diagnose r p id v run = (⟨id, [unreadFinding label e]⟩, run) := by
  simp only [diagnose, h]
  rfl

/-- The entries of a report: the checks, the terms, and what is beside the conditions. -/
theorem diagnose_of_load_ok (h : load r id = .ok (s, ts)) (run : Run) :
    diagnose r p id v run =
      let terms := (plan ts).mapM (·.resolve (·.examine p v)) run
      let extras := extraFindings p s v terms.2
      (⟨id, checkFindings r s v ++ terms.1 ++ extras.1⟩, extras.2) := by
  simp only [diagnose, h]
  rfl

/-- The keys of a report on a fixed page, when the diagnosis is not disturbed. -/
theorem diagnose_keys (hload : load r id = .ok (s, ts)) (hpage : v.PageIsFixed) (run : Run)
    (h : Undisturbed p v (diagnose r p id v run).2) :
    (diagnose r p id v run).1.findings.map Finding.key =
      (checkFindings r s v).map Finding.key ++
        ((plan ts).map fun term => (term.finding (·.asked v)).key) ++ extraKeys s v := by
  rw [diagnose_of_load_ok hload] at h ⊢
  -- The page is asked last about what is beside the conditions, so the terms were not disturbed
  -- either.
  obtain ⟨hterms, hextras⟩ := extraFindings_keys hpage s _ h
  obtain ⟨-, hkeys⟩ := terms_keys_of_alive (Undisturbed p v) (o := (·.asked v))
    (fun c run hc => (c.examine_spec hpage run hc).1)
    (fun c run hc => (c.examine_spec hpage run hc).2) (plan ts) run hterms
  show (checkFindings r s v ++ _ ++ _).map Finding.key = _
  rw [List.map_append, List.map_append, hkeys, hextras]

/-- Whether a report is eligible is read off its keys. -/
theorem Report.eligible_eq_all_keys (report : Report) :
    report.eligible = (report.findings.map Finding.key).all keyPasses := by
  rw [List.all_map]
  rfl

/-- A decision and an undisturbed diagnosis agree, whatever can be read. -/
theorem decide_eq_eligible (hpage : v.PageIsFixed) (calls : List PageCall) (run : Run)
    (hrun : Undisturbed p v (diagnose r p id v run).2) :
    (decide r id v calls).1 = (diagnose r p id v run).1.eligible := by
  cases hload : load r id with
  | error e =>
    -- What cannot be read is not shown, and its one entry does not pass.
    obtain ⟨label, e⟩ := e
    rw [decide_of_load_error hload, diagnose_of_load_error hload]
    rfl
  | ok loaded =>
    obtain ⟨s, ts⟩ := loaded
    rw [decide_eq_and hload hpage, Report.eligible_eq_all_keys, diagnose_keys hload hpage run hrun,
      List.all_append, List.all_append, keyPasses_of_mem_extraKeys, Bool.and_true, List.all_map,
      List.all_map]
    rfl

/-- Three attempts at each question of what is visible, a second apart, within ten seconds. -/
def promoPolicy : ProbePolicy := ⟨3, 1000, 10000⟩

/-- The question about the promotion is put three times and stays open; the decision gives it up at
once. Both show the survey. -/
theorem decide_eq_eligible_promo :
    promoVisitor.PageIsFixed ∧
      Undisturbed promoPolicy promoVisitor
        (diagnose promoStore.reads promoPolicy ⟨1⟩ promoVisitor (Run.start false)).2 ∧
      (decide promoStore.reads ⟨1⟩ promoVisitor []).1 =
        (diagnose promoStore.reads promoPolicy ⟨1⟩ promoVisitor (Run.start false)).1.eligible := by
  have hrun : Undisturbed promoPolicy promoVisitor
      (diagnose promoStore.reads promoPolicy ⟨1⟩ promoVisitor (Run.start false)).2 :=
    fun _ _ => by decide
  exact ⟨promoVisitor_pageIsFixed, hrun, decide_eq_eligible promoVisitor_pageIsFixed [] _ hrun⟩

end

end SurveyGate

import Mathlib.Data.List.Forall2
import SurveyGate.Proofs.Decision.Report

/-!
# `SurveyGate.Proofs.Decision.Outline`: the entries of a report

What a report says is partly up to the page: it may answer, fail, hang until the deadline or not
answer at all, and the diagnosis may be cancelled at any call. Which entries the report has is not.
A `Slot` is what is known of an entry before the page is asked, and `outline` lists the slots of a
report: the conditions of the survey, one entry for each trigger that opens a term, and what is
asked beside the conditions.

Every report follows its outline (`diagnose_admitted`), whatever the page does, so a failure shows
in the outcomes of the entries about the page and nowhere else. The start of the run says when its
caller cancels it and when its calls have used up the time, which may be at any look, also at one that
follows on a call in flight. `diagnose_outline` compares two reports, for any two starts.
-/

set_option autoImplicit false

namespace SurveyGate

/-- The label of an entry and the part it plays. -/
def Finding.heading (f : Finding) : String × Role := (f.label, f.role)

/-- What is known of an entry of a report before the page is asked. -/
inductive Slot where
  /-- An entry in which the page has no part. -/
  | known (f : Finding)
  /-- An entry whose outcome is up to the page. -/
  | asked (heading : String × Role)
  deriving DecidableEq

namespace Slot

/-- The label of the entry and the part it plays. -/
def heading : Slot → String × Role
  | .known f => f.heading
  | .asked heading => heading

/-- Whether an entry is one that the slot announces. -/
def Admits : Slot → Finding → Prop
  | .known f, f' => f' = f
  | .asked heading, f' => f'.heading = heading

/-- An entry has the heading that its slot announces. -/
theorem Admits.heading_eq {slot : Slot} {f : Finding} (h : slot.Admits f) :
    f.heading = slot.heading := by
  cases slot with
  | known f' => exact congrArg Finding.heading h
  | asked heading => exact h

variable {slots : List Slot} {fs : List Finding}

/-- A report has the headings that its outline announces. -/
theorem map_heading_eq (h : List.Forall₂ Admits slots fs) :
    fs.map Finding.heading = slots.map heading := by
  induction h with
  | nil => rfl
  | cons hadmits _ ih => rw [List.map_cons, List.map_cons, hadmits.heading_eq, ih]

/-- An entry in which the page has no part stands in the report as it is. -/
theorem getElem?_of_known (h : List.Forall₂ Admits slots fs) {i : Nat} {f : Finding}
    (hknown : slots[i]? = some (.known f)) : fs[i]? = some f := by
  induction h generalizing i with
  | nil => cases hknown
  | cons hadmits _ ih =>
    cases i with
    | zero =>
      rw [List.getElem?_cons_zero] at hknown ⊢
      obtain rfl := Option.some.inj hknown
      exact congrArg some hadmits
    | succ i =>
      rw [List.getElem?_cons_succ] at hknown ⊢
      exact ih hknown

end Slot

/-! ### Outlines -/

/-- Whether a page is asked about a criterion, if there is one. -/
def Criterion.isAsked (v : Visitor) (c : Criterion) : Bool :=
  c.probe?.isSome && v.usableUrl?.isSome

/-- Whether a page is asked about a term, if there is one. -/
def Term.isAsked (v : Visitor) (term : Term) : Bool :=
  term.triggers.any (·.criterion.isAsked v)

/-- The entry of a term. -/
def Term.slot (v : Visitor) (term : Term) : Slot :=
  let f := term.finding (·.outcome v)
  if term.isAsked v then .asked f.heading else .known f

/-- The entries beside the conditions: on the tag, if there is a URL, and on the inline survey, if the
survey is one. -/
def extraSlots (s : Survey) (v : Visitor) : List Slot :=
  match v.usableUrl? with
  | some _ => .asked (tagLabel, .informational) ::
    s.inlineSelector.toList.map fun _ => .asked (inlineLabel, .informational)
  | none => s.inlineSelector.toList.map fun _ =>
    .known ⟨inlineLabel, .missingUrl inlineQuestion, .informational⟩

/-- The entries of a report on a page: the conditions of the survey, one entry for each trigger that
opens a term, and the entries beside the conditions. -/
def outline (r : Reads) (s : Survey) (ts : List Trigger) (v : Visitor) : List Slot :=
  (checkFindings r s v).map .known ++ (openers [] ts).map (fun t => (t.term ts).slot v) ++
    extraSlots s v

/-- Whether a survey sets a condition. -/
def Survey.sets (s : Survey) : Check → Bool
  | .deviceType => s.targeting ≠ .all
  | .dismissal => s.stopsWhenDismissed
  | _ => true

/-! ### Terms -/

section
variable {σ α β : Type} {decide : Criterion → StateM σ Outcome} {o : Criterion → Outcome}

/-- What holds of the result of each step holds of the results of a run. -/
theorem forall₂_mapM {R : α → β → Prop} {f : α → StateM σ β} (xs : List α)
    (h : ∀ a ∈ xs, ∀ s, R a (f a s).1) (s : σ) : List.Forall₂ R xs (xs.mapM f s).1 := by
  induction xs generalizing s with
  | nil => exact .nil
  | cons x xs ih =>
    obtain ⟨hhead, htail⟩ := List.forall_mem_cons.1 h
    rw [List.mapM_cons]
    exact .cons (hhead s) (ih htail _)

/-- The heading of a trigger does not depend on its outcome. -/
theorem Trigger.heading_finding (t : Trigger) (o o' : Outcome) :
    (t.finding o).heading = (t.finding o').heading := by
  unfold Trigger.finding
  split <;> rfl

/-- The heading of a term does not depend on how its criteria come out. -/
theorem Term.heading_resolve (term : Term) (o : Criterion → Outcome) (s : σ) :
    (term.resolve decide s).1.heading = (term.finding o).heading := by
  cases term with
  | single t => exact t.heading_finding _ _
  | anyOf g members => rfl

/-- A term whose criteria come out in a known way does so too. -/
theorem Term.resolve_of_known (term : Term)
    (h : ∀ t ∈ term.triggers, ∀ s, (decide t.criterion s).1 = o t.criterion) (s : σ) :
    (term.resolve decide s).1 = term.finding o := by
  cases term with
  | single t => exact congrArg t.finding (h t List.mem_cons_self s)
  | anyOf g members =>
    -- Members are decided one after the other, but what they come out as does not hang on that.
    have hpairs := forall₂_mapM members (R := fun t m => (t, o t.criterion) = m)
      (f := fun t : Trigger => do return (t, ← decide t.criterion))
      (fun t ht s => congrArg (Prod.mk t) (h t ht s).symm) s
    rw [← List.forall₂_map_left_iff, List.forall₂_eq_eq_eq] at hpairs
    exact congrArg g.finding hpairs.symm

end

/-! ### Reports follow their outline -/

/-- The visitor on a page that can be asked. -/
def Visitor.on (v : Visitor) (page : Page) : Visitor := { v with page := some page }

/-- A page does not change the URL of its visitor. -/
theorem Visitor.usableUrl?_on (v : Visitor) (page : Page) :
    (v.on page).usableUrl? = v.usableUrl? := rfl

/-- Without an answer of the page, a criterion comes out the same way on every page. -/
theorem Criterion.outcome_on (c : Criterion) (v : Visitor) (page : Page) :
    c.outcome (v.on page) = c.outcome v := by
  cases c <;> rfl

section
variable {p : ProbePolicy} {r : Reads} {id : SurveyId} {s : Survey} {ts : List Trigger}
  {v : Visitor}

/-- The checks do not look at the page. -/
theorem checkFindings_on (r : Reads) (s : Survey) (v : Visitor) (page : Page) :
    checkFindings r s (v.on page) = checkFindings r s v := rfl

/-- A criterion is a question to a page, or it comes out without one. -/
theorem Criterion.examine_cases (c : Criterion) (p : ProbePolicy) (v : Visitor) :
    (∃ probe url page, c.probe? = some probe ∧ v.usableUrl? = some url ∧ v.page = some page ∧
      c.examine p v = (do return c.ofResult (← p.ask page ⟨url, probe⟩))) ∨
    c.examine p v = pure (c.outcome v) := by
  unfold examine
  split
  · rename_i probe url page hprobe hurl hpage
    exact .inl ⟨probe, url, page, hprobe, hurl, hpage, rfl⟩
  · exact .inr rfl

/-- A criterion about which no page is asked comes out without one. -/
theorem Criterion.examine_of_not_asked {c : Criterion} (h : c.isAsked v = false) :
    c.examine p v = pure (c.outcome v) := by
  rcases c.examine_cases p v with ⟨probe, url, page, hprobe, hurl, -, -⟩ | hpure
  · simp [isAsked, hprobe, hurl] at h
  · exact hpure

/-- A term comes out as its slot says. -/
theorem Term.slot_admits (term : Term) (page : Page) (run : Run) :
    (term.slot v).Admits (term.resolve (·.examine p (v.on page)) run).1 := by
  unfold Term.slot
  cases hasked : term.isAsked v with
  | true => exact term.heading_resolve _ run
  | false =>
    refine term.resolve_of_known (fun t ht run => ?_) run
    have hnot : t.criterion.isAsked v = false := by
      simpa using List.any_eq_false.1 hasked t ht
    -- Whether a page is asked does not depend on the page.
    rw [Criterion.examine_of_not_asked (v := v.on page) hnot, ← t.criterion.outcome_on v page]
    rfl

/-- The entries of the terms stand in the order of the triggers that open them. -/
theorem terms_admitted (ts : List Trigger) (page : Page) (run : Run) :
    List.Forall₂ Slot.Admits ((openers [] ts).map fun t => (t.term ts).slot v)
      ((plan ts).mapM (·.resolve (·.examine p (v.on page))) run).1 := by
  have hterms := forall₂_mapM (plan ts) (R := fun term f => (Term.slot v term).Admits f)
    (fun term _ run => term.slot_admits (p := p) page run) run
  rw [← List.forall₂_map_left_iff] at hterms
  -- The terms are listed by their openers on one side only.
  have hslots : (plan ts).map (Term.slot v) = (openers [] ts).map fun t => (t.term ts).slot v := by
    rw [plan_eq_map_openers, List.map_map]
    rfl
  rwa [hslots] at hterms

/-- With a URL, each question beside the conditions has a slot. -/
theorem extraSlots_of_url {url : String} (s : Survey) (h : v.usableUrl? = some url) :
    extraSlots s v =
      (extraProbes s).map fun entry => .asked (entry.1, .informational) := by
  unfold extraSlots
  rw [h]
  cases hselector : s.inlineSelector <;> simp [extraProbes, hselector]

/-- The entries beside the conditions follow their slots. -/
theorem extraFindings_admitted (s : Survey) (page : Page) (run : Run) :
    List.Forall₂ Slot.Admits (extraSlots s v) (extraFindings p s (v.on page) run).1 := by
  cases hurl : v.usableUrl? with
  | none =>
    unfold extraSlots extraFindings
    rw [v.usableUrl?_on, hurl]
    show List.Forall₂ _ _ (s.inlineSelector.toList.map _)
    rw [List.forall₂_map_left_iff, List.forall₂_map_right_iff, List.forall₂_same]
    exact fun _ _ => rfl
  | some url =>
    rw [extraSlots_of_url s hurl, List.forall₂_map_left_iff]
    unfold extraFindings
    rw [v.usableUrl?_on, hurl]
    exact forall₂_mapM (extraProbes s)
      (f := fun entry : String × Probe => examineProbe p page url entry.1 entry.2)
      (fun _ _ _ => rfl) run

/-- Whatever the page does, a report follows its outline. -/
theorem diagnose_admitted (hs : r.survey id = .ok s) (hts : r.triggers id = .ok ts) (page : Page)
    (run : Run) :
    List.Forall₂ Slot.Admits (outline r s ts v)
      (diagnose r p id (v.on page) run).1.findings := by
  rw [diagnose_of_load_ok (load_eq_ok_iff.2 ⟨hs, hts⟩)]
  have hchecks : List.Forall₂ Slot.Admits ((checkFindings r s v).map .known)
      (checkFindings r s (v.on page)) := by
    rw [checkFindings_on, List.forall₂_map_left_iff, List.forall₂_same]
    exact fun _ _ => rfl
  exact List.rel_append (List.rel_append hchecks (terms_admitted ts page run))
    (extraFindings_admitted s page _)

/-! ### The conditions of the survey -/

/-- The entry on a state of the cap has the label of the check. -/
theorem label_capStateFinding (limit : UInt32) (state : CapState) :
    (capStateFinding limit state).label = Check.cap.label := by
  rcases state with _ | _ | _ <;> rfl

/-- The entry on a state of refire has the label of the check. -/
theorem label_refireStateFinding (state : RefireState) :
    (refireStateFinding state).label = Check.refire.label := by
  cases state <;> rfl

/-- The check of the class of devices has an entry unless every class is enabled. -/
theorem label_deviceTypeFinding? (s : Survey) (v : Visitor) :
    (deviceTypeFinding? s v).map Finding.label =
      if s.targeting ≠ .all then some Check.deviceType.label else none := by
  unfold deviceTypeFinding?
  by_cases hall : s.targeting = .all
  · simp [hall]
  · rw [if_neg hall, if_pos hall]
    cases v.deviceType <;> rfl

/-- The check of the cap always has an entry with its label. -/
theorem label_capFinding (r : Reads) (s : Survey) (v : Visitor) :
    (capFinding r s v).label = Check.cap.label := by
  unfold capFinding
  cases s.ignoresCap with
  | true => rfl
  | false =>
    cases s.cap.enabled with
    | false => rfl
    | true =>
      cases v.device with
      | none => rfl
      | some device =>
        cases hlog : capLog r s device with
        | error e => simp [hlog, Check.unreadable, Check.required, Finding.required]
        | ok log => simp [hlog, label_capStateFinding]

/-- The check of refire always has an entry with its label. -/
theorem label_refireFinding (r : Reads) (s : Survey) (v : Visitor) :
    (refireFinding r s v).label = Check.refire.label := by
  unfold refireFinding
  cases deviceRecord r s v with
  | anonymous => rfl
  | unavailable e => rfl
  | known h => exact label_refireStateFinding _

/-- The check of dismissals has an entry if the survey stops when dismissed. -/
theorem label_dismissalFinding? (r : Reads) (s : Survey) (v : Visitor) :
    (dismissalFinding? r s v).map Finding.label =
      if s.stopsWhenDismissed then some Check.dismissal.label else none := by
  unfold dismissalFinding?
  cases s.stopsWhenDismissed with
  | false => rfl
  | true =>
    cases deviceRecord r s v with
    | anonymous => rfl
    | unavailable e => rfl
    | known h =>
      show ((if h.any History.dismissedWithoutAnswer then _ else _ : Option Finding)).map _ = _
      split <;> rfl

/-- A check has an entry with its label if the survey sets its condition. -/
theorem Check.label_finding? (r : Reads) (s : Survey) (v : Visitor) (c : Check) :
    (c.finding? r s v).map Finding.label = if s.sets c then some c.label else none := by
  cases c with
  | live => rfl
  | schedule => rfl
  | goal =>
    show some (goalFinding r s).label = _
    unfold goalFinding
    split <;> rfl
  | deviceType =>
    show (deviceTypeFinding? s v).map _ = _
    simp [label_deviceTypeFinding?, Survey.sets]
  | cap => exact congrArg some (label_capFinding r s v)
  | refire => exact congrArg some (label_refireFinding r s v)
  | dismissal => exact label_dismissalFinding? r s v

/-- The entries of the checks are those of the conditions that the survey sets, in their order. -/
theorem map_label_checkFindings (r : Reads) (s : Survey) (v : Visitor) :
    (checkFindings r s v).map Finding.label = (Check.all.filter s.sets).map Check.label := by
  rw [checkFindings, List.map_filterMap, ← List.filterMap_eq_map, List.filterMap_filter]
  exact List.filterMap_congr fun c _ => c.label_finding? r s v

/-! ### Criteria on a page -/

/-- A trigger on a page stands on its own. -/
theorem Group.of?_of_probe {t : Trigger} (h : t.criterion.probe?.isSome = true) :
    Group.of? t = none := by
  unfold Group.of?
  split
  · rfl
  · cases hc : t.criterion <;> simp_all [Criterion.probe?]

/-- A member of a group asks nothing of a page. -/
theorem Group.probe?_eq_none {g : Group} {t : Trigger} (h : Group.of? t = some g) :
    t.criterion.probe? = none := by
  by_contra hprobe
  rw [of?_of_probe (Option.isSome_iff_ne_none.2 hprobe)] at h
  cases h

/-- A page is asked about a term if it is asked about the trigger that opens it. -/
theorem Trigger.isAsked_term (ts : List Trigger) (t : Trigger) :
    (t.term ts).isAsked v = t.criterion.isAsked v := by
  have hmember {u : Trigger} {g : Group} (hu : Group.of? u = some g) :
      u.criterion.isAsked v = false := by
    simp [Criterion.isAsked, Group.probe?_eq_none hu]
  unfold Trigger.term
  cases ht : Group.of? t with
  | none => simp [Term.isAsked, Term.triggers]
  | some g =>
    rw [hmember ht]
    exact List.any_eq_false.2 fun u hu => by simp [hmember (Group.mem_members.1 hu).2]

end

/-- Take a survey that can be read, a visitor, and any two pages, policies and starts of a
diagnosis. The two reports have the same labels and roles in the same order, those of the outline, and
the entries in which a page has no part are the same. The entries are

- the conditions that the survey sets, in their order;
- one for each trigger that opens a term, in the order of the triggers, where a group is opened by
  its first member and has no part for a page;
- the entries beside the conditions.

A trigger on a page opens a term of its own. -/
theorem diagnose_outline {r : Reads} {id : SurveyId} {s : Survey} {ts : List Trigger}
    (hs : r.survey id = .ok s) (hts : r.triggers id = .ok ts) (v : Visitor) :
    (∀ (page page' : Page) (p p' : ProbePolicy) (run run' : Run),
      let fs := (diagnose r p id (v.on page) run).1.findings
      let fs' := (diagnose r p' id (v.on page') run').1.findings
      fs.map Finding.heading = (outline r s ts v).map Slot.heading ∧
      fs'.map Finding.heading = fs.map Finding.heading ∧
      ∀ (i : Nat) (f : Finding), (outline r s ts v)[i]? = some (.known f) →
        fs[i]? = some f ∧ fs'[i]? = some f) ∧
    (checkFindings r s v).map Finding.label = (Check.all.filter s.sets).map Check.label ∧
    (openers [] ts).Sublist ts ∧
    (∀ t : Trigger, (t.term ts).isAsked v = t.criterion.isAsked v) ∧
    ((openers [] ts).filter fun t => t.criterion.probe?.isSome) =
      (ts.filter fun t => t.criterion.probe?.isSome) ∧
    ∀ t : Trigger, t.criterion.probe?.isSome = true → t.term ts = .single t := by
  refine ⟨fun page page' p p' run run' => ?_, map_label_checkFindings r s v,
    openers_sublist [] ts, Trigger.isAsked_term ts,
    filter_openers (fun t => Group.of?_of_probe) [] ts, fun t ht => ?_⟩
  · have hfs := diagnose_admitted (p := p) (v := v) hs hts page run
    have hfs' := diagnose_admitted (p := p') (v := v) hs hts page' run'
    refine ⟨Slot.map_heading_eq hfs, ?_, fun i f hknown => ?_⟩
    · rw [Slot.map_heading_eq hfs', Slot.map_heading_eq hfs]
    · exact ⟨Slot.getElem?_of_known hfs hknown, Slot.getElem?_of_known hfs' hknown⟩
  · rw [Trigger.term, Group.of?_of_probe ht]

/-! ### An inline survey on two pages -/

/-- A live survey that is shown inline. -/
def inlineSurvey : Survey :=
  ((Survey.draft ⟨1⟩ ⟨7⟩ "NPS").edit (.status .live)).edit (.inlineSelector "#survey")

/-- The store in which the survey stays away from promotions and wants one of two plans. -/
def inlineStore : Store := promoStore.insertSurvey inlineSurvey

/-- On one page the first question hangs; on the other page the diagnosis is cancelled from the
start. Both reports have nine entries, the group of plans before the promotion, and after it the tag
and the place of the survey. -/
theorem diagnose_outline_inline :
    let v := promoVisitor
    let fs := (diagnose inlineStore.reads promoPolicy ⟨1⟩ (v.on fun _ _ => .hung)
      (Run.start false)).1.findings
    let fs' := (diagnose inlineStore.reads promoPolicy ⟨1⟩
      (v.on (Page.fixed fun _ => .ok (.found true))) (Run.start true)).1.findings
    fs.length = 9 ∧ fs'.map Finding.heading = fs.map Finding.heading ∧ fs'[5]? = fs[5]? ∧
      fs'[6]? ≠ fs[6]? := by
  intro v fs fs'
  have hread : inlineStore.reads.survey ⟨1⟩ = .ok inlineSurvey := rfl
  obtain ⟨hreports, -⟩ := diagnose_outline hread rfl v
  obtain ⟨-, hheadings, hknown⟩ := hreports (fun _ _ => .hung)
    (Page.fixed fun _ => .ok (.found true)) promoPolicy promoPolicy (Run.start false)
    (Run.start true)
  obtain ⟨hplans, hplans'⟩ := hknown 5 _ rfl
  exact ⟨by decide +kernel, hheadings, hplans'.trans hplans.symm, by decide +kernel⟩

end SurveyGate

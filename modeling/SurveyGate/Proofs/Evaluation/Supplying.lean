import SurveyGate.Proofs.Decision.Asking
import SurveyGate.Proofs.Evaluation.Signals

/-!
# `SurveyGate.Proofs.Evaluation.Supplying`: visitors of whom more is known

One visitor keeps what another one supplies if every signal of the other is there with the same
value (`Visitor.Keeps`). A criterion that misses one of the signals it looks at is not decided
(`Criterion.evaluate_of_missing`), so a decided criterion has all of them, and whoever keeps them
gets the same outcome. Nothing that is learned later overturns what was decided before
(`Criterion.decided_for_good`), provided that the page answers a question the same way each time it
is asked.

At the other end nothing is known at all, and then only a visit of anyone is decided.
-/

set_option autoImplicit false

namespace SurveyGate

/-- Every signal that one visitor supplies is supplied by another with the same value. A table of
device data or of earlier answers is one signal. -/
def Visitor.Keeps (w v : Visitor) : Prop :=
  ∀ s x, v.signal? s = some x → w.signal? s = some x

namespace Criterion

section
variable {v w : Visitor} {c : Criterion}

/-! ### Missing signals -/

/-- What is said of a page that was not asked decides nothing. -/
theorem withoutPage_satisfied (c : Criterion) (v : Visitor) :
    (c.withoutPage v).satisfied = .indeterminate := by
  unfold withoutPage
  cases v.usableUrl? <;> rfl

/-- The signals of a visitor do not decide a criterion that misses one of its own. -/
theorem outcome_of_missing {s : Signal} (hs : s ∈ c.signals) (h : v.signal? s = none) :
    (c.outcome v).satisfied = .indeterminate := by
  cases c with
  | pageElementVisible | pageElementClicked | textOnPage => exact withoutPage_satisfied _ v
  | urlContains | urlEquals | regexMatches =>
    cases List.mem_singleton.1 hs
    have hurl : v.url = none := h
    simp only [outcome, Visitor.strippedUrl?, Visitor.usableUrl?, hurl]
    rfl
  | geo =>
    cases List.mem_singleton.1 hs
    have hlocation : v.location = none := h
    simp only [outcome, Visitor.usableLocation?, hlocation]
    rfl
  | visit audience =>
    cases audience with
    | all => cases hs
    | new | returning =>
      cases List.mem_singleton.1 hs
      have hvisits : v.visits = none := h
      simp only [outcome, Audience.outcome, hvisits]
      rfl
  | _ =>
    -- The others look at one signal as it is, and say so first when it is not there.
    cases List.mem_singleton.1 hs
    simp only [Visitor.signal?] at h
    simp only [outcome, Outcome.atLeast, Matcher.outcome, h]
    rfl

/-- A page is asked only where there is one and a URL to ask it at. -/
theorem evaluate_of_nowhere (h : v.url = none ∨ v.page = none) (calls : List PageCall) :
    c.evaluate v calls = (c.outcome v, calls) := by
  unfold evaluate
  cases c.probe? with
  | none => rfl
  | some probe =>
    cases h with
    | inl hurl =>
      have husable : v.usableUrl? = none := by rw [Visitor.usableUrl?, hurl]; rfl
      rw [husable]
      rfl
    | inr hpage =>
      rw [hpage]
      cases v.usableUrl? <;> rfl

/-- A criterion that misses one of the signals it looks at is not decided. -/
theorem evaluate_of_missing {s : Signal} (hs : s ∈ c.signals) (h : v.signal? s = none)
    (calls : List PageCall) : (c.evaluate v calls).1.satisfied = .indeterminate := by
  cases hneeds : c.kind.needsPage with
  | false =>
    rw [evaluate_of_not_needsPage hneeds]
    exact outcome_of_missing hs h
  | true =>
    -- Of a criterion about a page it is the URL or the page that is missing.
    have hnowhere : v.url = none ∨ v.page = none := by
      cases c with
      | pageElementVisible | pageElementClicked | textOnPage =>
        simp only [signals, List.mem_cons, List.not_mem_nil, or_false] at hs
        rcases hs with rfl | rfl
        · exact .inl h
        · exact .inr h
      | _ => cases hneeds
    rw [evaluate_of_nowhere hnowhere]
    exact outcome_of_missing hs h

/-! ### Signals that stay -/

/-- Where a criterion is decided, every signal it looks at is there, so whoever keeps these signals
shows the criterion the same ones. -/
theorem signals_eq_of_decided {calls : List PageCall} (hkeeps : w.Keeps v)
    (hdecided : (c.evaluate v calls).1.satisfied ≠ .indeterminate) :
    ∀ s ∈ c.signals, w.signal? s = v.signal? s := by
  intro s hs
  cases hsignal : v.signal? s with
  | none => exact absurd (evaluate_of_missing hs hsignal calls) hdecided
  | some x => exact hkeeps s x hsignal

/-- A criterion that needs no signal is one on a visit of anyone. -/
theorem signals_eq_nil_iff : c.signals = [] ↔ ∃ visits, c = .visit .all visits := by
  constructor
  · intro h
    cases c with
    | visit audience visits =>
      cases audience with
      | all => exact ⟨visits, rfl⟩
      | new | returning => cases h
    | _ => cases h
  · rintro ⟨visits, rfl⟩
    rfl

/-- With no signal at all, only a visit of anyone is decided. -/
theorem evaluate_of_silent (hsilent : ∀ s, v.signal? s = none) (calls : List PageCall) :
    (c.evaluate v calls).1.satisfied = .indeterminate ↔ ∀ visits, c ≠ .visit .all visits := by
  constructor
  · rintro h visits rfl
    cases h
  · intro h
    have hsome : c.signals ≠ [] := fun hnil => by
      obtain ⟨visits, hc⟩ := signals_eq_nil_iff.1 hnil
      exact h visits hc
    obtain ⟨s, hs⟩ := List.exists_mem_of_ne_nil _ hsome
    exact evaluate_of_missing hs (hsilent s) calls

end

/-- What a criterion makes of knowing more.

* What is decided stays decided, with the same message, for every visitor who keeps what was
  supplied, whatever else is supplied and whatever was asked before.
* Where no signal is supplied, a criterion is open unless it is on a visit of anyone. -/
theorem decided_for_good (c : Criterion) :
    (∀ v w : Visitor, v.PageIsFixed → w.Keeps v → ∀ calls calls',
      (c.evaluate v calls).1.satisfied ≠ .indeterminate →
      (c.evaluate w calls').1 = (c.evaluate v calls).1) ∧
    (∀ v : Visitor, (∀ s, v.signal? s = none) → ∀ calls,
      ((c.evaluate v calls).1.satisfied = .indeterminate ↔
        ∀ visits, c ≠ .visit .all visits)) := by
  refine ⟨fun v w hpage hkeeps calls calls' hdecided => ?_, fun v hsilent calls =>
    evaluate_of_silent hsilent calls⟩
  have hsame : c.SeesSame w v := seesSame_of_signals (signals_eq_of_decided hkeeps hdecided)
  -- The two are now asked alike, and a fixed page does not mind what it was asked before.
  rw [evaluate_congr hsame, evaluate_eq_asked hpage, evaluate_eq_asked hpage]

end Criterion

/-! ### A visitor who turns out to be a customer -/

/-- A visitor on a page with a promotion. -/
def guestVisitor : Visitor :=
  { Visitor.unknown default with
    url := some "site.com"
    page := some (Page.fixed fun _ => .ok (.found true)) }

/-- The same visitor once the application has told more, a day later and on another device. -/
def memberVisitor : Visitor :=
  { guestVisitor with
    device := some ⟨"tab"⟩
    visits := some 3
    deviceData := some (.ofList [("plan", .text "team")])
    now := .latest }

/-- The member tells all that the guest tells. -/
theorem memberVisitor_keeps : memberVisitor.Keeps guestVisitor := by
  intro s x h
  cases s with
  | url | page => exact h
  | _ => cases h

/-- The promotion was seen and stays so, while of a visitor of whom nothing is known it cannot be
told. -/
theorem decided_for_good_promo :
    let c : Criterion := .pageElementVisible "#promo"
    (guestVisitor.PageIsFixed ∧ memberVisitor.Keeps guestVisitor ∧
      (c.evaluate guestVisitor []).1.satisfied = .yes) ∧
    (∀ calls, (c.evaluate memberVisitor calls).1 = (c.evaluate guestVisitor []).1) ∧
    (∀ calls, (c.evaluate (.unknown .latest) calls).1.satisfied = .indeterminate) := by
  intro c
  have hpage : guestVisitor.PageIsFixed := Visitor.pageIsFixed_of_eq rfl
  have hseen : (c.evaluate guestVisitor []).1.satisfied = .yes := by decide
  have hsilent : ∀ s, (Visitor.unknown .latest).signal? s = none := fun s => by cases s <;> rfl
  refine ⟨⟨hpage, memberVisitor_keeps, hseen⟩, fun calls => ?_, fun calls => ?_⟩
  · refine (Criterion.decided_for_good c).1 guestVisitor memberVisitor hpage memberVisitor_keeps
      [] calls ?_
    rw [hseen]
    decide
  · exact ((Criterion.decided_for_good c).2 _ hsilent calls).2 fun _ => Criterion.noConfusion

end SurveyGate

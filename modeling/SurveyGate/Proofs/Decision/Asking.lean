import SurveyGate.Decision.Basic
import SurveyGate.Proofs.Decision.Check
import SurveyGate.Proofs.Decision.Term

/-!
# `SurveyGate.Proofs.Decision.Asking`: terms that ask a page

Deciding a criterion may call a page, so terms come out in a run that carries a state. The lemmas of
the first part relate such a run to the outcomes of criteria that are known in advance. They are
stated for states that a predicate `Alive` accepts at the end: a step that ends in a live state
began in one, and such a step decides its criterion as expected. With the predicate that accepts
every state they speak of all runs, and a diagnosis uses the states in which the run is not over.

A page whose answers do not change decides a criterion the same way whenever it is asked
(`Criterion.evaluate_eq_asked`). So `decide` with such a page is the conjunction of what the survey
asks and of what its terms ask (`decide_eq_and`), and stopping early does not show. For any page a
survey that is shown allows its visitor (`allows_of_decide`).
-/

set_option autoImplicit false

namespace SurveyGate

/-! ### Runs of terms -/

section
variable {σ α β γ : Type} (Alive : σ → Prop)

/-- The results of steps that end in a live state, one step after the other. -/
theorem map_mapM_of_alive {f : α → StateM σ β} {g : β → γ} {k : α → γ}
    (hback : ∀ a s, Alive (f a s).2 → Alive s)
    (hval : ∀ a s, Alive (f a s).2 → g (f a s).1 = k a) (xs : List α) (s : σ)
    (h : Alive (xs.mapM f s).2) : Alive s ∧ (xs.mapM f s).1.map g = xs.map k := by
  induction xs generalizing s with
  | nil => exact ⟨h, rfl⟩
  | cons x xs ih =>
    -- The end of the run is that of the rest, so liveness comes back from there.
    rw [List.mapM_cons] at h ⊢
    obtain ⟨hmid, htail⟩ := ih (f x s).2 h
    refine ⟨hback x s hmid, ?_⟩
    rw [List.map_cons, ← hval x s hmid, ← htail]
    rfl

variable {decide : Criterion → StateM σ Outcome} {o : Criterion → Outcome}

/-- The key of the entry of a trigger, included or excluded. -/
theorem Trigger.key_finding (t : Trigger) (o : Outcome) :
    (t.finding o).key =
      if t.excluded then (t.summary, o.satisfied.negate, .failOpen)
      else (t.summary ++ "?", o.satisfied, .required) := by
  unfold Trigger.finding
  split <;> rfl

/-- A term whose run ends in a live state comes out as the known outcomes of its criteria say. -/
theorem Term.key_resolve_of_alive (hback : ∀ c s, Alive (decide c s).2 → Alive s)
    (hval : ∀ c s, Alive (decide c s).2 → (decide c s).1.satisfied = (o c).satisfied)
    (term : Term) (s : σ) (h : Alive (term.resolve decide s).2) :
    Alive s ∧ (term.resolve decide s).1.key = (term.finding o).key := by
  cases term with
  | single t =>
    have hend : Alive (decide t.criterion s).2 := h
    refine ⟨hback _ s hend, ?_⟩
    show (t.finding (decide t.criterion s).1).key = (t.finding (o t.criterion)).key
    rw [t.key_finding, t.key_finding, hval _ s hend]
  | anyOf g members =>
    -- Messages of members may differ; the key of a group is made from their values alone.
    obtain ⟨hstart, hvalues⟩ := map_mapM_of_alive Alive
      (f := fun t : Trigger => do return (t, ← decide t.criterion))
      (g := fun m => m.2.satisfied) (k := fun t => (o t.criterion).satisfied)
      (fun t s ht => hback t.criterion s ht) (fun t s ht => hval t.criterion s ht) members s h
    refine ⟨hstart, ?_⟩
    show (g.finding _).key = (g.finding _).key
    rw [g.key_finding, g.key_finding, List.map_map]
    exact congrArg (fun ks => (g.label, Kleene.anyOf ks, Role.required)) hvalues

/-- The keys of terms whose run ends in a live state. -/
theorem terms_keys_of_alive (hback : ∀ c s, Alive (decide c s).2 → Alive s)
    (hval : ∀ c s, Alive (decide c s).2 → (decide c s).1.satisfied = (o c).satisfied)
    (terms : List Term) (s : σ) (h : Alive (terms.mapM (·.resolve decide) s).2) :
    Alive s ∧ (terms.mapM (·.resolve decide) s).1.map Finding.key =
      terms.map fun term => (term.finding o).key :=
  map_mapM_of_alive Alive
    (fun term s hs => (Term.key_resolve_of_alive Alive hback hval term s hs).1)
    (fun term s hs => (Term.key_resolve_of_alive Alive hback hval term s hs).2) terms s h

/-- The run of the rest of the terms begins where the run of the first one ended. -/
theorem allPass_cons_apply (term : Term) (rest : List Term) (s : σ) :
    allPass decide (term :: rest) s =
      if (term.resolve decide s).1.passes then allPass decide rest (term.resolve decide s).2
      else (false, (term.resolve decide s).2) := by
  show (if (term.resolve decide s).1.passes then allPass decide rest else pure false)
    (term.resolve decide s).2 = _
  by_cases hp : (term.resolve decide s).1.passes = true
  · rw [if_pos hp, if_pos hp]
  · rw [if_neg hp, if_neg hp]
    rfl

/-- Stopping at the first term that does not pass gives the answer of looking at all terms. -/
theorem allPass_eq_all (hval : ∀ c s, (decide c s).1.satisfied = (o c).satisfied)
    (terms : List Term) (s : σ) :
    (allPass decide terms s).1 = terms.all fun term => (term.finding o).passes := by
  induction terms generalizing s with
  | nil => rfl
  | cons term rest ih =>
    -- A decision knows no end of a run, so every state is live.
    have hkey := (Term.key_resolve_of_alive (fun _ => True) (fun _ _ _ => trivial)
      (fun c s _ => hval c s) term s trivial).2
    have hpasses : (term.resolve decide s).1.passes = (term.finding o).passes := by
      rw [Finding.passes_eq_keyPasses, hkey, Finding.passes_eq_keyPasses]
    rw [allPass_cons_apply, List.all_cons, ← hpasses]
    cases (term.resolve decide s).1.passes with
    | true => exact ih _
    | false => rfl

end

/-! ### Pages whose answers do not change -/

/-- Either there is no page to ask, or its answer to a call is always the same. -/
def Visitor.PageIsFixed (v : Visitor) : Prop :=
  ∀ page, v.page = some page → ∃ answer, page = Page.fixed answer

/-- A page that is fixed by its definition is fixed. -/
theorem Visitor.pageIsFixed_of_eq {v : Visitor}
    {answer : PageCall → Except ExecutionError Observation}
    (h : v.page = some (Page.fixed answer)) : v.PageIsFixed := fun _ hp =>
  ⟨answer, (Option.some.inj (h.symm.trans hp)).symm⟩

/-- The outcome of a criterion when nothing else was asked before. -/
def Criterion.asked (v : Visitor) (c : Criterion) : Outcome := (c.evaluate v []).1

/-- With a fixed page a criterion comes out the same way whatever was asked before. -/
theorem Criterion.evaluate_eq_asked {v : Visitor} (hpage : v.PageIsFixed) (c : Criterion)
    (calls : List PageCall) : (c.evaluate v calls).1 = c.asked v := by
  unfold Criterion.asked Criterion.evaluate
  cases c.probe? with
  | none => rfl
  | some probe =>
    cases v.usableUrl? with
    | none => rfl
    | some url =>
      cases hp : v.page with
      | none => rfl
      | some page =>
        -- Only here the page is asked, and a fixed page does not look at earlier calls.
        obtain ⟨answer, rfl⟩ := hpage page hp
        rfl

/-- Whether a trigger admits a visitor is read off the truth value of its criterion. -/
theorem Trigger.admits_eq {v : Visitor} (t : Trigger) (calls : List PageCall) :
    (t.admits v calls).1 =
      if t.excluded then !(t.criterion.evaluate v calls).1.satisfied.coerce
      else (t.criterion.evaluate v calls).1.satisfied.coerce := by
  show (if t.excluded then _ else _ : Bool) = _
  rfl

/-! ### Decisions -/

/-- A load succeeds when both parts can be read. -/
theorem load_eq_ok_iff {r : Reads} {id : SurveyId} {s : Survey} {ts : List Trigger} :
    load r id = .ok (s, ts) ↔ r.survey id = .ok s ∧ r.triggers id = .ok ts := by
  unfold load
  cases r.survey id with
  | error e => simp
  | ok s' =>
    cases r.triggers id with
    | error e => simp
    | ok ts' => simp

/-- A survey that cannot be read is not shown, and the page is not asked. -/
theorem decide_of_load_error {r : Reads} {id : SurveyId} {e : String × StorageError}
    (h : load r id = .error e) (v : Visitor) (calls : List PageCall) :
    decide r id v calls = (false, calls) := by
  simp only [decide, h]
  rfl

/-- A decision on what could be loaded looks at the checks and then at the terms. -/
theorem decide_of_load_ok {r : Reads} {id : SurveyId} {s : Survey} {ts : List Trigger}
    (h : load r id = .ok (s, ts)) (v : Visitor) (calls : List PageCall) :
    (decide r id v calls).1 =
      ((checkFindings r s v).all Finding.passes &&
        (allPass (·.evaluate v) (plan ts) calls).1) := by
  simp only [decide, h]
  cases (checkFindings r s v).all Finding.passes <;> rfl

/-- A survey that is shown allows its visitor, whatever page there is. -/
theorem allows_of_decide {r : Reads} {id : SurveyId} {v : Visitor} {calls : List PageCall}
    (h : (decide r id v calls).1 = true) : ∃ s, r.survey id = .ok s ∧ s.Allows r v := by
  cases hload : load r id with
  | error e =>
    rw [decide_of_load_error hload] at h
    cases h
  | ok loaded =>
    obtain ⟨s, ts⟩ := loaded
    rw [decide_of_load_ok hload, Bool.and_eq_true] at h
    exact ⟨s, (load_eq_ok_iff.1 hload).1, (checkFindings_all_passes_iff r s v).1 h.1⟩

/-- With a fixed page a survey that can be read is shown when all its checks and terms pass. -/
theorem decide_eq_and {r : Reads} {id : SurveyId} {s : Survey} {ts : List Trigger} {v : Visitor}
    (hload : load r id = .ok (s, ts)) (hpage : v.PageIsFixed) (calls : List PageCall) :
    (decide r id v calls).1 =
      ((checkFindings r s v).all Finding.passes &&
        (plan ts).all fun term => (term.finding (·.asked v)).passes) := by
  rw [decide_of_load_ok hload,
    allPass_eq_all (fun c calls => by rw [Criterion.evaluate_eq_asked hpage])]

/-! ### A survey on a page that never settles -/

/-- A live survey that stays away from pages with a promotion and wants one of two plans. -/
def promoStore : Store :=
  ((((Store.empty none).insertSurvey ((Survey.draft ⟨1⟩ ⟨7⟩ "NPS").edit (.status .live))).addTrigger
    ⟨1⟩ (.including (.deviceData "pro" .isTrue none false))).addTrigger
    ⟨1⟩ ((Trigger.including (.pageElementVisible "#promo")).edit .exclude)).addTrigger
    ⟨1⟩ (.including (.deviceData "team" .isTrue none false))

/-- A visitor with one of the plans, on a page that does not settle. -/
def promoVisitor : Visitor :=
  { Visitor.unknown default with
    url := some "site.com"
    page := some (Page.fixed fun _ => .ok .pending)
    deviceData := some (Table.empty.put "team" (.bool true)) }

/-- The page of the visitor does not change its answers. -/
theorem promoVisitor_pageIsFixed : promoVisitor.PageIsFixed := Visitor.pageIsFixed_of_eq rfl

end SurveyGate

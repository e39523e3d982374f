import SurveyGate.Proofs.Decision.Asking

/-!
# `SurveyGate.Proofs.Decision.Specification`: when a survey is shown

`decide_eq_true_iff` is the rule by which a survey is shown, stated without the steps that `decide`
takes. The survey and its triggers can be read, the survey allows the visitor (`Survey.Allows`), and
the triggers hold (`TriggersHold`): every trigger that belongs to no group admits the visitor, and
of the included triggers on regions one is true if there are any, and so for those on optional
device data.

The rule speaks of pages whose answers do not change, because it asks each criterion on its own and
not after the criteria that `decide` asked before it.
-/

set_option autoImplicit false

namespace SurveyGate

/-- An included trigger on a region. -/
def Trigger.OnRegion (t : Trigger) : Prop :=
  t.excluded = false ∧ ∃ country region, t.criterion = .geo country region

/-- An included trigger on device data that are optional. -/
def Trigger.OnOptionalData (t : Trigger) : Prop :=
  t.excluded = false ∧ ∃ key matcher value, t.criterion = .deviceData key matcher value false

/-- What the triggers of a survey ask of a visitor. -/
structure TriggersHold (v : Visitor) (ts : List Trigger) : Prop where
  alone : ∀ t ∈ ts, t.excluded = true ∨ ¬ t.OnRegion ∧ ¬ t.OnOptionalData →
    (t.admits v []).1 = true
  region : (∃ t ∈ ts, t.OnRegion) →
    ∃ t ∈ ts, t.OnRegion ∧ (t.criterion.evaluate v []).1.satisfied = .yes
  optionalData : (∃ t ∈ ts, t.OnOptionalData) →
    ∃ t ∈ ts, t.OnOptionalData ∧ (t.criterion.evaluate v []).1.satisfied = .yes

/-- The group on locations has the included triggers on a location. -/
theorem Group.of?_eq_geo_iff {t : Trigger} : Group.of? t = some .geo ↔ t.OnRegion := by
  unfold Group.of? Trigger.OnRegion
  cases t.excluded with
  | true => simp
  | false =>
    cases t.criterion with
    | deviceData key matcher value mandatory => cases mandatory <;> simp
    | _ => simp

/-- The group on data has the included triggers on data that may be missing. -/
theorem Group.of?_eq_optionalDeviceData_iff {t : Trigger} :
    Group.of? t = some .optionalDeviceData ↔ t.OnOptionalData := by
  unfold Group.of? Trigger.OnOptionalData
  cases t.excluded with
  | true => simp
  | false =>
    cases t.criterion with
    | deviceData key matcher value mandatory => cases mandatory <;> simp
    | _ => simp

/-- A trigger belongs to no group when it is excluded or of neither sort. -/
theorem Group.of?_eq_none_iff {t : Trigger} :
    Group.of? t = none ↔ t.excluded = true ∨ ¬ t.OnRegion ∧ ¬ t.OnOptionalData := by
  constructor
  · intro h
    refine .inr ⟨fun hr => ?_, fun hd => ?_⟩
    · rw [Group.of?_eq_geo_iff.2 hr] at h
      cases h
    · rw [Group.of?_eq_optionalDeviceData_iff.2 hd] at h
      cases h
  · rintro (hexcluded | ⟨hr, hd⟩)
    · simp [Group.of?, hexcluded]
    · cases h : Group.of? t with
      | none => rfl
      | some g =>
        cases g with
        | geo => exact absurd (Group.of?_eq_geo_iff.1 h) hr
        | optionalDeviceData => exact absurd (Group.of?_eq_optionalDeviceData_iff.1 h) hd

/-- A trigger passes when asked first just if it admits the visitor. -/
theorem Trigger.passes_asked (t : Trigger) (v : Visitor) :
    (t.finding (t.criterion.asked v)).passes = (t.admits v []).1 := by
  rw [t.passes_finding, t.admits_eq]
  rfl

/-- A group with a member has a true one, in terms of the triggers of its sort. -/
theorem Group.exists_true_iff {g : Group} {Kin : Trigger → Prop}
    (hkin : ∀ t, Group.of? t = some g ↔ Kin t) (v : Visitor) (ts : List Trigger) :
    (g.members ts ≠ [] → ∃ t ∈ g.members ts, (t.criterion.asked v).satisfied = .yes) ↔
      ((∃ t ∈ ts, Kin t) →
        ∃ t ∈ ts, Kin t ∧ (t.criterion.evaluate v []).1.satisfied = .yes) := by
  have hmem : ∀ t, t ∈ g.members ts ↔ t ∈ ts ∧ Kin t := by
    intro t
    rw [Group.mem_members, hkin]
  have hne : g.members ts ≠ [] ↔ ∃ t ∈ ts, Kin t := by
    rw [ne_eq, List.eq_nil_iff_forall_not_mem, not_forall_not]
    exact exists_congr hmem
  rw [hne]
  refine imp_congr_right fun _ => exists_congr fun t => ?_
  rw [hmem, and_assoc]
  rfl

/-- The terms of the triggers pass exactly when the triggers hold. -/
theorem plan_all_passes_iff_triggersHold (v : Visitor) (ts : List Trigger) :
    ((plan ts).all fun term => (term.finding (·.asked v)).passes) = true ↔ TriggersHold v ts := by
  rw [plan_all_passes_iff]
  -- The plan speaks of groups, what the triggers ask of the two sorts of triggers.
  have hregion := Group.exists_true_iff (fun t => Group.of?_eq_geo_iff (t := t)) v ts
  have hdata := Group.exists_true_iff (fun t => Group.of?_eq_optionalDeviceData_iff (t := t)) v ts
  constructor
  · rintro ⟨halone, hgroups⟩
    refine ⟨fun t ht hsort => ?_, hregion.1 (hgroups .geo), hdata.1 (hgroups .optionalDeviceData)⟩
    rw [← t.passes_asked]
    exact halone t ht (Group.of?_eq_none_iff.2 hsort)
  · intro h
    refine ⟨fun t ht hnone => ?_, fun g => ?_⟩
    · rw [t.passes_asked]
      exact h.alone t ht (Group.of?_eq_none_iff.1 hnone)
    · cases g with
      | geo => exact hregion.2 h.region
      | optionalDeviceData => exact hdata.2 h.optionalData

/-- A survey is shown exactly when it and its triggers can be read, its own conditions hold for the
visitor and so do its triggers. What was asked of the page before does not matter. -/
theorem decide_eq_true_iff {r : Reads} {id : SurveyId} {v : Visitor} (hpage : v.PageIsFixed)
    (calls : List PageCall) :
    (decide r id v calls).1 = true ↔
      ∃ s ts, r.survey id = .ok s ∧ r.triggers id = .ok ts ∧
        s.Allows r v ∧ TriggersHold v ts := by
  constructor
  · intro h
    cases hload : load r id with
    | error e =>
      rw [decide_of_load_error hload] at h
      cases h
    | ok loaded =>
      obtain ⟨s, ts⟩ := loaded
      obtain ⟨hs, hts⟩ := load_eq_ok_iff.1 hload
      rw [decide_eq_and hload hpage, Bool.and_eq_true] at h
      exact ⟨s, ts, hs, hts, (checkFindings_all_passes_iff r s v).1 h.1,
        (plan_all_passes_iff_triggersHold v ts).1 h.2⟩
  · rintro ⟨s, ts, hs, hts, hallows, hhold⟩
    rw [decide_eq_and (load_eq_ok_iff.2 ⟨hs, hts⟩) hpage, Bool.and_eq_true]
    exact ⟨(checkFindings_all_passes_iff r s v).2 hallows,
      (plan_all_passes_iff_triggersHold v ts).2 hhold⟩

/-- The survey is shown while the page does not settle, since a trigger that is excluded fails
open. -/
theorem decide_eq_true_iff_promo :
    promoVisitor.PageIsFixed ∧ (decide promoStore.reads ⟨1⟩ promoVisitor []).1 = true ∧
      ∃ s ts, promoStore.reads.survey ⟨1⟩ = .ok s ∧ promoStore.reads.triggers ⟨1⟩ = .ok ts ∧
        s.Allows promoStore.reads promoVisitor ∧ TriggersHold promoVisitor ts :=
  ⟨promoVisitor_pageIsFixed, by decide,
    (decide_eq_true_iff promoVisitor_pageIsFixed []).1 (by decide)⟩

end SurveyGate

import SurveyGate.Proofs.Decision.Questions
import SurveyGate.Proofs.Decision.Specification

/-!
# `SurveyGate.Proofs.Decision.Grouping`: the grouping of triggers

`plan` splits triggers into terms. Five properties say what it may do, whatever the triggers are:

1. no trigger is lost or doubled (`plan_triggers_perm`);
2. the triggers on their own are those that belong to no group, in their order (`plan_singles`);
3. a group with a member has one term, which holds its members in their order, and a group without
   a member has none (`plan_filter_isOf`);
4. every term begins with the trigger that opens it (`plan_heads`), and stands behind the terms that
   were opened before it and in front of those opened after it (`plan_split`);
5. a term of a group asks each member once and in order, and is true if one of them is, false if all
   are, and open otherwise (`evaluates_members`, `Group.satisfied_finding_iff`).

`plan_partitions` states them together.
-/

set_option autoImplicit false

namespace SurveyGate

/-- The trigger of a term that is on its own. -/
def Term.single? : Term → Option Trigger
  | .single t => some t
  | .anyOf _ _ => none

/-- The trigger that a term begins with. -/
def Term.head? (term : Term) : Option Trigger := term.triggers.head?

/-- A trigger makes a new term behind others, if it is on its own or its group has no member yet. -/
def Trigger.Opens (t : Trigger) (before : List Trigger) : Prop :=
  ∀ g, Group.of? t = some g → g.members before = []

/-- Triggers are evaluated one after the other, each once. Each evaluation begins in the state in
which the one before it ended. -/
inductive Evaluates {σ : Type} (e : Trigger → StateM σ Outcome) :
    List Trigger → σ → List Outcome → σ → Prop where
  | nil (s : σ) : Evaluates e [] s [] s
  | cons {t : Trigger} {ts : List Trigger} {s mid final : σ} {o : Outcome} {os : List Outcome} :
    e t s = (o, mid) → Evaluates e ts mid os final → Evaluates e (t :: ts) s (o :: os) final

/-! ### Members of terms -/

/-- The triggers outside a group and its members are all triggers. -/
theorem Group.members_append_others_perm (g : Group) (ts : List Trigger) :
    (g.members ts ++ g.others ts).Perm ts := by
  have hothers : g.others ts = ts.filter fun t => !Decidable.decide (Group.of? t = some g) := by
    simp [others]
  rw [hothers]
  exact List.filter_append_perm _ ts

/-- The terms hold each trigger once. -/
theorem plan_triggers_perm (ts : List Trigger) :
    ((plan ts).flatMap Term.triggers).Perm ts := by
  refine plan_induction (P := fun ts terms => (terms.flatMap Term.triggers).Perm ts) ?_ ?_ ?_ ts
  · exact List.Perm.refl _
  · intro t ts _ ih
    rw [List.flatMap_cons]
    exact ih.cons t
  · intro g t ts _ ih
    -- The members were taken out of the rest and stand in front of it.
    rw [List.flatMap_cons]
    exact ((ih.append_left (g.members ts)).trans (g.members_append_others_perm ts)).cons t

/-- The triggers on their own keep their order. -/
theorem plan_singles (ts : List Trigger) : (plan ts).filterMap Term.single? = loners ts := by
  refine plan_induction (P := fun ts terms => terms.filterMap Term.single? = loners ts) rfl ?_ ?_ ts
  · intro t ts ht ih
    have hloners : loners (t :: ts) = t :: loners ts := by simp [loners, ht]
    rw [hloners, ← ih]
    rfl
  · intro g t ts ht ih
    rw [loners_cons_group ts ht, ← loners_others g ts, ← ih]
    rfl

/-- A group makes one term at most. -/
theorem plan_filter_isOf (g : Group) (ts : List Trigger) :
    (plan ts).filter (Term.isOf g) = (g.term? ts).toList := by
  refine plan_induction (P := fun ts terms => terms.filter (Term.isOf g) = (g.term? ts).toList)
    ?_ ?_ ?_ ts
  · simp [Group.term?, Group.members]
  · intro t ts ht ih
    have hcons : g.term? (t :: ts) = g.term? ts := Group.term?_cons_of_ne ts (by simp [ht])
    rw [hcons, ← ih]
    rfl
  · intro h t ts ht ih
    by_cases hg : h = g
    · subst hg
      -- All members are in front, so the triggers left make no second term of the group.
      rw [Group.term?_others_self] at ih
      rw [Group.term?_cons_self ts ht, List.filter_cons_of_pos (by simp [Term.isOf]), ih]
      rfl
    · have hcons : g.term? (t :: ts) = g.term? ts :=
        Group.term?_cons_of_ne ts (by simpa [ht] using hg)
      rw [Group.term?_others_of_ne (Ne.symm hg)] at ih
      rw [hcons, List.filter_cons_of_neg (by simpa [Term.isOf] using hg), ih]

/-! ### The order of terms -/

/-- Each term begins with the trigger that opens it. -/
theorem plan_heads (ts : List Trigger) : (plan ts).map Term.head? = (openers [] ts).map some := by
  refine plan_induction (P := fun ts terms => terms.map Term.head? = (openers [] ts).map some)
    rfl ?_ ?_ ts
  · intro t ts ht ih
    rw [openers_cons_alone ts ht, List.map_cons, List.map_cons, ih]
    rfl
  · intro g t ts ht ih
    rw [openers_cons_group ts ht, List.map_cons, List.map_cons, ih]
    rfl

/-- The openers of triggers behind others are those of groups that the others do not have. -/
theorem exists_openers_append (seen : List Group) (ts us : List Trigger) :
    ∃ seen', openers seen (ts ++ us) = openers seen ts ++ openers seen' us ∧
      ∀ g, g ∈ seen' → g ∈ seen ∨ g.members ts ≠ [] := by
  -- Along the triggers the groups seen only grow, each with the member that was met.
  induction ts generalizing seen with
  | nil => exact ⟨seen, rfl, fun g hg => .inl hg⟩
  | cons t ts ih =>
    have hmembers {g : Group} (hne : g.members ts ≠ []) : g.members (t :: ts) ≠ [] := by
      by_cases hself : Group.of? t = some g
      · simp [Group.members_cons_self ts hself]
      · rwa [Group.members_cons_of_ne ts hself]
    cases ht : Group.of? t with
    | none =>
      obtain ⟨seen', happend, hseen'⟩ := ih seen
      refine ⟨seen', ?_, fun g hg => (hseen' g hg).imp_right hmembers⟩
      rw [List.cons_append, openers_cons_alone _ ht, openers_cons_alone _ ht, happend]
      rfl
    | some k =>
      by_cases hk : k ∈ seen
      · obtain ⟨seen', happend, hseen'⟩ := ih seen
        refine ⟨seen', ?_, fun g hg => (hseen' g hg).imp_right hmembers⟩
        rw [List.cons_append, openers_cons_seen _ ht hk, openers_cons_seen _ ht hk, happend]
      · obtain ⟨seen', happend, hseen'⟩ := ih (k :: seen)
        refine ⟨seen', ?_, fun g hg => ?_⟩
        · rw [List.cons_append, openers_cons_unseen _ ht hk, openers_cons_unseen _ ht hk, happend]
          rfl
        · -- The new group is that of `t`, which is a member of it.
          rcases hseen' g hg with hmem | hne
          · rcases List.mem_cons.1 hmem with rfl | hmem
            · exact .inr (by simp [Group.members_cons_self ts ht])
            · exact .inl hmem
          · exact .inr (hmembers hne)

/-- A trigger that opens a term stands among the openers, behind those of the triggers before it. -/
theorem openers_split {t : Trigger} {before : List Trigger} (h : t.Opens before)
    (after : List Trigger) :
    ∃ seen, openers [] (before ++ t :: after) =
      openers [] before ++ t :: openers seen after := by
  obtain ⟨seen, happend, hseen⟩ := exists_openers_append [] before (t :: after)
  rw [happend]
  cases ht : Group.of? t with
  | none => exact ⟨seen, by rw [openers_cons_alone after ht]⟩
  | some g =>
    have hg : g ∉ seen := by
      intro hmem
      rcases hseen g hmem with hnil | hne
      · cases hnil
      · exact hne (h g ht)
    exact ⟨g :: seen, by rw [openers_cons_unseen after ht hg]⟩

/-- Terms that begin with triggers in order. -/
theorem filterMap_head?_eq {terms : List Term} {us : List Trigger}
    (h : terms.map Term.head? = us.map some) : terms.filterMap Term.head? = us := by
  have hid : (terms.map Term.head?).filterMap id = us := by
    rw [h, List.filterMap_map]
    exact List.filterMap_some
  rw [List.filterMap_map] at hid
  exact hid

/-- The term that a trigger opens stands behind the terms that begin with triggers before it, and in
front of those that begin with triggers after it. -/
theorem plan_split {t : Trigger} {before : List Trigger} (h : t.Opens before)
    (after : List Trigger) :
    ∃ earlier later, plan (before ++ t :: after) =
        earlier ++ t.term (before ++ t :: after) :: later ∧
      (earlier.filterMap Term.head?).Sublist before ∧
      (later.filterMap Term.head?).Sublist after := by
  obtain ⟨seen, hsplit⟩ := openers_split h after
  have hplan := plan_eq_map_openers (before ++ t :: after)
  have hheads := plan_heads (before ++ t :: after)
  rw [hsplit, List.map_append, List.map_cons] at hplan
  rw [hplan, hsplit, List.map_append, List.map_append, List.map_cons, List.map_cons] at hheads
  -- Both sides have the same cut, so the heads in front are the openers in front.
  obtain ⟨hearlier, hrest⟩ := List.append_inj hheads (by simp)
  obtain ⟨-, hlater⟩ := List.cons.inj hrest
  refine ⟨_, _, hplan, ?_, ?_⟩
  · rw [filterMap_head?_eq hearlier]
    exact openers_sublist [] before
  · rw [filterMap_head?_eq hlater]
    exact openers_sublist seen after

/-! ### Members decided -/

/-- The members of a group are evaluated one after the other. -/
theorem evaluates_members {σ : Type} (e : Trigger → StateM σ Outcome) (members : List Trigger)
    (s : σ) :
    let run := members.mapM (m := StateM σ) (fun t => do return (t, ← e t)) s
    Evaluates e members s (run.1.map Prod.snd) run.2 := by
  induction members generalizing s with
  | nil => exact .nil s
  | cons t members ih =>
    rw [mapM_cons_apply]
    exact .cons rfl (ih (e t s).2)

/-- A group is true if a member is, false if all members are, and open otherwise. -/
theorem Group.satisfied_finding_iff (g : Group) (members : List (Trigger × Outcome)) :
    let truth := (g.finding members).outcome.satisfied
    let outcomes := members.map Prod.snd
    (truth = .yes ↔ ∃ o ∈ outcomes, o.satisfied = .yes) ∧
      (truth = .no ↔ ∀ o ∈ outcomes, o.satisfied = .no) ∧
      (truth = .indeterminate ↔ (∀ o ∈ outcomes, o.satisfied ≠ .yes) ∧
        ∃ o ∈ outcomes, o.satisfied ≠ .no) := by
  intro truth outcomes
  have htruth : truth = Kleene.anyOf (outcomes.map Outcome.satisfied) := by
    rw [List.map_map]
    exact g.satisfied_finding members
  have hyes : truth = .yes ↔ ∃ o ∈ outcomes, o.satisfied = .yes := by
    rw [htruth, Kleene.anyOf_eq_yes_iff, List.mem_map]
  have hno : truth = .no ↔ ∀ o ∈ outcomes, o.satisfied = .no := by
    rw [htruth, Kleene.anyOf_eq_no_iff, List.forall_mem_map]
  refine ⟨hyes, hno, ?_⟩
  -- A value is open when it is neither of the other two.
  have hopen : truth = .indeterminate ↔ ¬truth = .yes ∧ ¬truth = .no := by
    cases truth <;> simp
  rw [hopen, hyes, hno]
  push Not
  rfl

/-- The grouping of triggers loses none of them, keeps their order, and asks each of them.

* The terms hold the triggers, each of them once.
* The triggers on their own are those that belong to no group, which are the excluded ones and those
  of neither sort, in their order.
* A group with a member has one term, which holds its members in their order. A group without a
  member has none. The members are the included triggers of one sort.
* The term of a trigger that opens one, with its group if it belongs to one, stands behind the terms
  that begin with triggers before it and in front of those that begin with triggers after it.
* The term of a group evaluates each member once and in order, whatever the evaluations do. It is
  required, and it is true if a member is, false if all members are, and open otherwise. -/
theorem plan_partitions (ts : List Trigger) :
    ((plan ts).flatMap Term.triggers).Perm ts ∧
    ((plan ts).filterMap Term.single? = ts.filter fun t => Group.of? t = none) ∧
    (∀ t, Group.of? t = none ↔ t.excluded = true ∨ ¬ t.OnRegion ∧ ¬ t.OnOptionalData) ∧
    (∀ g : Group, (plan ts).filter (Term.isOf g) =
      if g.members ts = [] then [] else [.anyOf g (g.members ts)]) ∧
    (∀ t, (t ∈ Group.geo.members ts ↔ t ∈ ts ∧ t.OnRegion) ∧
      (t ∈ Group.optionalDeviceData.members ts ↔ t ∈ ts ∧ t.OnOptionalData)) ∧
    (∀ before t after, ts = before ++ t :: after → t.Opens before →
      ∃ earlier later, plan ts = earlier ++ t.term ts :: later ∧
        (earlier.filterMap Term.head?).Sublist before ∧
        (later.filterMap Term.head?).Sublist after) ∧
    ∀ (σ : Type) (e : Trigger → StateM σ Outcome) (g : Group) (members : List Trigger) (s : σ),
      ∃ outcomes final, Evaluates e members s outcomes final ∧
        ((Term.anyOf g members).resolveBy e s).2 = final ∧
        let f := ((Term.anyOf g members).resolveBy e s).1
        f.role = .required ∧
        (f.outcome.satisfied = .yes ↔ ∃ o ∈ outcomes, o.satisfied = .yes) ∧
        (f.outcome.satisfied = .no ↔ ∀ o ∈ outcomes, o.satisfied = .no) ∧
        (f.outcome.satisfied = .indeterminate ↔ (∀ o ∈ outcomes, o.satisfied ≠ .yes) ∧
          ∃ o ∈ outcomes, o.satisfied ≠ .no) := by
  refine ⟨plan_triggers_perm ts, plan_singles ts, fun t => Group.of?_eq_none_iff, fun g => ?_,
    fun t => ⟨?_, ?_⟩, ?_, ?_⟩
  · rw [plan_filter_isOf, Group.term?]
    split <;> rfl
  · rw [Group.mem_members, Group.of?_eq_geo_iff]
  · rw [Group.mem_members, Group.of?_eq_optionalDeviceData_iff]
  · rintro before t after rfl hopens
    exact plan_split hopens after
  · intro σ e g members s
    exact ⟨_, _, evaluates_members e members s, rfl, rfl, g.satisfied_finding_iff _⟩

/-- Two countries with a promotion between them, and two plans. -/
def tourTriggers : List Trigger :=
  [.including (.geo "US" none), (Trigger.including (.pageElementVisible "#promo")).edit .exclude,
    .including (.deviceData "pro" .isTrue none false), .including (.geo "CA" none),
    .including (.deviceData "team" .isTrue none false)]

/-- The countries make one term. That of the plans has only terms behind it that begin with the last
two triggers. Where the first country is open and the second is false, the countries are open, and
both are asked about. -/
theorem plan_partitions_tour :
    let countries : List Trigger := [.including (.geo "US" none), .including (.geo "CA" none)]
    let forgetful (_ : Trigger) : StateM Nat Outcome := fun asked =>
      (if asked = 0 then .indeterminate "" else .ofBool false "", asked + 1)
    let run : Finding × Nat := (Term.anyOf .geo countries).resolveBy forgetful 0
    ((plan tourTriggers).filter (Term.isOf .geo) = [.anyOf .geo countries]) ∧
      (∃ earlier later, plan tourTriggers = earlier ++
        .anyOf .optionalDeviceData (Group.optionalDeviceData.members tourTriggers) :: later ∧
        (later.filterMap Term.head?).Sublist (tourTriggers.drop 3)) ∧
      run.1.outcome.satisfied = .indeterminate ∧ run.2 = 2 := by
  intro countries forgetful run
  obtain ⟨-, -, -, hgroups, -, hsplit, hfold⟩ := plan_partitions tourTriggers
  refine ⟨?_, ?_, ?_, rfl⟩
  · exact hgroups .geo
  · obtain ⟨earlier, later, hplan, -, hlater⟩ := hsplit (tourTriggers.take 2)
      (.including (.deviceData "pro" .isTrue none false)) (tourTriggers.drop 3) rfl
      (by rintro _ ⟨⟩; rfl)
    exact ⟨earlier, later, hplan, hlater⟩
  · obtain ⟨outcomes, final, hevaluates, -, -, -, -, hopen⟩ := hfold Nat forgetful .geo countries 0
    -- Each country was evaluated in the state that the one before it left.
    have hboth : Evaluates forgetful [.including (.geo "US" none), .including (.geo "CA" none)] 0
        outcomes final := hevaluates
    obtain _ | ⟨hfirst, hrest⟩ := hboth
    obtain _ | ⟨hsecond, hnil⟩ := hrest
    cases hnil
    cases hfirst
    cases hsecond
    exact hopen.2 (by decide)

end SurveyGate

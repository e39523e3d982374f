import Mathlib.Data.List.Basic
import SurveyGate.Decision.Term

/-!
# `SurveyGate.Proofs.Decision.Plan`: the terms that triggers make

`plan` places one trigger after the other among the terms made so far, so a group grows in the
middle of the list. Read from the front it is a plain recursion: the first trigger either makes a
term of its own (`plan_cons_alone`) or gathers all later members of its group (`plan_cons_group`),
and the rest of the terms is the plan of what is left. `plan_induction` is the induction that
follows these two equations.

`openers` are the triggers at whose place a term stands: those on their own, and the first member of
each group. The terms are those that the openers make, in the order of the triggers
(`plan_eq_map_openers`).

`plan_perm` states the terms up to order: one for each trigger on its own, and one for each group
that has a member. `mem_plan` reads off which terms there are.
-/

set_option autoImplicit false

namespace SurveyGate

namespace Group

/-- Every group. -/
def all : List Group := [.geo, .optionalDeviceData]

/-- The triggers that belong to a group. -/
def members (g : Group) (ts : List Trigger) : List Trigger :=
  ts.filter fun t => Group.of? t = some g

/-- The triggers that do not belong to a group. -/
def others (g : Group) (ts : List Trigger) : List Trigger :=
  ts.filter fun t => Group.of? t ≠ some g

/-- Every group is among all of them. -/
theorem mem_all (g : Group) : g ∈ all := by cases g <;> decide

/-- The members of a group are the triggers that belong to it. -/
theorem mem_members {g : Group} {t : Trigger} {ts : List Trigger} :
    t ∈ g.members ts ↔ t ∈ ts ∧ Group.of? t = some g := by
  simp [members]

/-- A trigger of the group in front is a member. -/
theorem members_cons_self {g : Group} {t : Trigger} (ts : List Trigger)
    (h : Group.of? t = some g) : g.members (t :: ts) = t :: g.members ts := by
  simp [members, h]

/-- A trigger of no or another group in front is not a member. -/
theorem members_cons_of_ne {g : Group} {t : Trigger} (ts : List Trigger)
    (h : Group.of? t ≠ some g) : g.members (t :: ts) = g.members ts := by
  simp [members, h]

/-- A trigger of the group in front is not among the others. -/
theorem others_cons_self {g : Group} {t : Trigger} (ts : List Trigger)
    (h : Group.of? t = some g) : g.others (t :: ts) = g.others ts := by
  simp [others, h]

/-- A trigger of no or another group in front is among the others. -/
theorem others_cons_of_ne {g : Group} {t : Trigger} (ts : List Trigger)
    (h : Group.of? t ≠ some g) : g.others (t :: ts) = t :: g.others ts := by
  simp [others, h]

/-- A trigger outside a group belongs to another one, if it belongs to any. -/
theorem ne_of_mem_others {g h : Group} {t : Trigger} {ts : List Trigger} (ht : t ∈ g.others ts)
    (hh : Group.of? t = some h) : h ≠ g := by
  rintro rfl
  simp [others, hh] at ht

/-- A group has no members among the triggers that do not belong to it. -/
theorem members_others_self (g : Group) (ts : List Trigger) : g.members (g.others ts) = [] := by
  simp [members, others]

/-- Leaving out one group leaves the members of the other. -/
theorem members_others_of_ne {g h : Group} (hne : h ≠ g) (ts : List Trigger) :
    h.members (g.others ts) = h.members ts := by
  simp only [members, others, List.filter_filter]
  apply List.filter_congr
  intro t _
  by_cases ht : Group.of? t = some h
  · simp [ht, hne]
  · simp [ht]

end Group

/-! ### The recursion of `plan` -/

/-- A term of a single trigger stays in front of a trigger that is placed. -/
theorem place_single_cons (u : Trigger) (rest : List Term) (t : Trigger) :
    place (.single u :: rest) t = .single u :: place rest t := by
  unfold place
  cases Group.of? t with
  | none => rfl
  | some g => rfl

/-- A term of a single trigger stays in front while triggers are placed behind it. -/
theorem foldl_place_single (u : Trigger) (rest : List Term) (ts : List Trigger) :
    ts.foldl place (.single u :: rest) = .single u :: ts.foldl place rest := by
  induction ts generalizing rest with
  | nil => rfl
  | cons t ts ih =>
    rw [List.foldl_cons, place_single_cons, ih]
    rfl

/-- The term of a group in front takes in the members of the group, and the others are placed
behind it. -/
theorem foldl_place_anyOf (g : Group) (members : List Trigger) (rest : List Term)
    (ts : List Trigger) :
    ts.foldl place (.anyOf g members :: rest) =
      .anyOf g (members ++ g.members ts) :: (g.others ts).foldl place rest := by
  induction ts generalizing members rest with
  | nil => simp [Group.members, Group.others]
  | cons t ts ih =>
    -- A member joins the term in front; any other trigger is placed behind it.
    by_cases h : Group.of? t = some g
    · have hplace : place (.anyOf g members :: rest) t = .anyOf g (members ++ [t]) :: rest := by
        simp [place, h, join]
      rw [List.foldl_cons, hplace, ih, Group.members_cons_self ts h, Group.others_cons_self ts h,
        List.append_assoc]
      rfl
    · have hplace : place (.anyOf g members :: rest) t = .anyOf g members :: place rest t := by
        unfold place
        cases ht : Group.of? t with
        | none => rfl
        | some k =>
          have hk : g ≠ k := fun e => h (by rw [ht, e])
          simp [join, hk]
      rw [List.foldl_cons, hplace, ih, Group.members_cons_of_ne ts h,
        Group.others_cons_of_ne ts h]
      rfl

/-- A trigger on its own makes a term in front of the terms of the rest. -/
theorem plan_cons_alone {t : Trigger} (ts : List Trigger) (h : Group.of? t = none) :
    plan (t :: ts) = .single t :: plan ts := by
  have hplace : place [] t = [.single t] := by simp [place, h]
  rw [plan, List.foldl_cons, hplace, foldl_place_single]
  rfl

/-- The first member of a group makes a term with all members, in front of the terms of the
others. -/
theorem plan_cons_group {t : Trigger} {g : Group} (ts : List Trigger)
    (h : Group.of? t = some g) :
    plan (t :: ts) = .anyOf g (t :: g.members ts) :: plan (g.others ts) := by
  have hplace : place [] t = [.anyOf g [t]] := by simp [place, h, join]
  rw [plan, List.foldl_cons, hplace, foldl_place_anyOf]
  rfl

/-- Induction along the recursion of `plan`. What a group gathers is left out of the rest, so the
induction is on the number of triggers. -/
theorem plan_induction {P : List Trigger → List Term → Prop} (nil : P [] [])
    (alone : ∀ t ts, Group.of? t = none → P ts (plan ts) → P (t :: ts) (.single t :: plan ts))
    (group : ∀ g t ts, Group.of? t = some g → P (g.others ts) (plan (g.others ts)) →
      P (t :: ts) (.anyOf g (t :: g.members ts) :: plan (g.others ts)))
    (ts : List Trigger) : P ts (plan ts) := by
  induction hn : ts.length using Nat.strongRecOn generalizing ts with
  | ind n ih =>
    cases ts with
    | nil => exact nil
    | cons t ts =>
      subst hn
      cases ht : Group.of? t with
      | none =>
        rw [plan_cons_alone ts ht]
        exact alone t ts ht (ih ts.length (by simp) ts rfl)
      | some g =>
        rw [plan_cons_group ts ht]
        -- The plan of the rest leaves the group out, so it is not that of `ts` itself.
        have hlen : (g.others ts).length < (t :: ts).length :=
          Nat.lt_succ_of_le (List.length_filter_le _ _)
        exact group g t ts ht (ih _ hlen (g.others ts) rfl)

/-! ### Terms in the order of the triggers -/

/-- The triggers at whose place a term stands: those on their own, and the first member of each
group, those groups aside that were seen before. -/
def openers (seen : List Group) : List Trigger → List Trigger
  | [] => []
  | t :: ts =>
    match Group.of? t with
    | none => t :: openers seen ts
    | some g => if g ∈ seen then openers seen ts else t :: openers (g :: seen) ts

/-- The term that a trigger makes, with the others of its group if it belongs to one. -/
def Trigger.term (ts : List Trigger) (t : Trigger) : Term :=
  match Group.of? t with
  | none => .single t
  | some g => .anyOf g (g.members ts)

section
variable {seen seen' : List Group} {ts ts' : List Trigger} {t u : Trigger} {g : Group}

/-- A trigger without a group opens a term. -/
theorem openers_cons_alone (ts : List Trigger) (h : Group.of? t = none) :
    openers seen (t :: ts) = t :: openers seen ts := by
  simp [openers, h]

/-- A trigger of a group that is open already opens no term. -/
theorem openers_cons_seen (ts : List Trigger) (h : Group.of? t = some g) (hg : g ∈ seen) :
    openers seen (t :: ts) = openers seen ts := by
  simp [openers, h, hg]

/-- The first trigger of a group opens its term. -/
theorem openers_cons_unseen (ts : List Trigger) (h : Group.of? t = some g) (hg : g ∉ seen) :
    openers seen (t :: ts) = t :: openers (g :: seen) ts := by
  simp [openers, h, hg]

/-- Those that open terms are triggers of the list, in their order. -/
theorem openers_sublist (seen : List Group) (ts : List Trigger) :
    (openers seen ts).Sublist ts := by
  induction ts generalizing seen with
  | nil => exact List.Sublist.slnil
  | cons t ts ih =>
    cases ht : Group.of? t with
    | none =>
      rw [openers_cons_alone ts ht]
      exact (ih seen).cons_cons t
    | some g =>
      by_cases hg : g ∈ seen
      · rw [openers_cons_seen ts ht hg]
        exact (ih seen).cons t
      · rw [openers_cons_unseen ts ht hg]
        exact (ih _).cons_cons t

/-- Only the groups that triggers belong to need to be told apart. -/
theorem openers_congr
    (h : ∀ t ∈ ts, ∀ g, Group.of? t = some g → (g ∈ seen ↔ g ∈ seen')) :
    openers seen ts = openers seen' ts := by
  induction ts generalizing seen seen' with
  | nil => rfl
  | cons t ts ih =>
    obtain ⟨hhead, htail⟩ := List.forall_mem_cons.1 h
    cases ht : Group.of? t with
    | none => rw [openers_cons_alone ts ht, openers_cons_alone ts ht, ih htail]
    | some g =>
      have hsame := hhead g ht
      by_cases hg : g ∈ seen
      · rw [openers_cons_seen ts ht hg, openers_cons_seen ts ht (hsame.1 hg), ih htail]
      · rw [openers_cons_unseen ts ht hg, openers_cons_unseen ts ht (mt hsame.2 hg)]
        refine congrArg (t :: ·) (ih fun u hu k hk => ?_)
        rw [List.mem_cons, List.mem_cons, htail u hu k hk]

/-- A group that was seen can be left out. -/
theorem openers_others (ts : List Trigger) (hg : g ∈ seen) :
    openers seen (g.others ts) = openers seen ts := by
  induction ts generalizing seen with
  | nil => rfl
  | cons t ts ih =>
    by_cases hself : Group.of? t = some g
    · rw [Group.others_cons_self ts hself, openers_cons_seen ts hself hg, ih hg]
    · rw [Group.others_cons_of_ne ts hself]
      cases ht : Group.of? t with
      | none => rw [openers_cons_alone _ ht, openers_cons_alone _ ht, ih hg]
      | some k =>
        by_cases hk : k ∈ seen
        · rw [openers_cons_seen _ ht hk, openers_cons_seen _ ht hk, ih hg]
        · rw [openers_cons_unseen _ ht hk, openers_cons_unseen _ ht hk,
            ih (List.mem_cons_of_mem k hg)]

/-- Behind the first member of a group stand the openers of the triggers outside the group. -/
theorem openers_cons_group (ts : List Trigger) (h : Group.of? t = some g) :
    openers [] (t :: ts) = t :: openers [] (g.others ts) := by
  rw [openers_cons_unseen ts h List.not_mem_nil, ← openers_others ts List.mem_cons_self]
  refine congrArg (t :: ·) (openers_congr fun u hu k hk => ?_)
  -- The group is not met again, so it makes no difference that it was seen.
  simp [Group.ne_of_mem_others hu hk]

/-- The term of a trigger depends on the members of its group alone. -/
theorem Trigger.term_congr (h : ∀ g, Group.of? t = some g → g.members ts = g.members ts') :
    t.term ts = t.term ts' := by
  unfold Trigger.term
  cases ht : Group.of? t with
  | none => rfl
  | some g => exact congrArg (Term.anyOf g) (h g ht)

/-- A trigger of another group in front leaves a term as it is. -/
theorem Trigger.term_cons_of_ne (ts : List Trigger) (h : ∀ g, Group.of? u = some g →
    Group.of? t ≠ some g) : u.term (t :: ts) = u.term ts :=
  term_congr fun g hg => Group.members_cons_of_ne ts (h g hg)

end

/-- The terms are those of the openers, in the order of the triggers. -/
theorem plan_eq_map_openers (ts : List Trigger) :
    plan ts = (openers [] ts).map (Trigger.term ts) := by
  refine plan_induction (P := fun ts terms => terms = (openers [] ts).map (Trigger.term ts))
    rfl ?_ ?_ ts
  · intro t ts ht ih
    have hhead : t.term (t :: ts) = .single t := by simp [Trigger.term, ht]
    rw [openers_cons_alone ts ht, List.map_cons, hhead, ih]
    refine congrArg (_ :: ·) (List.map_congr_left fun u _ => ?_)
    exact (Trigger.term_cons_of_ne ts fun g _ => by simp [ht]).symm
  · intro g t ts ht ih
    have hhead : t.term (t :: ts) = .anyOf g (t :: g.members ts) := by
      simp [Trigger.term, ht, Group.members_cons_self ts ht]
    rw [openers_cons_group ts ht, List.map_cons, hhead, ih]
    refine congrArg (_ :: ·) (List.map_congr_left fun u hu => ?_)
    -- The openers left belong to other groups, whose members are all left too.
    have hother : u ∈ g.others ts := (openers_sublist _ _).subset hu
    refine Trigger.term_congr fun k hk => ?_
    have hne := Group.ne_of_mem_others hother hk
    have hhead : Group.of? t ≠ some k := fun heq => hne (Option.some.inj (heq.symm.trans ht))
    rw [Group.members_others_of_ne hne, Group.members_cons_of_ne ts hhead]

/-- Triggers that stand on their own all open a term. -/
theorem filter_openers {p : Trigger → Bool} (h : ∀ t, p t = true → Group.of? t = none)
    (seen : List Group) (ts : List Trigger) : (openers seen ts).filter p = ts.filter p := by
  induction ts generalizing seen with
  | nil => rfl
  | cons t ts ih =>
    cases ht : Group.of? t with
    | none => rw [openers_cons_alone ts ht, List.filter_cons, List.filter_cons, ih]
    | some g =>
      have hp : ¬p t = true := fun hp => by
        rw [h t hp] at ht
        cases ht
      by_cases hg : g ∈ seen
      · rw [openers_cons_seen ts ht hg, List.filter_cons_of_neg hp, ih]
      · rw [openers_cons_unseen ts ht hg, List.filter_cons_of_neg hp,
          List.filter_cons_of_neg hp, ih]

/-! ### Terms up to order -/

/-- The triggers that make a term of their own. -/
def loners (ts : List Trigger) : List Trigger := ts.filter fun t => Group.of? t = none

/-- The term of a group, if it has a member. -/
def Group.term? (g : Group) (ts : List Trigger) : Option Term :=
  if g.members ts = [] then none else some (.anyOf g (g.members ts))

/-- The terms of triggers on their own, then those of the groups. -/
def sortedTerms (ts : List Trigger) : List Term :=
  (loners ts).map .single ++ Group.all.filterMap (·.term? ts)

/-- The term of a group begins with its first member. -/
theorem Group.term?_cons_self {g : Group} {t : Trigger} (ts : List Trigger)
    (h : Group.of? t = some g) : g.term? (t :: ts) = some (.anyOf g (t :: g.members ts)) := by
  rw [Group.term?, members_cons_self ts h]
  exact if_neg (List.cons_ne_nil _ _)

/-- A trigger of no or another group in front leaves the term of a group as it is. -/
theorem Group.term?_cons_of_ne {g : Group} {t : Trigger} (ts : List Trigger)
    (h : Group.of? t ≠ some g) : g.term? (t :: ts) = g.term? ts := by
  rw [Group.term?, members_cons_of_ne ts h, Group.term?]

/-- Without its members a group has no term. -/
theorem Group.term?_others_self (g : Group) (ts : List Trigger) :
    g.term? (g.others ts) = none := by
  simp [Group.term?, members_others_self]

/-- The members of one group have no part in the term of another. -/
theorem Group.term?_others_of_ne {g h : Group} (hne : h ≠ g) (ts : List Trigger) :
    h.term? (g.others ts) = h.term? ts := by
  rw [Group.term?, members_others_of_ne hne, Group.term?]

/-- The members of a group are no loners. -/
theorem loners_others (g : Group) (ts : List Trigger) : loners (g.others ts) = loners ts := by
  simp only [loners, Group.others, List.filter_filter]
  apply List.filter_congr
  intro t _
  by_cases ht : Group.of? t = none
  · simp [ht]
  · simp [ht]

/-- A trigger with a group in front is no loner. -/
theorem loners_cons_group {g : Group} {t : Trigger} (ts : List Trigger)
    (h : Group.of? t = some g) : loners (t :: ts) = loners ts := by
  simp [loners, h]

/-- The groups of triggers behind a member of one of them are that group's term and those of the
triggers left. -/
theorem groupTerms_perm {g : Group} {t : Trigger} (ts : List Trigger)
    (h : Group.of? t = some g) :
    (Group.all.filterMap (·.term? (t :: ts))).Perm
      (.anyOf g (t :: g.members ts) :: Group.all.filterMap (·.term? (g.others ts))) := by
  -- There are two groups, so the other one stands in front of `g` or behind it.
  have hself := Group.term?_cons_self ts h
  have hothers := Group.term?_others_self g ts
  cases g with
  | geo =>
    have hne : Group.of? t ≠ some .optionalDeviceData := by simp [h]
    have hcons := Group.term?_cons_of_ne ts hne
    have hrest := Group.term?_others_of_ne (g := .geo) (h := .optionalDeviceData) (by decide) ts
    simp only [Group.all, List.filterMap_cons, List.filterMap_nil, hself, hothers, hcons, hrest]
    exact List.Perm.refl _
  | optionalDeviceData =>
    have hne : Group.of? t ≠ some .geo := by simp [h]
    have hcons := Group.term?_cons_of_ne ts hne
    have hrest := Group.term?_others_of_ne (g := .optionalDeviceData) (h := .geo) (by decide) ts
    simp only [Group.all, List.filterMap_cons, List.filterMap_nil, hself, hothers, hcons, hrest]
    cases Group.geo.term? ts with
    | none => exact List.Perm.refl _
    | some term => exact List.Perm.swap _ _ _

/-- Up to order, `plan` makes one term of each trigger on its own and one of each group that has a
member. -/
theorem plan_perm (ts : List Trigger) : (plan ts).Perm (sortedTerms ts) := by
  refine plan_induction (P := fun ts terms => terms.Perm (sortedTerms ts)) ?_ ?_ ?_ ts
  · exact List.Perm.refl _
  · intro t ts ht ih
    have hgroups : Group.all.filterMap (·.term? (t :: ts)) = Group.all.filterMap (·.term? ts) :=
      List.filterMap_congr fun g _ => Group.term?_cons_of_ne ts (by simp [ht])
    have hloners : loners (t :: ts) = t :: loners ts := by simp [loners, ht]
    rw [sortedTerms, hgroups, hloners]
    exact ih.cons _
  · intro g t ts ht ih
    have hloners : loners (t :: ts) = loners (g.others ts) := by
      rw [loners_cons_group ts ht, loners_others]
    -- The term of the group moves from the front to its place among the groups.
    have hgroups := (groupTerms_perm ts ht).append_left ((loners (g.others ts)).map Term.single)
    rw [sortedTerms, hloners]
    exact ((ih.cons _).trans List.perm_middle.symm).trans hgroups.symm

/-- A term of the plan is that of a trigger on its own or that of a group with a member. -/
theorem mem_plan {term : Term} {ts : List Trigger} :
    term ∈ plan ts ↔
      (∃ t ∈ ts, Group.of? t = none ∧ term = .single t) ∨
      ∃ g : Group, g.members ts ≠ [] ∧ term = .anyOf g (g.members ts) := by
  rw [(plan_perm ts).mem_iff, sortedTerms, List.mem_append]
  refine or_congr ?_ ?_
  · simp only [List.mem_map, loners, List.mem_filter, decide_eq_true_eq]
    constructor
    · rintro ⟨t, ⟨ht, hnone⟩, rfl⟩
      exact ⟨t, ht, hnone, rfl⟩
    · rintro ⟨t, ht, hnone, rfl⟩
      exact ⟨t, ⟨ht, hnone⟩, rfl⟩
  · simp only [List.mem_filterMap, Group.term?]
    constructor
    · rintro ⟨g, -, hg⟩
      split at hg
      · cases hg
      · rename_i hmembers
        exact ⟨g, hmembers, (Option.some.inj hg).symm⟩
    · rintro ⟨g, hmembers, rfl⟩
      exact ⟨g, g.mem_all, if_neg hmembers⟩

end SurveyGate

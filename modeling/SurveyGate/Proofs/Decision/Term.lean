import SurveyGate.Proofs.Decision.Plan

/-!
# `SurveyGate.Proofs.Decision.Term`: how terms come out

`Term.finding` is the finding of a term when the outcomes of its criteria are known. A trigger on
its own passes when it admits the visitor, which for an excluded trigger means that its criterion is
not known to hold (`Trigger.passes_finding`). A group passes when one member is true
(`Group.passes_finding`). `plan_all_passes_iff` puts the two together for all terms of a plan.

`Finding.key` is a finding without its message. Whether a finding passes can be read off its key.
The keys of a plan depend on the order of the triggers only in their own order (`plan_keys_perm`): a
group asks whether any member is true, and `Kleene.anyOf` answers that from the values alone.
-/

set_option autoImplicit false

namespace SurveyGate

namespace Kleene

/-- True when one of the values is true, false when all are false. -/
def anyOf (ks : List Kleene) : Kleene := ks.foldl or .no

/-- A fold by `or` can begin with any value. -/
theorem foldl_or (k : Kleene) (ks : List Kleene) : ks.foldl or k = k.or (anyOf ks) := by
  induction ks generalizing k with
  | nil => cases k <;> rfl
  | cons k' ks ih =>
    have htail : anyOf (k' :: ks) = k'.or (anyOf ks) := by
      rw [anyOf, List.foldl_cons, no_or, ih k']
    rw [List.foldl_cons, ih, htail, or_assoc]

/-- The first value is joined to the others. -/
theorem anyOf_cons (k : Kleene) (ks : List Kleene) : anyOf (k :: ks) = k.or (anyOf ks) := by
  rw [anyOf, List.foldl_cons, no_or, foldl_or]

/-- One of two values has to be yes. -/
theorem or_eq_yes_iff (a b : Kleene) : a.or b = .yes ↔ a = .yes ∨ b = .yes := by
  cases a <;> cases b <;> decide

/-- Both values have to be no. -/
theorem or_eq_no_iff (a b : Kleene) : a.or b = .no ↔ a = .no ∧ b = .no := by
  cases a <;> cases b <;> decide

/-- One of the values has to be yes. -/
theorem anyOf_eq_yes_iff {ks : List Kleene} : anyOf ks = .yes ↔ .yes ∈ ks := by
  induction ks with
  | nil => decide
  | cons k ks ih => rw [anyOf_cons, or_eq_yes_iff, ih, List.mem_cons, eq_comm]

/-- All values have to be no. -/
theorem anyOf_eq_no_iff {ks : List Kleene} : anyOf ks = .no ↔ ∀ k ∈ ks, k = .no := by
  induction ks with
  | nil => decide
  | cons k ks ih => rw [anyOf_cons, or_eq_no_iff, ih, List.forall_mem_cons]

/-- Two truth values that are true together and false together are equal. -/
theorem eq_of_iff {a b : Kleene} (hyes : a = .yes ↔ b = .yes) (hno : a = .no ↔ b = .no) :
    a = b := by
  cases a <;> cases b <;> simp_all

/-- Whether any value is true does not depend on the order of the values. -/
theorem anyOf_perm {ks ks' : List Kleene} (h : ks.Perm ks') : anyOf ks = anyOf ks' := by
  refine eq_of_iff ?_ ?_
  · rw [anyOf_eq_yes_iff, anyOf_eq_yes_iff, h.mem_iff]
  · rw [anyOf_eq_no_iff, anyOf_eq_no_iff]
    exact forall_congr' fun k => by rw [h.mem_iff]

/-- Only a value that is yes counts. -/
theorem coerce_eq_true_iff {k : Kleene} : k.coerce = true ↔ k = .yes := by
  cases k <;> decide

end Kleene

/-- A finding without its message. -/
def Finding.key (f : Finding) : String × Kleene × Role := (f.label, f.outcome.satisfied, f.role)

/-- Whether a finding with the given key passes. -/
def keyPasses (k : String × Kleene × Role) : Bool := k.2.2.accepts k.2.1

/-- Whether an entry passes is read off its key. -/
theorem Finding.passes_eq_keyPasses (f : Finding) : f.passes = keyPasses f.key := rfl

/-- The finding of a term when the outcomes of its criteria are known. -/
def Term.finding (o : Criterion → Outcome) : Term → Finding
  | .single t => t.finding (o t.criterion)
  | .anyOf g members => g.finding (members.map fun t => (t, o t.criterion))

/-- A trigger on its own passes when its criterion holds, or does not when it is excluded. -/
theorem Trigger.passes_finding (t : Trigger) (o : Outcome) :
    (t.finding o).passes = if t.excluded then !o.satisfied.coerce else o.satisfied.coerce := by
  unfold Trigger.finding
  split
  · show (!o.satisfied.negate.isFalse) = !o.satisfied.coerce
    cases o.satisfied <;> rfl
  · rfl

/-- A group is true when any of its members is. -/
theorem Group.satisfied_finding (g : Group) (members : List (Trigger × Outcome)) :
    (g.finding members).outcome.satisfied = Kleene.anyOf (members.map fun m => m.2.satisfied) := by
  rw [Kleene.anyOf, List.foldl_map]
  rfl

/-- The key of the entry of a group. -/
theorem Group.key_finding (g : Group) (members : List (Trigger × Outcome)) :
    (g.finding members).key =
      (g.label, Kleene.anyOf (members.map fun m => m.2.satisfied), .required) := by
  rw [← g.satisfied_finding members]
  rfl

/-- A group passes when a member is true. -/
theorem Group.passes_finding (g : Group) (members : List (Trigger × Outcome)) :
    (g.finding members).passes = true ↔ ∃ m ∈ members, m.2.satisfied = .yes := by
  rw [Finding.passes_eq_keyPasses, g.key_finding]
  show (Kleene.anyOf _).coerce = true ↔ _
  rw [Kleene.coerce_eq_true_iff, Kleene.anyOf_eq_yes_iff, List.mem_map]

/-- All terms pass when every trigger on its own does and every group that has a member has a true
one. -/
theorem plan_all_passes_iff (o : Criterion → Outcome) (ts : List Trigger) :
    ((plan ts).all fun term => (term.finding o).passes) = true ↔
      (∀ t ∈ ts, Group.of? t = none → (t.finding (o t.criterion)).passes = true) ∧
      ∀ g : Group, g.members ts ≠ [] → ∃ t ∈ g.members ts, (o t.criterion).satisfied = .yes := by
  rw [List.all_eq_true]
  constructor
  · intro h
    refine ⟨fun t ht hnone => ?_, fun g hg => ?_⟩
    · exact h (.single t) (mem_plan.2 (.inl ⟨t, ht, hnone, rfl⟩))
    · have hpass := h (.anyOf g (g.members ts)) (mem_plan.2 (.inr ⟨g, hg, rfl⟩))
      obtain ⟨m, hm, hyes⟩ := (g.passes_finding _).1 hpass
      obtain ⟨t, ht, rfl⟩ := List.mem_map.1 hm
      exact ⟨t, ht, hyes⟩
  · rintro ⟨hloners, hgroups⟩ term hterm
    rcases mem_plan.1 hterm with ⟨t, ht, hnone, rfl⟩ | ⟨g, hg, rfl⟩
    · exact hloners t ht hnone
    · obtain ⟨t, ht, hyes⟩ := hgroups g hg
      exact (g.passes_finding _).2 ⟨_, List.mem_map.2 ⟨t, ht, rfl⟩, hyes⟩

/-- The key of a group's term does not depend on the order of the triggers. -/
theorem Group.term?_key_perm (o : Criterion → Outcome) (g : Group) {ts ts' : List Trigger}
    (h : ts.Perm ts') :
    (g.term? ts).map (fun term => (term.finding o).key) =
      (g.term? ts').map fun term => (term.finding o).key := by
  -- Reordered triggers have reordered members, so both groups have some or neither has.
  have hmembers : (g.members ts).Perm (g.members ts') := h.filter _
  unfold Group.term?
  by_cases hnil : g.members ts = []
  · have hnil' : g.members ts' = [] := List.perm_nil.1 (hnil ▸ hmembers.symm)
    rw [if_pos hnil, if_pos hnil']
  · have hnil' : g.members ts' ≠ [] := fun e => hnil (List.perm_nil.1 (e ▸ hmembers))
    rw [if_neg hnil, if_neg hnil', Option.map_some, Option.map_some]
    refine congrArg some ?_
    show (g.finding _).key = (g.finding _).key
    rw [g.key_finding, g.key_finding]
    have hvalues := (hmembers.map fun t => (t, o t.criterion)).map fun m => m.2.satisfied
    rw [Kleene.anyOf_perm hvalues]

/-- Reordering the triggers reorders the keys of their terms. -/
theorem plan_keys_perm (o : Criterion → Outcome) {ts ts' : List Trigger} (h : ts.Perm ts') :
    ((plan ts).map fun term => (term.finding o).key).Perm
      ((plan ts').map fun term => (term.finding o).key) := by
  -- Both plans are their sorted terms up to order, and those differ in their own order only.
  have hsorted : ((sortedTerms ts).map fun term => (term.finding o).key).Perm
      ((sortedTerms ts').map fun term => (term.finding o).key) := by
    have hloners : (loners ts).Perm (loners ts') := h.filter _
    have hgroups : (Group.all.filterMap (·.term? ts)).map (fun term => (term.finding o).key) =
        (Group.all.filterMap (·.term? ts')).map fun term => (term.finding o).key := by
      rw [List.map_filterMap, List.map_filterMap]
      exact List.filterMap_congr fun g _ => g.term?_key_perm o h
    rw [sortedTerms, sortedTerms, List.map_append, List.map_append, hgroups]
    exact ((hloners.map Term.single).map _).append_right _
  exact (((plan_perm ts).map _).trans hsorted).trans ((plan_perm ts').map _).symm

end SurveyGate

import SurveyGate.Proofs.Store.Entries
import SurveyGate.Proofs.Store.Traffic

/-!
# `SurveyGate.Proofs.Store.Tally`: sums over histories

`Store.tally` adds up a weight over those histories of a store that a test picks. A change to one
history trades its weight, if it is picked (`tally_editHistory`), and otherwise changes nothing
(`tally_editHistory_eq`). A weight of one history is that history's own (`tally_of_one`).
-/

set_option autoImplicit false

namespace SurveyGate.Store

variable {st : Store} {picks : DeviceId × SurveyId → Bool} {device : DeviceId} {id : SurveyId}
  {f : History → Nat}

/-- The weights of the picked histories together. -/
def tally (st : Store) (picks : DeviceId × SurveyId → Bool) (f : History → Nat) : Nat :=
  st.histories.total fun key h => if picks key then f h else 0

/-- What a changed history weighs takes the place of what it weighed before. A history that does not
exist yet weighs nothing. -/
theorem tally_trade (st : Store) (hf : f .empty = 0) (edit : History → History) :
    (st.editHistory device id edit).tally picks f +
        (if picks (device, id) then f ((st.history device id).getD .empty) else 0) =
      st.tally picks f +
        (if picks (device, id) then f (edit ((st.history device id).getD .empty)) else 0) := by
  have htrade := st.histories.total_put (fun key h => if picks key then f h else 0) (device, id)
    (edit ((st.history device id).getD .empty))
  have hold : weightAt (fun key h => if picks key then f h else 0) (device, id)
      (st.histories.get? (device, id)) =
      if picks (device, id) then f ((st.history device id).getD .empty) else 0 := by
    show weightAt _ _ (st.history device id) = _
    cases st.history device id with
    | none => simp [weightAt, hf]
    | some h => rfl
  rwa [hold] at htrade

/-- A changed history that is picked trades its weight. -/
theorem tally_editHistory (st : Store) (hf : f .empty = 0) (hpick : picks (device, id) = true)
    (edit : History → History) :
    (st.editHistory device id edit).tally picks f + f ((st.history device id).getD .empty) =
      st.tally picks f + f (edit ((st.history device id).getD .empty)) := by
  have htrade : (st.editHistory device id edit).tally picks f + _ = _ := tally_trade st hf edit
  rwa [if_pos hpick, if_pos hpick] at htrade

/-- A history that is not picked, or does not weigh differently, changes nothing. -/
theorem tally_editHistory_eq (hf : f .empty = 0) {edit : History → History}
    (hedit : picks (device, id) = true → ∀ h, f (edit h) = f h) :
    (st.editHistory device id edit).tally picks f = st.tally picks f := by
  have htrade : (st.editHistory device id edit).tally picks f + _ = _ := tally_trade st hf edit
  cases hpick : picks (device, id) with
  | false => simpa only [hpick, Bool.false_eq_true, if_false, Nat.add_zero] using htrade
  | true =>
    rw [if_pos hpick, if_pos hpick, hedit hpick] at htrade
    exact Nat.add_right_cancel htrade

/-- The changed history alone weighs no more than all that are picked. -/
theorem weight_le_tally (st : Store) (hpick : picks (device, id) = true) (f : History → Nat)
    (edit : History → History) :
    f (edit ((st.history device id).getD .empty)) ≤
      (st.editHistory device id edit).tally picks f := by
  have hle := Table.weight_le_total (fun key h => if picks key then f h else 0)
    (st.histories.get?_put_self (device, id) (edit ((st.history device id).getD .empty)))
  rwa [if_pos hpick] at hle

/-- If only one history is picked, it has all the weight. -/
theorem tally_of_one (hpicks : ∀ key, picks key = true ↔ key = (device, id)) (f : History → Nat) :
    st.tally picks f = weightAt (fun _ => f) (device, id) (st.history device id) := by
  have hw : ∀ key h, key ≠ (device, id) → (if picks key then f h else 0) = 0 :=
    fun key h hne => if_neg (mt (hpicks key).1 hne)
  rw [tally, Table.total_eq_of_single hw]
  show weightAt _ _ (st.history device id) = _
  cases st.history device id with
  | none => rfl
  | some h => exact if_pos ((hpicks _).2 rfl)

end SurveyGate.Store

import Mathlib.Algebra.Group.Nat.Defs
import Mathlib.Data.List.Induction
import SurveyGate.Text.Blank
import SurveyGate.Text.Digits

/-!
# `SurveyGate.Proofs.Text.Digits`: numbers and their digits

A padded number reads back as the number (`ofDigits_padded`) and has exactly the width it is padded
to, if it fits (`length_padded`). Any digits write a number below the power of ten of their length
(`ofDigits_lt_pow`). Digits are not blank, and they are told from what follows them
(`spanDigits_append`).
-/

set_option autoImplicit false

namespace SurveyGate.Text

variable {c : Char} {ds rest : List Char} {width n : Nat}

/-- The digits by their code points. -/
theorem isDigit_iff : isDigit c = true ↔ 48 ≤ c.toNat ∧ c.toNat ≤ 57 := by
  rw [isDigit, Bool.and_eq_true, decide_eq_true_iff, decide_eq_true_iff]
  exact Iff.rfl

/-- The digits of core are digits here. -/
theorem isDigit_of_core (h : c.isDigit = true) : isDigit c = true := by
  rw [Char.isDigit, Bool.and_eq_true, decide_eq_true_iff, decide_eq_true_iff] at h
  exact isDigit_iff.2 ⟨h.1, h.2⟩

/-- A digit is below ten. -/
theorem digitValue_lt (h : isDigit c = true) : digitValue c < 10 := by
  have hc := isDigit_iff.1 h
  rw [digitValue]
  omega

/-- A digit is not blank. -/
theorem isBlank_of_isDigit (h : isDigit c = true) : isBlank c = false := by
  have hc := isDigit_iff.1 h
  simp only [isBlank, Bool.or_eq_false_iff, Bool.and_eq_false_iff, decide_eq_false_iff_not,
    beq_eq_false_iff_ne]
  omega

/-! ### Padded numbers -/

/-- A padded number is made of digits. -/
theorem isDigit_of_mem_padded (h : c ∈ padded width n) : isDigit c = true := by
  rcases List.mem_append.1 h with hzero | hdigit
  · rw [List.eq_of_mem_replicate hzero]
    rfl
  · exact isDigit_of_core (Nat.isDigit_of_mem_toDigits (by decide) (by decide) hdigit)

/-- A padded number is not empty. -/
theorem padded_ne_nil (width n : Nat) : padded width n ≠ [] :=
  List.append_ne_nil_of_right_ne_nil _ Nat.toDigits_ne_nil

/-- A number that fits has the width that it is padded to. -/
theorem length_padded (hwidth : 0 < width) (h : n < 10 ^ width) :
    (padded width n).length = width := by
  have hfits : (Nat.toDigits 10 n).length ≤ width :=
    (Nat.length_toDigits_le_iff (by decide) hwidth).2 h
  rw [padded, List.length_append, List.length_replicate]
  omega

/-- The value of digits is the one that core reads. -/
theorem ofDigits_eq_ofDigitChars (ds : List Char) : ofDigits ds = Nat.ofDigitChars 10 ds 0 := by
  rw [Nat.ofDigitChars_eq_foldl]
  rfl

/-- A padded number reads back. -/
theorem ofDigits_padded (width n : Nat) : ofDigits (padded width n) = n := by
  rw [ofDigits_eq_ofDigitChars, padded, Nat.ofDigitChars_append, Nat.ofDigitChars_replicate_zero,
    Nat.mul_zero, Nat.ofDigitChars_toDigits (by decide) (by decide)]

/-! ### Digits of any origin -/

/-- One more digit is one more place. -/
theorem ofDigits_append_singleton (ds : List Char) (c : Char) :
    ofDigits (ds ++ [c]) = 10 * ofDigits ds + digitValue c := by
  rw [ofDigits, List.foldl_append]
  rfl

/-- So many digits stay below this power of ten. -/
theorem ofDigits_lt_pow (h : ∀ c ∈ ds, isDigit c = true) : ofDigits ds < 10 ^ ds.length := by
  induction ds using List.reverseRecOn with
  | nil => decide
  | append_singleton ds c ih =>
    have hfront := ih fun d hd => h d (List.mem_append_left _ hd)
    have hlast := digitValue_lt (h c (List.mem_append_right _ (List.mem_singleton_self c)))
    rw [ofDigits_append_singleton, List.length_append, List.length_singleton, Nat.pow_succ]
    omega

/-- Where no digit is in front there are no digits to take. -/
theorem takeWhile_isDigit_of_front (h : ∀ c, rest.head? = some c → isDigit c = false) :
    rest.takeWhile isDigit = [] := by
  cases rest with
  | nil => rfl
  | cons c rest => exact List.takeWhile_cons_of_neg (by simp [h c rfl])

/-- Digits are told from what follows them. -/
theorem spanDigits_append (hds : ∀ c ∈ ds, isDigit c = true)
    (hrest : ∀ c, rest.head? = some c → isDigit c = false) :
    spanDigits (ds ++ rest) = (ds, rest) := by
  have hnone := takeWhile_isDigit_of_front hrest
  have hall : rest.dropWhile isDigit = rest := by
    have hsplit := List.takeWhile_append_dropWhile (p := isDigit) (l := rest)
    rwa [hnone, List.nil_append] at hsplit
  rw [spanDigits, List.takeWhile_append_of_pos hds, List.dropWhile_append_of_pos hds, hnone, hall,
    List.append_nil]

end SurveyGate.Text

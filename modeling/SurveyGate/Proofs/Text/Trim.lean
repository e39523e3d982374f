import Mathlib.Data.List.DropRight
import SurveyGate.Text.Blank
import SurveyGate.Text.Search

/-!
# `SurveyGate.Proofs.Text.Trim`: texts without white space at their ends

A text is `Tidy` when it has characters and is blank at neither end. Trimming leaves a tidy text as
it is (`Tidy.trim_eq`), and what is left of a text by trimming is tidy unless nothing is left
(`tidy_of_nonBlank?`). White space around a text makes no difference to trimming
(`trim_padded`).
-/

set_option autoImplicit false

namespace SurveyGate.Text

/-- A text that is there and has no white space at either end. -/
structure Tidy (s : String) : Prop where
  nonempty : s ≠ ""
  front : ∀ c, s.toList.head? = some c → isBlank c = false
  back : ∀ c, s.toList.getLast? = some c → isBlank c = false

instance (s : String) : Decidable (Tidy s) :=
  decidable_of_iff (s ≠ "" ∧ s.toList.head?.all (!isBlank ·) = true ∧
      s.toList.getLast?.all (!isBlank ·) = true) <| by
    simp only [Option.all_eq_true, Bool.not_eq_true']
    exact ⟨fun ⟨hne, hfront, hback⟩ => ⟨hne, hfront, hback⟩, fun h => ⟨h.nonempty, h.front, h.back⟩⟩

/-- A text of white space alone. -/
def Blank (s : String) : Prop := ∀ c ∈ s.toList, isBlank c = true

instance (s : String) : Decidable (Blank s) :=
  List.decidableBAll (fun c => isBlank c = true) s.toList

/-! ### Characters -/

section
variable {cs : List Char} {c : Char}

/-- Trimming on the right drops the blanks at the end. -/
theorem trimRight_eq_rdropWhile (cs : List Char) : trimRight cs = cs.rdropWhile isBlank := rfl

/-- The first character that trimming leaves is not blank. -/
theorem head?_trimChars (h : (trimChars cs).head? = some c) : isBlank c = false := by
  -- What is dropped at the end leaves the first character in place.
  have hprefix : trimChars cs <+: trimLeft cs := List.rdropWhile_prefix _ _
  obtain ⟨rest, hrest⟩ := List.head?_eq_some_iff.1 h
  obtain ⟨dropped, hdropped⟩ := hprefix
  have hleft : (trimLeft cs).head? = some c := by rw [← hdropped, hrest]; rfl
  have hnot := List.head?_dropWhile_not isBlank cs
  rw [trimLeft] at hleft
  rwa [hleft] at hnot

/-- The last character that trimming leaves is not blank. -/
theorem getLast?_trimChars (h : (trimChars cs).getLast? = some c) : isBlank c = false := by
  have hne : trimChars cs ≠ [] := by
    rintro hnil
    rw [hnil] at h
    cases h
  rw [List.getLast?_eq_some_getLast hne] at h
  obtain rfl := Option.some.inj h
  exact Bool.eq_false_iff.2 (List.rdropWhile_last_not isBlank (trimLeft cs) hne)

/-- Where no blank is in front nothing is trimmed on the left. -/
theorem trimLeft_of_front (h : ∀ c, cs.head? = some c → isBlank c = false) : trimLeft cs = cs := by
  cases cs with
  | nil => rfl
  | cons c cs => rw [trimLeft, List.dropWhile_cons_of_neg (by simp [h c rfl])]

/-- Where no blank is at the end nothing is trimmed on the right. -/
theorem trimRight_of_back (h : ∀ c, cs.getLast? = some c → isBlank c = false) :
    trimRight cs = cs := by
  rw [trimRight_eq_rdropWhile, List.rdropWhile_eq_self_iff]
  intro hne
  rw [h _ (List.getLast?_eq_some_getLast hne)]
  exact Bool.false_ne_true

/-- Trimming leaves characters as they are when there is no white space at either end. -/
theorem trimChars_eq_self_iff :
    trimChars cs = cs ↔ (∀ c, cs.head? = some c → isBlank c = false) ∧
      ∀ c, cs.getLast? = some c → isBlank c = false := by
  constructor
  · intro h
    exact ⟨fun c hc => head?_trimChars (h.symm ▸ hc), fun c hc => getLast?_trimChars (h.symm ▸ hc)⟩
  · rintro ⟨hfront, hback⟩
    rw [trimChars, trimLeft_of_front hfront, trimRight_of_back hback]

/-- Blanks in front are trimmed. -/
theorem trimLeft_append_of_blank {front : List Char} (h : ∀ c ∈ front, isBlank c = true) :
    trimLeft (front ++ cs) = trimLeft cs :=
  List.dropWhile_append_of_pos h

/-- Blanks at the end are trimmed. -/
theorem trimRight_append_of_blank {back : List Char} (h : ∀ c ∈ back, isBlank c = true) :
    trimRight (cs ++ back) = trimRight cs := by
  rw [trimRight, List.reverse_append,
    List.dropWhile_append_of_pos fun c hc => h c (List.mem_reverse.1 hc), trimRight]

/-- White space around characters is trimmed away. -/
theorem trimChars_padded {front back : List Char} (hfront : ∀ c ∈ front, isBlank c = true)
    (hback : ∀ c ∈ back, isBlank c = true) : trimChars (front ++ cs ++ back) = trimChars cs := by
  rw [List.append_assoc, trimChars, trimLeft_append_of_blank hfront, trimLeft,
    List.dropWhile_append, trimChars, trimLeft]
  split
  · -- The characters are blank themselves, so nothing is left on either side.
    rename_i hnone
    rw [List.isEmpty_iff.1 hnone, List.dropWhile_eq_nil_iff.2 hback]
  · exact trimRight_append_of_blank hback

end

/-! ### Texts -/

variable {s t : String}

/-- What is left of a text by trimming is tidy, unless it is nothing. -/
theorem tidy_trim (h : trim s ≠ "") : Tidy (trim s) where
  nonempty := h
  front _ hc := head?_trimChars (by rwa [trim, String.toList_ofList] at hc)
  back _ hc := getLast?_trimChars (by rwa [trim, String.toList_ofList] at hc)

/-- What is left of a text without the blanks around it, unless it is empty. -/
theorem nonBlank?_eq_some_iff : nonBlank? s = some t ↔ trim s ≠ "" ∧ t = trim s := by
  unfold nonBlank?
  split
  · rename_i hempty
    simp [String.isEmpty_iff.1 hempty]
  · rename_i hne
    have htrim : trim s ≠ "" := fun heq => hne (String.isEmpty_iff.2 heq)
    simp [htrim, eq_comm]

/-- What is left of a text has no blanks around it. -/
theorem tidy_of_nonBlank? (h : nonBlank? s = some t) : Tidy t := by
  obtain ⟨hne, rfl⟩ := nonBlank?_eq_some_iff.1 h
  exact tidy_trim hne

/-- A tidy text stays as it is. -/
theorem Tidy.trim_eq (h : Tidy s) : trim s = s := by
  rw [trim, trimChars_eq_self_iff.2 ⟨h.front, h.back⟩, String.ofList_toList]

/-- What is left of a text by trimming is a part of it. -/
theorem occursIn_trim (s : String) : occursIn (trim s) s = true := by
  rw [occursIn_iff_isInfix, trim, String.toList_ofList]
  have hleft : trimLeft s.toList <:+ s.toList := List.dropWhile_suffix _
  exact (List.rdropWhile_prefix isBlank _).isInfix.trans hleft.isInfix

/-- White space around a text makes no difference. -/
theorem trim_padded {front back : String} (hfront : Blank front) (hback : Blank back) :
    trim (front ++ s ++ back) = trim s := by
  rw [trim, String.toList_append, String.toList_append, trimChars_padded hfront hback, trim]

end SurveyGate.Text

import SurveyGate.Proofs.Text.Trim
import SurveyGate.Visitor.Url

/-!
# `SurveyGate.Proofs.Visitor.Url`: the spellings of a URL

A URL is `Bare` when it is tidy and no scheme stands in front of it. It can be written in many ways,
with a scheme in any case and with white space around it (`Spells`), and `stripScheme` gives it back
from each of them (`stripScheme_of_spells`). One slash at the end makes no difference to `exactForm`
(`exactForm_of_spells`).

Taking off the scheme and the slash uncovers what stands next to them, and that is not trimmed any
more. So a normal form has white space at an end just when the URL has a gap there: white space
directly behind its scheme, or directly in front of its last slash (`trim_exactForm_iff`).
-/

set_option autoImplicit false

namespace SurveyGate.Url

open SurveyGate.Text

/-! ### Case -/

/-- Only the capitals of ASCII are changed. -/
theorem toLower_cases (c : Char) :
    c.toLower = c ∨ (65 ≤ c.toNat ∧ c.toNat ≤ 90) ∧ c.toLower.toNat = c.toNat + 32 := by
  unfold Char.toLower
  split
  · rename_i hc
    have hlow : 65 ≤ c.toNat := hc.1
    have hhigh : c.toNat ≤ 90 := hc.2
    refine .inr ⟨⟨hlow, hhigh⟩, ?_⟩
    show (c.val + 32).toNat = c.val.toNat + 32
    rw [UInt32.toNat_add]
    exact Nat.mod_eq_of_lt (by show c.toNat + 32 < 4294967296; omega)
  · exact .inl rfl

/-- A blank has no case. -/
theorem toLower_of_isBlank {c : Char} (h : isBlank c = true) : c.toLower = c := by
  rcases toLower_cases c with hsame | ⟨hupper, -⟩
  · exact hsame
  · simp only [isBlank, Bool.or_eq_true, Bool.and_eq_true, decide_eq_true_eq, beq_iff_eq] at h
    omega

/-- Only a slash is a slash in lower case. -/
theorem eq_slash_of_toLower {c : Char} (h : c.toLower = '/') : c = '/' := by
  rcases toLower_cases c with hsame | ⟨hupper, hnat⟩
  · rwa [hsame] at h
  · rw [h] at hnat
    have hslash : '/'.toNat = 47 := rfl
    omega

/-! ### Schemes -/

/-- A scheme that is left out, with its slashes and in any case. -/
def IsScheme (cs : List Char) : Prop :=
  cs.map Char.toLower = "https://".toList ∨ cs.map Char.toLower = "http://".toList

instance (cs : List Char) : Decidable (IsScheme cs) := inferInstanceAs (Decidable (_ ∨ _))

/-- A scheme stands in front of a URL. -/
def HasScheme (url : String) : Prop := ∃ scheme, IsScheme scheme ∧ scheme <+: url.toList

/-- A URL has one of the two schemes in front, in any case. -/
theorem hasScheme_iff {url : String} :
    HasScheme url ↔ "https://".toList <+: url.toList.map Char.toLower ∨
      "http://".toList <+: url.toList.map Char.toLower := by
  have hfront {wanted : List Char} (h : wanted <+: url.toList.map Char.toLower) :
      ∃ scheme, scheme.map Char.toLower = wanted ∧ scheme <+: url.toList := by
    obtain ⟨rest, hrest⟩ := h
    obtain ⟨scheme, others, hsplit, hlower, -⟩ := List.map_eq_append_iff.1 hrest.symm
    exact ⟨scheme, hlower, others, hsplit.symm⟩
  constructor
  · rintro ⟨scheme, hscheme, hpre⟩
    have hlower := hpre.map Char.toLower
    rcases hscheme with h | h
    · exact .inl (h ▸ hlower)
    · exact .inr (h ▸ hlower)
  · rintro (h | h)
    · obtain ⟨scheme, hlower, hpre⟩ := hfront h
      exact ⟨scheme, .inl hlower, hpre⟩
    · obtain ⟨scheme, hlower, hpre⟩ := hfront h
      exact ⟨scheme, .inr hlower, hpre⟩

instance (url : String) : Decidable (HasScheme url) := decidable_of_iff _ hasScheme_iff.symm

section
variable {scheme front rest cs : List Char}

/-- A scheme is not empty. -/
theorem IsScheme.ne_nil (h : IsScheme scheme) : scheme ≠ [] := by
  rintro rfl
  rcases h with h | h <;> cases h

/-- No character of a scheme is blank. -/
theorem IsScheme.not_blank (h : IsScheme scheme) : ∀ c ∈ scheme, isBlank c = false := by
  intro c hc
  have hlower : c.toLower ∈ scheme.map Char.toLower := List.mem_map_of_mem hc
  have hletters : ("https://".toList ++ "http://".toList).all (!isBlank ·) = true := by decide
  cases hblank : isBlank c with
  | false => rfl
  | true =>
    -- A blank has no other case, so it would stand in the scheme as it is.
    rw [toLower_of_isBlank hblank] at hlower
    have hc' : c ∈ "https://".toList ++ "http://".toList := by
      rcases h with h | h <;> rw [h] at hlower
      · exact List.mem_append_left _ hlower
      · exact List.mem_append_right _ hlower
    have hvisible := List.all_eq_true.1 hletters c hc'
    rw [hblank] at hvisible
    cases hvisible

/-- In front of the last slash of a scheme there is another one. -/
theorem IsScheme.getLast?_of_concat (h : IsScheme (cs ++ ['/'])) : cs.getLast? = some '/' := by
  have hslash : Char.toLower '/' = '/' := by decide
  have hlower : cs.map Char.toLower = "https:/".toList ∨ cs.map Char.toLower = "http:/".toList := by
    rw [IsScheme, List.map_append, List.map_singleton, hslash] at h
    have hcancel (rest : List Char) (heq : cs.map Char.toLower ++ ['/'] = rest ++ ['/']) :
        cs.map Char.toLower = rest := List.append_cancel_right heq
    exact h.imp (hcancel "https:/".toList) (hcancel "http:/".toList)
  have hlast : cs.getLast?.map Char.toLower = some '/' := by
    rw [← List.getLast?_map]
    rcases hlower with h | h <;> rw [h] <;> rfl
  -- No capital is written as a slash, so the character itself is one.
  obtain ⟨c, hc, hc'⟩ := Option.map_eq_some_iff.1 hlast
  exact eq_slash_of_toLower hc' ▸ hc

/-- A scheme in front, in any case, is dropped. -/
theorem dropScheme?_append (h : front.map Char.toLower = scheme) (rest : List Char) :
    dropScheme? scheme (front ++ rest) = some rest := by
  have hlength : scheme.length = front.length := by rw [← h, List.length_map]
  rw [dropScheme?, hlength, List.take_left, if_pos h, List.drop_left]

/-- What is dropped is the scheme in front, in any case. -/
theorem dropScheme?_eq_some (h : dropScheme? scheme cs = some rest) :
    ∃ front, front.map Char.toLower = scheme ∧ cs = front ++ rest := by
  unfold dropScheme? at h
  split at h
  · rename_i hfront
    obtain rfl := Option.some.inj h
    exact ⟨cs.take scheme.length, hfront, (List.take_append_drop ..).symm⟩
  · cases h

/-- Characters that begin with the one scheme do not begin with the other. -/
theorem dropScheme?_https (h : front.map Char.toLower = "http://".toList) (rest : List Char) :
    dropScheme? "https://".toList (front ++ rest) = none := by
  cases hdrop : dropScheme? "https://".toList (front ++ rest) with
  | none => rfl
  | some rest' =>
    obtain ⟨front', hfront', heq⟩ := dropScheme?_eq_some hdrop
    -- The two differ in their fifth character.
    have hfifth := congrArg (fun cs => (cs.map Char.toLower)[4]?) heq
    simp only [List.map_append, h, hfront'] at hfifth
    cases hfifth

/-- What stands behind a scheme is left of the trimmed characters. -/
theorem stripChars_of_scheme (h : IsScheme scheme) (hcs : trimChars cs = scheme ++ rest) :
    stripChars cs = rest := by
  rw [stripChars, hcs]
  rcases h with h | h
  · rw [dropScheme?_append h]
    rfl
  · rw [dropScheme?_https h, dropScheme?_append h]
    rfl

/-- Trimmed characters without a scheme stay as they are. -/
theorem stripChars_of_schemeless (h : ∀ scheme, IsScheme scheme → ¬ scheme <+: trimChars cs) :
    stripChars cs = trimChars cs := by
  have hnone {wanted : List Char}
      (hwanted : ∀ front, front.map Char.toLower = wanted → IsScheme front) :
      dropScheme? wanted (trimChars cs) = none := by
    cases hdrop : dropScheme? wanted (trimChars cs) with
    | none => rfl
    | some rest =>
      obtain ⟨front, hfront, heq⟩ := dropScheme?_eq_some hdrop
      exact absurd ⟨rest, heq.symm⟩ (h front (hwanted front hfront))
  rw [stripChars, hnone fun _ => .inl, hnone fun _ => .inr]
  rfl

/-- Either a scheme is taken off the trimmed characters, or there is none. -/
theorem stripChars_cases (cs : List Char) :
    (∃ scheme, IsScheme scheme ∧ trimChars cs = scheme ++ stripChars cs) ∨
      (∀ scheme, IsScheme scheme → ¬ scheme <+: trimChars cs) ∧ stripChars cs = trimChars cs := by
  by_cases h : ∃ scheme, IsScheme scheme ∧ scheme <+: trimChars cs
  · obtain ⟨scheme, hscheme, rest, hrest⟩ := h
    refine .inl ⟨scheme, hscheme, ?_⟩
    rw [stripChars_of_scheme hscheme hrest.symm, hrest]
  · have hno : ∀ scheme, IsScheme scheme → ¬ scheme <+: trimChars cs :=
      fun scheme hscheme hpre => h ⟨scheme, hscheme, hpre⟩
    exact .inr ⟨hno, stripChars_of_schemeless hno⟩

end

/-! ### Spellings -/

/-- A tidy URL without a scheme. -/
structure Bare (v : String) : Prop extends Tidy v where
  schemeless : ¬ HasScheme v

instance (v : String) : Decidable (Bare v) :=
  decidable_of_iff (Tidy v ∧ ¬ HasScheme v)
    ⟨fun ⟨htidy, hschemeless⟩ => ⟨htidy, hschemeless⟩, fun h => ⟨h.toTidy, h.schemeless⟩⟩

/-- A text writes out a URL, with a scheme or without one, and with white space around it. -/
def Spells (w v : String) : Prop :=
  ∃ front scheme back : String, Blank front ∧ Blank back ∧
    (scheme = "" ∨ IsScheme scheme.toList) ∧ w = front ++ (scheme ++ v) ++ back

section
variable {v w : String}

/-- A URL spells itself. -/
theorem spells_self (v : String) : Spells v v := by
  refine ⟨"", "", "", ?_, ?_, .inl rfl, ?_⟩
  · exact fun c hc => by cases hc
  · exact fun c hc => by cases hc
  · simp

/-- A scheme in front of a tidy text leaves nothing to trim. -/
theorem trimChars_scheme_append (hv : Tidy v) {scheme : List Char} (h : IsScheme scheme) :
    trimChars (scheme ++ v.toList) = scheme ++ v.toList := by
  have hne : v.toList ≠ [] := fun hnil => hv.nonempty (String.toList_eq_nil_iff.1 hnil)
  refine trimChars_eq_self_iff.2 ⟨fun c hc => ?_, fun c hc => ?_⟩
  · rw [List.head?_append_of_ne_nil _ h.ne_nil] at hc
    exact h.not_blank c (List.mem_of_head? hc)
  · rw [List.getLast?_append_of_ne_nil _ hne] at hc
    exact hv.back c hc

/-- A bare URL is what is left of each of its spellings. -/
theorem stripScheme_of_spells (hv : Bare v) (h : Spells w v) : stripScheme w = v := by
  obtain ⟨front, scheme, back, hfront, hback, hscheme, rfl⟩ := h
  have htrim : trimChars (front ++ (scheme ++ v) ++ back).toList =
      trimChars (scheme.toList ++ v.toList) := by
    rw [String.toList_append, String.toList_append, trimChars_padded hfront hback,
      String.toList_append]
  have hchars : stripChars (front ++ (scheme ++ v) ++ back).toList = v.toList := by
    rcases hscheme with rfl | hscheme
    · have htidy : trimChars (front ++ ("" ++ v) ++ back).toList = v.toList := by
        rw [htrim]
        exact trimChars_eq_self_iff.2 ⟨hv.front, hv.back⟩
      rw [stripChars_of_schemeless, htidy]
      rw [htidy]
      exact fun scheme hscheme hpre => hv.schemeless ⟨scheme, hscheme, hpre⟩
    · exact stripChars_of_scheme hscheme
        (htrim.trans (trimChars_scheme_append hv.toTidy hscheme))
  rw [stripScheme, hchars, String.ofList_toList]

end

/-! ### The slash at the end -/

section
variable {cs : List Char} {v w : String}

/-- Either a slash is taken off the end, or there is none. -/
theorem dropSlash_cases (cs : List Char) :
    cs = dropSlash cs ++ ['/'] ∨ cs.getLast? ≠ some '/' ∧ dropSlash cs = cs := by
  by_cases h : cs.getLast? = some '/'
  · obtain ⟨front, rfl⟩ := List.getLast?_eq_some_iff.1 h
    refine .inl ?_
    rw [dropSlash, if_pos h, List.dropLast_concat]
  · exact .inr ⟨h, by rw [dropSlash, if_neg h]⟩

/-- The characters with a slash behind them. -/
theorem toList_append_slash (v : String) : (v ++ "/").toList = v.toList ++ ['/'] := by
  rw [String.toList_append]
  rfl

/-- A slash at the end is dropped. -/
theorem dropSlash_concat (cs : List Char) : dropSlash (cs ++ ['/']) = cs := by
  rw [dropSlash, if_pos List.getLast?_concat, List.dropLast_concat]

/-- The exact form has neither scheme nor slash at the end. -/
theorem exactForm_eq (url : String) :
    exactForm url = .ofList (dropSlash (stripScheme url).toList) := by
  rw [stripScheme, String.toList_ofList, exactForm]

/-- A slash at the end leaves a URL bare, unless it is a second one. -/
theorem Bare.withSlash (hv : Bare v) (hslash : v.toList.getLast? ≠ some '/') :
    Bare (v ++ "/") where
  nonempty h := by
    have hlength := congrArg String.length h
    rw [String.length_append] at hlength
    cases hlength
  front c hc := by
    have hne : v.toList ≠ [] := fun hnil => hv.nonempty (String.toList_eq_nil_iff.1 hnil)
    rw [toList_append_slash, List.head?_append_of_ne_nil _ hne] at hc
    exact hv.front c hc
  back c hc := by
    rw [toList_append_slash] at hc
    obtain rfl := Option.some.inj (List.getLast?_concat.symm.trans hc)
    decide
  schemeless := by
    rintro ⟨scheme, hscheme, hpre⟩
    rw [toList_append_slash] at hpre
    rcases List.prefix_concat_iff.1 hpre with heq | hpre
    · exact hslash (heq ▸ hscheme).getLast?_of_concat
    · exact hv.schemeless ⟨scheme, hscheme, hpre⟩

/-- A bare URL without a slash at its end is the normal form of its spellings, with a slash at the
end and without. -/
theorem exactForm_of_spells (hv : Bare v) (hslash : v.toList.getLast? ≠ some '/')
    (h : Spells w v ∨ Spells w (v ++ "/")) : exactForm w = v := by
  rw [exactForm_eq]
  rcases h with h | h
  · rw [stripScheme_of_spells hv h, dropSlash, if_neg hslash, String.ofList_toList]
  · rw [stripScheme_of_spells (hv.withSlash hslash) h, toList_append_slash, dropSlash_concat,
      String.ofList_toList]

end

/-! ### Gaps -/

/-- White space directly behind the scheme of a URL, or directly in front of its last slash. -/
def HasGap (url : String) : Prop :=
  ∃ blank, isBlank blank = true ∧
    ((∃ scheme, IsScheme scheme ∧ scheme ++ [blank] <+: trimChars url.toList) ∨
      [blank, '/'] <:+ trimChars url.toList)

section
variable {cs : List Char} {blank : Char}

/-- Dropping a slash leaves the front. -/
theorem dropSlash_prefix (cs : List Char) : dropSlash cs <+: cs := by
  rcases dropSlash_cases cs with h | ⟨-, h⟩
  · exact ⟨['/'], h.symm⟩
  · exact ⟨[], by rw [h, List.append_nil]⟩

/-- Dropping a scheme leaves the end of the trimmed characters. -/
theorem stripChars_suffix (cs : List Char) : stripChars cs <:+ trimChars cs := by
  rcases stripChars_cases cs with ⟨scheme, -, h⟩ | ⟨-, h⟩
  · exact ⟨scheme, h.symm⟩
  · exact ⟨[], by rw [h, List.nil_append]⟩

/-- A normal form begins with white space when that stands behind the scheme. -/
theorem head?_dropSlash_stripChars (hne : dropSlash (stripChars cs) ≠ [])
    (hblank : isBlank blank = true) :
    (dropSlash (stripChars cs)).head? = some blank ↔
      ∃ scheme, IsScheme scheme ∧ scheme ++ [blank] <+: trimChars cs := by
  have hhead : (stripChars cs).head? = (dropSlash (stripChars cs)).head? := by
    obtain ⟨slash, hslash⟩ := dropSlash_prefix (stripChars cs)
    conv_lhs => rw [← hslash]
    exact List.head?_append_of_ne_nil _ hne
  rw [← hhead]
  constructor
  · intro h
    obtain ⟨rest, hrest⟩ := List.head?_eq_some_iff.1 h
    rcases stripChars_cases cs with ⟨scheme, hscheme, heq⟩ | ⟨-, heq⟩
    · exact ⟨scheme, hscheme, rest, by rw [heq, hrest, List.append_assoc]; rfl⟩
    · -- Without a scheme the characters begin as they were trimmed.
      rw [heq] at h
      rw [head?_trimChars h] at hblank
      cases hblank
  · rintro ⟨scheme, hscheme, rest, hrest⟩
    rw [List.append_assoc] at hrest
    rw [stripChars_of_scheme hscheme hrest.symm]
    rfl

/-- Two characters stand at the end when the first stands before the last. -/
theorem pair_suffix_concat_iff {a c : Char} : [a, c] <:+ cs ++ [c] ↔ cs.getLast? = some a := by
  rw [List.getLast?_eq_some_iff]
  constructor
  · rintro ⟨front, h⟩
    rw [← List.singleton_append, ← List.append_assoc] at h
    exact ⟨front, (List.append_cancel_right h).symm⟩
  · rintro ⟨front, rfl⟩
    exact ⟨front, by simp⟩

/-- A normal form ends with white space when that stands in front of the slash at the end. -/
theorem getLast?_dropSlash_stripChars (hne : dropSlash (stripChars cs) ≠ [])
    (hblank : isBlank blank = true) :
    (dropSlash (stripChars cs)).getLast? = some blank ↔ [blank, '/'] <:+ trimChars cs := by
  obtain ⟨scheme, hscheme⟩ := stripChars_suffix cs
  rcases dropSlash_cases (stripChars cs) with hslash | ⟨hnone, hsame⟩
  · -- The characters are the scheme, the normal form and the slash.
    have hall : trimChars cs = (scheme ++ dropSlash (stripChars cs)) ++ ['/'] := by
      rw [List.append_assoc, ← hslash, hscheme]
    rw [hall, pair_suffix_concat_iff, List.getLast?_append_of_ne_nil _ hne]
  · -- The characters end as they were trimmed, and not with a slash.
    rw [hsame] at hne ⊢
    have hlast : (trimChars cs).getLast? = (stripChars cs).getLast? := by
      conv_lhs => rw [← hscheme]
      exact List.getLast?_append_of_ne_nil _ hne
    rw [← hlast] at hnone ⊢
    constructor
    · intro h
      rw [getLast?_trimChars h] at hblank
      cases hblank
    · rintro ⟨front, hfront⟩
      refine absurd ?_ hnone
      rw [← hfront, List.getLast?_append]
      rfl

/-- A normal form has white space at an end just when the URL has a gap. -/
theorem trim_exactForm_iff {url : String} (hne : exactForm url ≠ "") :
    trim (exactForm url) = exactForm url ↔ ¬ HasGap url := by
  have hchars : dropSlash (stripChars url.toList) ≠ [] := fun hnil => hne (by
    rw [exactForm, hnil, String.ofList_nil])
  have htrim : trim (exactForm url) = exactForm url ↔
      trimChars (dropSlash (stripChars url.toList)) = dropSlash (stripChars url.toList) := by
    rw [trim, exactForm, String.toList_ofList, String.ofList_inj]
  rw [htrim, trimChars_eq_self_iff]
  constructor
  · rintro ⟨hfront, hback⟩ ⟨blank, hblank, hgap⟩
    rcases hgap with hgap | hgap
    · have hnot := hfront blank ((head?_dropSlash_stripChars hchars hblank).2 hgap)
      rw [hnot] at hblank
      cases hblank
    · have hnot := hback blank ((getLast?_dropSlash_stripChars hchars hblank).2 hgap)
      rw [hnot] at hblank
      cases hblank
  · intro hno
    refine ⟨fun c hc => Bool.eq_false_iff.2 fun hblank => ?_,
      fun c hc => Bool.eq_false_iff.2 fun hblank => ?_⟩
    · exact hno ⟨c, hblank, .inl ((head?_dropSlash_stripChars hchars hblank).1 hc)⟩
    · exact hno ⟨c, hblank, .inr ((getLast?_dropSlash_stripChars hchars hblank).1 hc)⟩

end

end SurveyGate.Url

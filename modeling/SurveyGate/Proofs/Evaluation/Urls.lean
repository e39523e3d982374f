import SurveyGate.Proofs.Evaluation.Signals
import SurveyGate.Proofs.Visitor.Url
import SurveyGate.Trigger.Draft

/-!
# `SurveyGate.Proofs.Evaluation.Urls`: criteria on the URL of a visitor

The criteria on URLs look at what is left of the URL without its scheme, and at nothing else
(`Criterion.evaluate_congr_url`). So they cannot tell the spellings of a URL apart, and where whole
URLs are compared, a slash at the end makes no difference either
(`Criterion.evaluate_spelling`).

A trigger stores the URL that it was made of in normal form, but trims that form once more, which is
not done with the URL of a visitor. Both sides are compared in the same form as long as the URL of
the trigger has no gap (`Trigger.urlEquals_compares`). A trigger made of a URL with a gap does not
hold at that URL (`Trigger.urlEquals_gap`).
-/

set_option autoImplicit false

namespace SurveyGate

open SurveyGate.Text

/-- The visitor at a URL. -/
def Visitor.visiting (x : Visitor) (url : String) : Visitor := { x with url := some url }

/-- A criterion is met by the visitor at a URL, whatever the page was asked before. -/
def Criterion.HoldsAt (c : Criterion) (x : Visitor) (url : String) : Prop :=
  ∀ calls, (c.evaluate (x.visiting url) calls).1.satisfied = .yes

/-! ### Triggers on URLs -/

namespace Draft

variable {u s text : String} {k : Kind} {column : Column} {t : Trigger}

/-- A column that is required gives its text without the blanks around it, if any is left. -/
theorem required_eq_ok_iff :
    required k column s = .ok text ↔ trim s ≠ "" ∧ text = trim s := by
  rw [← nonBlank?_eq_some_iff, required]
  cases nonBlank? s <;> simp

/-- What is made of a text that must not be blank is made of the text trimmed. -/
theorem required_bind_eq_ok_iff {α : Type} {f : String → Except ValidationError α} {a : α} :
    (required k column s >>= f) = .ok a ↔ trim s ≠ "" ∧ f (trim s) = .ok a := by
  cases hrequired : required k column s with
  | error e =>
    have hblank : ¬ trim s ≠ "" := fun hne => by
      rw [required_eq_ok_iff.2 ⟨hne, rfl⟩] at hrequired
      cases hrequired
    exact iff_of_false (fun h => by cases h) fun h => hblank h.1
  | ok text =>
    obtain ⟨hne, rfl⟩ := required_eq_ok_iff.1 hrequired
    exact (and_iff_right hne).symm

/-- A draft that asks for a text makes a trigger that stores it trimmed, unless it is blank. -/
theorem trigger_eq_ok_iff {d : Draft} {make : String → Criterion}
    (hcheck : ∀ limit, d.check limit = do return make (← required k column s)) :
    d.trigger = .ok t ↔ trim s ≠ "" ∧ t = .including (make (trim s)) := by
  have htrigger : d.trigger = do return .including (make (← required k column s)) := by
    rw [trigger, hcheck]
    cases required k column s <;> rfl
  rw [htrigger, required_bind_eq_ok_iff, @eq_comm _ t]
  refine and_congr_right fun _ => ?_
  show Except.ok _ = Except.ok t ↔ _
  rw [Except.ok.injEq]

/-- A part of a URL is stored without its scheme. -/
theorem urlContains_trigger :
    (Draft.urlContains u).trigger = .ok t ↔
      trim (Url.stripScheme u) ≠ "" ∧ t = .including (.urlContains (trim (Url.stripScheme u))) := by
  have hcheck (limit : Nat) : (Draft.urlContains u).check limit = do
      return .urlContains (← required .urlContains .url (Url.stripScheme u)) := by
    rw [check, Url.fragmentForm]
  exact trigger_eq_ok_iff hcheck

/-- A whole URL is stored in normal form. -/
theorem urlEquals_trigger :
    (Draft.urlEquals u).trigger = .ok t ↔
      trim (Url.exactForm u) ≠ "" ∧ t = .including (.urlEquals (trim (Url.exactForm u))) := by
  have hcheck (limit : Nat) : (Draft.urlEquals u).check limit = do
      return .urlEquals (← required .urlEquals .urlMatches (Url.exactForm u)) := by
    rw [check]
  exact trigger_eq_ok_iff hcheck

end Draft

/-! ### What is looked at in a URL -/

section
variable {w w' target : String} {c : Criterion}

/-- A URL of which something is left without its scheme is not blank. -/
theorem Url.not_blank_of_stripScheme (h : Url.stripScheme w ≠ "") : isBlankText w = false := by
  rw [isBlankText, Bool.eq_false_iff, Ne, String.isEmpty_iff]
  intro hblank
  have htrim : trimChars w.toList = [] := by
    rw [trim] at hblank
    simpa using congrArg String.toList hblank
  have hnil : Url.stripChars w.toList = [] :=
    List.suffix_nil.1 (htrim ▸ Url.stripChars_suffix w.toList)
  exact h (by rw [Url.stripScheme, hnil, String.ofList_nil])

/-- The visitor is at the URL without its scheme, unless that is nothing. -/
theorem Visitor.strippedUrl?_visiting (x : Visitor) (h : Url.stripScheme w ≠ "") :
    (x.visiting w).strippedUrl? = some (Url.stripScheme w) := by
  have hnonempty : (Url.stripScheme w).isEmpty = false :=
    Bool.eq_false_iff.2 fun hempty => h (String.isEmpty_iff.1 hempty)
  simp [visiting, strippedUrl?, hnonempty]

/-- The visitor is at the URL, unless it is blank. -/
theorem Visitor.usableUrl?_visiting (x : Visitor) (h : isBlankText w = false) :
    (x.visiting w).usableUrl? = some w := by
  simp [visiting, usableUrl?, h]

/-- Where whole URLs are compared, two of them with the same normal form are alike. -/
theorem Criterion.evaluate_congr_exactForm (hw : isBlankText w = false)
    (hw' : isBlankText w' = false) (h : Url.exactForm w = Url.exactForm w') (target : String)
    (x : Visitor) :
    (Criterion.urlEquals target).evaluate (x.visiting w) =
      (Criterion.urlEquals target).evaluate (x.visiting w') := by
  funext calls
  rw [evaluate_of_not_needsPage rfl, evaluate_of_not_needsPage rfl]
  simp only [outcome, Visitor.usableUrl?_visiting x hw, Visitor.usableUrl?_visiting x hw',
    Outcome.ofUrl, h]

/-- A criterion on URLs looks at what is left of a URL without its scheme. -/
theorem Criterion.evaluate_congr_url (hc : c.kind.needsUrl = true)
    (h : Url.stripScheme w = Url.stripScheme w') (hne : Url.stripScheme w ≠ "") (x : Visitor) :
    c.evaluate (x.visiting w) = c.evaluate (x.visiting w') := by
  have hne' : Url.stripScheme w' ≠ "" := h ▸ hne
  cases c with
  | urlContains | regexMatches =>
    funext calls
    rw [evaluate_of_not_needsPage rfl, evaluate_of_not_needsPage rfl]
    simp only [outcome, Visitor.strippedUrl?_visiting x hne, Visitor.strippedUrl?_visiting x hne',
      h]
  | urlEquals target =>
    refine evaluate_congr_exactForm (Url.not_blank_of_stripScheme hne)
      (Url.not_blank_of_stripScheme hne') ?_ target x
    rw [Url.exactForm_eq, Url.exactForm_eq, h]
  | _ => cases hc

/-- A comparison of two texts is yes when it holds. -/
theorem Outcome.satisfied_related (holds : Bool) (left name opposite right : String) :
    (related holds left name opposite right).satisfied = .yes ↔ holds = true := by
  cases holds with
  | true => exact iff_of_true rfl rfl
  | false => exact iff_of_false Kleene.noConfusion Bool.false_ne_true

/-- What a criterion says that does not need the page depends on no answer of it. -/
theorem Criterion.holdsAt_iff (hpage : c.kind.needsPage = false) {x : Visitor} :
    c.HoldsAt x w ↔ (c.outcome (x.visiting w)).satisfied = .yes := by
  have heval (calls : List PageCall) :
      (c.evaluate (x.visiting w) calls).1 = c.outcome (x.visiting w) := by
    rw [evaluate_of_not_needsPage hpage]
  exact ⟨fun h => heval [] ▸ h [], fun h calls => (heval calls).symm ▸ h⟩

/-- A criterion on a part of a URL holds where the part stands in the URL without its scheme. -/
theorem Criterion.urlContains_holdsAt_iff (htarget : target ≠ "") (x : Visitor) :
    (Criterion.urlContains target).HoldsAt x w ↔ occursIn target (Url.stripScheme w) = true := by
  rw [holdsAt_iff rfl, outcome]
  by_cases hne : Url.stripScheme w = ""
  · have hmissing : (x.visiting w).strippedUrl? = none := by
      simp [Visitor.visiting, Visitor.strippedUrl?, hne]
    have hnot : occursIn target "" = false := by
      rw [Bool.eq_false_iff, Ne, occursIn_iff_isInfix]
      intro hpart
      exact htarget (String.toList_eq_nil_iff.1 (List.infix_nil.1 hpart))
    rw [hmissing, hne, hnot]
    exact iff_of_false Kleene.noConfusion Bool.false_ne_true
  · rw [Visitor.strippedUrl?_visiting x hne]
    exact Outcome.satisfied_related ..

/-- A criterion on whole URLs holds where the normal form is the one that it stores. -/
theorem Criterion.urlEquals_holdsAt_iff (htarget : target ≠ "") (x : Visitor) :
    (Criterion.urlEquals target).HoldsAt x w ↔ target = Url.exactForm w := by
  rw [holdsAt_iff rfl, outcome]
  cases hblank : isBlankText w with
  | true =>
    have hmissing : (x.visiting w).usableUrl? = none := by
      simp [Visitor.visiting, Visitor.usableUrl?, hblank]
    have hstrip : Url.stripScheme w = "" := by
      by_contra hne
      rw [Url.not_blank_of_stripScheme hne] at hblank
      cases hblank
    have hempty : Url.exactForm w = "" := by
      rw [Url.exactForm_eq, hstrip]
      rfl
    rw [hmissing, hempty]
    exact iff_of_false Kleene.noConfusion htarget
  | false =>
    rw [Visitor.usableUrl?_visiting x hblank]
    exact (Outcome.satisfied_related ..).trans (beq_iff_eq.trans eq_comm)

end

/-! ### Spellings of a URL -/

/-- Criteria on URLs and the spellings of a URL.

* Each of them comes out the same way, with the same message, for all spellings of a bare URL.
* Where whole URLs are compared, this goes for a slash at the end as well, if it is the only one.
* A trigger on a part of a URL holds at all spellings of a bare URL in which that part stands
  without its scheme and without white space around it, and it holds at the URL it was made of. -/
theorem Criterion.evaluate_spelling (x : Visitor) :
    (∀ v, Url.Bare v →
      (∀ c : Criterion, c.kind.needsUrl = true → ∀ w, Url.Spells w v →
        c.evaluate (x.visiting w) = c.evaluate (x.visiting v)) ∧
      (v.toList.getLast? ≠ some '/' → ∀ target w, Url.Spells w (v ++ "/") →
        (Criterion.urlEquals target).evaluate (x.visiting w) =
          (Criterion.urlEquals target).evaluate (x.visiting v))) ∧
    ∀ u t, (Draft.urlContains u).trigger = .ok t →
      (∀ v, Url.Bare v → occursIn (trim (Url.stripScheme u)) v = true → ∀ w, Url.Spells w v →
        t.criterion.HoldsAt x w) ∧
      t.criterion.HoldsAt x u := by
  refine ⟨fun v hv => ?_, fun u t ht => ?_⟩
  · have hself := Url.stripScheme_of_spells hv (Url.spells_self v)
    have hne : Url.stripScheme v ≠ "" := hself.trans_ne hv.nonempty
    refine ⟨fun c hc w hw => ?_, fun hslash target w hw => ?_⟩
    · have hstrip := Url.stripScheme_of_spells hv hw
      exact evaluate_congr_url hc (hstrip.trans hself.symm) (hstrip.trans_ne hv.nonempty) x
    · have hbare := hv.withSlash hslash
      have hstrip := Url.stripScheme_of_spells hbare hw
      have hform : Url.exactForm w = Url.exactForm v :=
        (Url.exactForm_of_spells hv hslash (.inr hw)).trans
          (Url.exactForm_of_spells hv hslash (.inl (Url.spells_self v))).symm
      exact evaluate_congr_exactForm (Url.not_blank_of_stripScheme (hstrip.trans_ne hbare.nonempty))
        (Url.not_blank_of_stripScheme hne) hform target x
  · obtain ⟨hne, rfl⟩ := Draft.urlContains_trigger.1 ht
    refine ⟨fun v hv hpart w hw => ?_, ?_⟩
    · refine (urlContains_holdsAt_iff hne x).2 ?_
      rwa [Url.stripScheme_of_spells hv hw]
    · exact (urlContains_holdsAt_iff hne x).2 (occursIn_trim _)

/-- The page about prices is found with a scheme in capitals and with blanks around it. A trigger
made of the path, written as a URL with a gap, holds there and at that URL. -/
theorem Criterion.evaluate_spelling_pricing :
    let x := Visitor.unknown default
    let v := "site.com/pricing"
    let w := "\tHTTPS://site.com/pricing "
    let u := "http:// /pricing"
    let t := Trigger.including (.urlContains "/pricing")
    (Url.Bare v ∧ v.toList.getLast? ≠ some '/' ∧ Url.Spells w v ∧
      (Draft.urlContains u).trigger = .ok t ∧ occursIn (trim (Url.stripScheme u)) v = true) ∧
    (∀ target, (Criterion.urlEquals target).evaluate (x.visiting w) =
      (Criterion.urlEquals target).evaluate (x.visiting v)) ∧
    t.criterion.HoldsAt x w ∧ t.criterion.HoldsAt x u := by
  intro x v w u t
  have hbare : Url.Bare v := by decide +kernel
  have hslash : v.toList.getLast? ≠ some '/' := by decide +kernel
  have hspells : Url.Spells w v :=
    ⟨"\t", "HTTPS://", " ", by decide, by decide, by decide, by decide +kernel⟩
  have hstored : trim (Url.stripScheme u) = "/pricing" := by decide +kernel
  have ht : (Draft.urlContains u).trigger = .ok t :=
    Draft.urlContains_trigger.2 ⟨hstored.trans_ne (by decide), by rw [hstored]⟩
  have hpart : occursIn (trim (Url.stripScheme u)) v = true := by decide +kernel
  obtain ⟨hspellings, hparts⟩ := Criterion.evaluate_spelling x
  obtain ⟨hall, -⟩ := hspellings v hbare
  obtain ⟨hheld, hown⟩ := hparts u t ht
  exact ⟨⟨hbare, hslash, hspells, ht, hpart⟩, fun target => hall _ rfl w hspells,
    hheld v hbare hpart w hspells, hown⟩

/-! ### Whole URLs and their gaps -/

/-- A trigger on a whole URL compares normal forms, of which its own is trimmed once more. It holds
just at the URLs with the same normal form, and with that at the URL it was made of, if and only if
this one has no gap. -/
theorem Trigger.urlEquals_compares (x : Visitor) {u : String} {t : Trigger}
    (ht : (Draft.urlEquals u).trigger = .ok t) :
    (∀ w, t.criterion.HoldsAt x w ↔ trim (Url.exactForm u) = Url.exactForm w) ∧
    ((∀ w, t.criterion.HoldsAt x w ↔ Url.exactForm u = Url.exactForm w) ↔ ¬ Url.HasGap u) ∧
    (t.criterion.HoldsAt x u ↔ ¬ Url.HasGap u) := by
  obtain ⟨hne, rfl⟩ := Draft.urlEquals_trigger.1 ht
  have hform : Url.exactForm u ≠ "" := fun hempty => hne (by rw [hempty]; rfl)
  have hholds (w : String) : (Criterion.urlEquals (trim (Url.exactForm u))).HoldsAt x w ↔
      trim (Url.exactForm u) = Url.exactForm w := Criterion.urlEquals_holdsAt_iff hne x
  have hself := (hholds u).trans (Url.trim_exactForm_iff hform)
  refine ⟨hholds, ⟨fun hall => hself.1 ((hall u).2 rfl), fun hgap w => ?_⟩, hself⟩
  show (Criterion.urlEquals (trim (Url.exactForm u))).HoldsAt x w ↔ _
  rw [hholds, (Url.trim_exactForm_iff hform).2 hgap]

/-- A URL without a gap, written with a scheme, a slash and blanks around it. The trigger made of it
holds at the URL and at the page that it names, and not on another page. -/
theorem Trigger.urlEquals_compares_blog :
    let x := Visitor.unknown default
    let u := " https://site.com/blog/ "
    let t := Trigger.including (.urlEquals "site.com/blog")
    (Draft.urlEquals u).trigger = .ok t ∧ ¬ Url.HasGap u ∧ t.criterion.HoldsAt x u ∧
      t.criterion.HoldsAt x "HTTP://site.com/blog" ∧
      ¬ t.criterion.HoldsAt x "site.com/blog//" := by
  intro x u t
  have hstored : trim (Url.exactForm u) = "site.com/blog" := by decide +kernel
  have ht : (Draft.urlEquals u).trigger = .ok t :=
    Draft.urlEquals_trigger.2 ⟨hstored.trans_ne (by decide), by rw [hstored]⟩
  have hgap : ¬ Url.HasGap u :=
    (Url.trim_exactForm_iff (by decide +kernel)).1 (by decide +kernel)
  obtain ⟨-, hall, hself⟩ := Trigger.urlEquals_compares x ht
  have hcompares := hall.2 hgap
  exact ⟨ht, hgap, hself.2 hgap, (hcompares _).2 (by decide +kernel),
    fun h => absurd ((hcompares _).1 h) (by decide +kernel)⟩

/-- A URL with a gap in front of its last slash is accepted, and the trigger does not hold at that
very URL. It holds at one with another normal form. -/
theorem Trigger.urlEquals_gap :
    let x := Visitor.unknown default
    let u := "site.com /"
    let t := Trigger.including (.urlEquals "site.com")
    (Draft.urlEquals u).trigger = .ok t ∧
      (t.criterion.evaluate (x.visiting u) []).1.satisfied = .no ∧
      (t.criterion.evaluate (x.visiting "site.com") []).1.satisfied = .yes ∧
      Url.exactForm u ≠ Url.exactForm "site.com" := by
  intro x u t
  have hstored : trim (Url.exactForm u) = "site.com" := by decide +kernel
  have ht : (Draft.urlEquals u).trigger = .ok t :=
    Draft.urlEquals_trigger.2 ⟨hstored.trans_ne (by decide), by rw [hstored]⟩
  exact ⟨ht, by decide +kernel, by decide +kernel, by decide +kernel⟩

end SurveyGate

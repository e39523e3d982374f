import SurveyGate.Proofs.Decision.Report
import SurveyGate.Proofs.Evaluation.Supplying
import SurveyGate.Proofs.Evaluation.Urls

/-!
# `SurveyGate.Proofs.Evaluation.Opposites`: criteria that ask for the opposite

Some criteria come in two forms, of which one asks that something holds and the other one that it
does not: device data that are or are not a text, contain it or do not, or are true or not; a text
that is or is not on a page; a client key that is there or is not (`Criterion.Opposite`). The second
form is the Kleene negation of the first, so the two are open together. With device data this includes
a key that was never recorded: no comparison is made then, and the matcher itself tells which way the
criterion comes out.

Comparisons of numbers are no such pairs. A key without a number fails all four of them. With a
number under the key, more is the negation of equal or less and less that of equal or more, because
finite numbers are totally ordered (`Matcher.compares_isMoreThan`, `Matcher.compares_isLessThan`).

`Criterion.opposites_negate` states both.
-/

set_option autoImplicit false

namespace SurveyGate

open SurveyGate.Number SurveyGate.Text

/-! ### Negative matchers -/

/-- The second matcher asks for the opposite of the first. -/
inductive Matcher.Opposite : Matcher → Matcher → Prop where
  | is : Opposite .is .isNot
  | contains : Opposite .contains .doesNotContain
  | isTrue : Opposite .isTrue .isNotTrue

namespace Matcher.Opposite

variable {m m' : Matcher}

/-- Opposite matchers compare texts. -/
theorem not_numeric (h : m.Opposite m') : m.isNumeric = false ∧ m'.isNumeric = false := by
  cases h <;> exact ⟨rfl, rfl⟩

/-- A key that was never recorded passes the one and fails the other. -/
theorem isNegative (h : m.Opposite m') : m'.isNegative = !m.isNegative := by
  cases h <;> rfl

/-- Of two opposite matchers just one accepts a value. -/
theorem accepts (h : m.Opposite m') (actual : DeviceValue) (expected : String) :
    m'.accepts actual expected = !m.accepts actual expected := by
  cases h with
  | is => rfl
  | contains => rfl
  | isTrue => rfl

/-- Two opposite matchers judge a value by opposite truth values. -/
theorem satisfied_judge (h : m.Opposite m') (key : String) (actual : DeviceValue)
    (expected : String) :
    (m'.judge key actual expected).satisfied =
      (m.judge key actual expected).satisfied.negate := by
  obtain ⟨hm, hm'⟩ := h.not_numeric
  simp [judge, hm, hm', h.accepts]

/-- With no device data both matchers are open, with a key that is missing one of them passes, and
with a value under the key they compare it in opposite ways. -/
theorem satisfied_outcome (h : m.Opposite m') (key : String) (expected : Option String)
    (v : Visitor) :
    (m'.outcome key expected v).satisfied =
      (m.outcome key expected v).satisfied.negate := by
  unfold outcome
  cases v.deviceData with
  | none => rfl
  | some data =>
    cases hget : data.get? key with
    | none => simp [hget, h.isNegative]
    | some actual => simpa [hget] using h.satisfied_judge key actual (expected.getD "")

end Matcher.Opposite

/-! ### Criteria -/

/-- The second criterion asks for the opposite of the first. -/
inductive Criterion.Opposite : Criterion → Criterion → Prop where
  | deviceData {m m' : Matcher} (matchers : m.Opposite m') (key : String) (value : Option String)
    (mandatory mandatory' : Bool) :
    Opposite (.deviceData key m value mandatory) (.deviceData key m' value mandatory')
  | textOnPage (selector text : String) :
    Opposite (.textOnPage selector text true) (.textOnPage selector text false)
  | clientKeyPresence : Opposite (.clientKeyPresence true) (.clientKeyPresence false)

namespace Criterion.Opposite

variable {c c' : Criterion} {v : Visitor} {p : ProbePolicy} {run run' : Run}

/-- The answer of a page means the opposite for the opposite criterion. -/
theorem satisfied_ofAnswer (selector text : String) (found : Bool) :
    ((Criterion.textOnPage selector text false).ofAnswer found).satisfied =
      ((Criterion.textOnPage selector text true).ofAnswer found).satisfied.negate := by
  cases found <;> rfl

/-- A page that is asked one or the other gives the same reply, which decides the two in opposite
ways or neither. -/
theorem satisfied_ofReply (selector text : String) (reply : Reply) :
    ((Criterion.textOnPage selector text false).ofReply reply).satisfied =
      ((Criterion.textOnPage selector text true).ofReply reply).satisfied.negate := by
  rw [Criterion.satisfied_ofReply, Criterion.satisfied_ofReply]
  cases reply.decided? with
  | none => rfl
  | some found => exact satisfied_ofAnswer selector text found

/-- Decided at the same moment, one criterion is the negation of the other. -/
theorem satisfied_evaluate (h : c.Opposite c') (v : Visitor) (calls : List PageCall) :
    (c'.evaluate v calls).1.satisfied = (c.evaluate v calls).1.satisfied.negate := by
  cases h with
  | deviceData matchers key value mandatory mandatory' =>
    rw [evaluate_of_not_needsPage rfl, evaluate_of_not_needsPage rfl]
    exact matchers.satisfied_outcome key value v
  | clientKeyPresence =>
    rw [evaluate_of_not_needsPage rfl, evaluate_of_not_needsPage rfl, outcome, outcome]
    cases v.clientKeyPresent with
    | none => rfl
    | some present => cases present <;> rfl
  | textOnPage selector text =>
    -- Without a URL or a page there is nothing to ask, and both criteria are open.
    have hopen : ((Criterion.textOnPage selector text false).withoutPage v).satisfied =
        ((Criterion.textOnPage selector text true).withoutPage v).satisfied.negate := by
      rw [withoutPage_satisfied, withoutPage_satisfied]
      rfl
    unfold evaluate
    cases v.usableUrl? with
    | none => exact hopen
    | some url =>
      cases v.page with
      | none => exact hopen
      | some page => exact satisfied_ofReply selector text (page calls ⟨url, .text selector text⟩)

/-- On a page whose answers do not change the two need not be asked at the same moment. -/
theorem satisfied_asked (h : c.Opposite c') (v : Visitor) :
    (c'.asked v).satisfied = (c.asked v).satisfied.negate :=
  h.satisfied_evaluate v []

/-- Examined with patience, one criterion is the negation of the other as well. -/
theorem satisfied_examine (h : c.Opposite c') (hpage : v.PageIsFixed)
    (hrun : Undisturbed p v (c.examine p v run).2)
    (hrun' : Undisturbed p v (c'.examine p v run').2) :
    (c'.examine p v run').1.satisfied = (c.examine p v run).1.satisfied.negate := by
  obtain ⟨-, hc⟩ := c.examine_spec hpage run hrun
  obtain ⟨-, hc'⟩ := c'.examine_spec hpage run' hrun'
  rw [hc, hc', h.satisfied_asked v]

end Criterion.Opposite

/-! ### Comparisons of numbers -/

/-- A known value is yes when it is true. -/
theorem Kleene.ofBool_eq_yes_iff {b : Bool} : ofBool b = .yes ↔ b = true := by
  cases b <;> decide

/-- What is less is less or equal. -/
theorem Number.Double.lessOrEqual_of_less {a b : Double} (h : a.less b = true) :
    a.lessOrEqual b = true := by
  unfold less at h
  unfold lessOrEqual
  cases hx : a.scaled? with
  | none => simp [hx] at h
  | some x =>
    cases hy : b.scaled? with
    | none => simp [hx, hy] at h
    | some y =>
      simp only [hx, hy, decide_eq_true_eq] at h ⊢
      omega

namespace Matcher

variable {m : Matcher} {observed threshold : Double}

/-- More than is not equal or less than, for finite numbers. -/
theorem compares_isMoreThan (ho : observed.isFinite = true) (ht : threshold.isFinite = true) :
    isMoreThan.compares observed threshold = !isEqualOrLessThan.compares observed threshold :=
  Double.less_iff_not_lessOrEqual ht ho

/-- Less than is not equal or more than, for finite numbers. -/
theorem compares_isLessThan (ho : observed.isFinite = true) (ht : threshold.isFinite = true) :
    isLessThan.compares observed threshold = !isEqualOrMoreThan.compares observed threshold :=
  Double.less_iff_not_lessOrEqual ho ht

/-- A number is not both more and less than another one. -/
theorem compares_isMoreThan_isLessThan (ho : observed.isFinite = true)
    (ht : threshold.isFinite = true) :
    ¬(isMoreThan.compares observed threshold = true ∧
      isLessThan.compares observed threshold = true) := by
  rintro ⟨hmore, hless⟩
  have hle : observed.lessOrEqual threshold = true := Double.lessOrEqual_of_less hless
  rw [compares_isMoreThan ho ht] at hmore
  simp [compares, hle] at hmore

/-- The number recorded under a key. -/
def recorded? (data : Table String DeviceValue) (key : String) : Option Double :=
  (data.get? key).bind DeviceValue.number?

/-- A recorded number is finite. -/
theorem isFinite_of_recorded? {data : Table String DeviceValue} {key : String}
    (h : recorded? data key = some observed) : observed.isFinite = true := by
  obtain ⟨actual, -, hnumber⟩ := Option.bind_eq_some_iff.1 h
  cases actual with
  | bool b => cases hnumber
  | number x =>
    simp only [DeviceValue.number?] at hnumber
    split at hnumber
    · rename_i hfinite
      obtain rfl := Option.some.inj hnumber
      exact hfinite
    · cases hnumber
  | text s => exact (Option.filter_eq_some_iff.1 hnumber).2

/-- A comparison with a number is decided by the number under the key, and fails without one. -/
theorem satisfied_outcome_of_numeric (hm : m.isNumeric = true) {key value : String} {v : Visitor}
    {data : Table String DeviceValue} (hdata : v.deviceData = some data)
    (hvalue : finiteNumber? value = some threshold) :
    (m.outcome key (some value) v).satisfied =
      .ofBool ((recorded? data key).any (m.compares · threshold)) := by
  have hread : readDouble? (trim value) = some threshold := (Option.filter_eq_some_iff.1 hvalue).1
  have hpositive : m.isNegative = false := by
    cases m with
    | isNot | doesNotContain | isNotTrue => cases hm
    | _ => rfl
  unfold outcome recorded?
  rw [hdata]
  cases hget : data.get? key with
  | none => simp [hget, hpositive]
  | some actual =>
    cases hnumber : actual.number? <;> simp [hget, judge, hm, hread, hnumber]

/-- The four comparisons of a finite number with another one, or of no number. -/
theorem truths_of_compares {recorded : Option Double} {truth : Matcher → Kleene}
    (hfinite : ∀ x, recorded = some x → x.isFinite = true) (ht : threshold.isFinite = true)
    (h : ∀ m : Matcher, m.isNumeric = true →
      truth m = .ofBool (recorded.any (m.compares · threshold))) :
    (recorded = none → ∀ m : Matcher, m.isNumeric = true → truth m = .no) ∧
    (recorded ≠ none → truth .isMoreThan = (truth .isEqualOrLessThan).negate ∧
      truth .isLessThan = (truth .isEqualOrMoreThan).negate) ∧
    ¬(truth .isMoreThan = .yes ∧ truth .isLessThan = .yes) := by
  cases recorded with
  | none =>
    refine ⟨fun _ m hm => h m hm, fun hne => absurd rfl hne, fun ⟨hmore, _⟩ => ?_⟩
    rw [h _ rfl] at hmore
    cases hmore
  | some observed =>
    have ho : observed.isFinite = true := hfinite observed rfl
    refine ⟨fun hnone => (nomatch hnone), fun _ => ⟨?_, ?_⟩, fun ⟨hmore, hless⟩ => ?_⟩
    · rw [h _ rfl, h _ rfl, Option.any_some, Option.any_some, compares_isMoreThan ho ht,
        Kleene.negate_ofBool]
    · rw [h _ rfl, h _ rfl, Option.any_some, Option.any_some, compares_isLessThan ho ht,
        Kleene.negate_ofBool]
    · rw [h _ rfl, Option.any_some, Kleene.ofBool_eq_yes_iff] at hmore hless
      exact compares_isMoreThan_isLessThan ho ht ⟨hmore, hless⟩

end Matcher

namespace Draft

variable {m : Matcher} {key : String} {value : Option String} {mandatory : Bool} {t : Trigger}

/-- A trigger on device data stores the key and the value trimmed, if the value fits the matcher. -/
theorem deviceData_trigger_eq_ok_iff :
    (Draft.deviceData key m value mandatory).trigger = .ok t ↔
      trim key ≠ "" ∧ checkValue m (value.bind nonBlank?) = .ok () ∧
        t = .including (.deviceData (trim key) m (value.bind nonBlank?) mandatory) := by
  have htrigger : (Draft.deviceData key m value mandatory).trigger = do
      let key ← required .deviceData .deviceDataKey key
      checkValue m (value.bind nonBlank?)
      return .including (.deviceData key m (value.bind nonBlank?) mandatory) := by
    rw [trigger, check]
    cases required .deviceData .deviceDataKey key with
    | error e => rfl
    | ok key =>
      show Except.map _ (checkValue m (value.bind nonBlank?) >>= fun _ => _) = _
      cases checkValue m (value.bind nonBlank?) <;> rfl
  rw [htrigger, required_bind_eq_ok_iff, @eq_comm _ t]
  refine and_congr_right fun _ => ?_
  cases checkValue m (value.bind nonBlank?) with
  | error e => exact iff_of_false (fun h => by cases h) fun h => by cases h.1
  | ok u =>
    rw [and_iff_right rfl]
    show Except.ok _ = Except.ok t ↔ _
    rw [Except.ok.injEq]

/-- Whether a value can be compared with as a number does not depend on the comparison. -/
theorem checkValue_numeric_eq_ok_iff (hm : m.isNumeric = true) :
    checkValue m value = .ok () ↔
      ∃ number threshold, value = some number ∧ finiteNumber? number = some threshold := by
  unfold checkValue
  rw [Matcher.takesValue_of_isNumeric hm]
  cases value with
  | none => simp
  | some number => cases hnumber : finiteNumber? number <;> simp [hm, hnumber]

end Draft

namespace Criterion

/-- How the two forms of a criterion and the four comparisons of a number come out for one visitor,
on a page whose answers do not change.

* A criterion that asks for the opposite of another one is its Kleene negation, whether the page is
  asked once, whatever was asked before, or with patience in a run that nothing disturbs.
* If device data were supplied and no number is recorded under the key, all four comparisons fail.
* If there is one, more is the negation of equal or less, and less that of equal or more.
* More and less never hold both. -/
theorem opposites_negate {v : Visitor} (hpage : v.PageIsFixed) :
    (∀ c c', Opposite c c' →
      (∀ calls calls', (c'.evaluate v calls').1.satisfied =
        (c.evaluate v calls).1.satisfied.negate) ∧
      ∀ p run run', Undisturbed p v (c.examine p v run).2 →
        Undisturbed p v (c'.examine p v run').2 →
        (c'.examine p v run').1.satisfied = (c.examine p v run).1.satisfied.negate) ∧
    ∀ key value mandatory data (t : Matcher → Trigger) calls, v.deviceData = some data →
      (∀ m, m.isNumeric = true →
        (Draft.deviceData key m value mandatory).trigger = .ok (t m)) →
      let truth (m : Matcher) : Kleene := ((t m).criterion.evaluate v calls).1.satisfied
      (Matcher.recorded? data (trim key) = none → ∀ m, m.isNumeric = true → truth m = .no) ∧
      (Matcher.recorded? data (trim key) ≠ none →
        truth .isMoreThan = (truth .isEqualOrLessThan).negate ∧
        truth .isLessThan = (truth .isEqualOrMoreThan).negate) ∧
      ¬(truth .isMoreThan = .yes ∧ truth .isLessThan = .yes) := by
  refine ⟨fun c c' h => ⟨fun calls calls' => ?_, fun p run run' => h.satisfied_examine hpage⟩, ?_⟩
  · rw [evaluate_eq_asked hpage, evaluate_eq_asked hpage]
    exact h.satisfied_asked v
  · intro key value mandatory data t calls hdata hbuilt truth
    -- All four compare with the same number, which is finite.
    obtain ⟨-, hvalue, -⟩ := Draft.deviceData_trigger_eq_ok_iff.1 (hbuilt .isMoreThan rfl)
    obtain ⟨number, threshold, hsome, hnumber⟩ := (Draft.checkValue_numeric_eq_ok_iff rfl).1 hvalue
    have hthreshold : threshold.isFinite = true := (Option.filter_eq_some_iff.1 hnumber).2
    have htruth (m : Matcher) (hm : m.isNumeric = true) :
        truth m = .ofBool ((Matcher.recorded? data (trim key)).any (m.compares · threshold)) := by
      obtain ⟨-, -, ht⟩ := Draft.deviceData_trigger_eq_ok_iff.1 (hbuilt m hm)
      show ((t m).criterion.evaluate v calls).1.satisfied = _
      rw [ht, hsome]
      exact Matcher.satisfied_outcome_of_numeric hm hdata hnumber
    exact Matcher.truths_of_compares (fun _ => Matcher.isFinite_of_recorded?) hthreshold htruth

/-- A customer with twelve seats and an empty cart. -/
def cartVisitor : Visitor :=
  { Visitor.unknown default with
    url := some "site.com/cart"
    page := some (Page.fixed fun _ => .ok (.found true))
    deviceData := some (Table.empty.put "seats" (.text " 12 ")) }

/-- The text that says so is on the page, so its absence does not hold, neither at once nor with
patience. Twelve seats are more than five and not fewer. -/
theorem opposites_negate_cart :
    let shown : Criterion := .textOnPage "#cart" "Empty" true
    let missing : Criterion := .textOnPage "#cart" "Empty" false
    let seats (m : Matcher) : Trigger := .including (.deviceData "seats" m (some "5") true)
    let truth (m : Matcher) : Kleene := ((seats m).criterion.evaluate cartVisitor []).1.satisfied
    let examined (c : Criterion) : Outcome × Run :=
      c.examine promoPolicy cartVisitor (.start false)
    (cartVisitor.PageIsFixed ∧ shown.Opposite missing ∧
      Undisturbed promoPolicy cartVisitor (examined shown).2 ∧
      Undisturbed promoPolicy cartVisitor (examined missing).2 ∧
      (∀ m, m.isNumeric = true →
        (Draft.deviceData " seats " m (some " 5") true).trigger = .ok (seats m))) ∧
    (missing.evaluate cartVisitor []).1.satisfied = .no ∧
    (examined missing).1.satisfied = .no ∧
    truth .isMoreThan = .yes ∧ truth .isEqualOrLessThan = .no := by
  intro shown missing seats truth examined
  have hpage : cartVisitor.PageIsFixed := Visitor.pageIsFixed_of_eq rfl
  have hopposite : shown.Opposite missing := .textOnPage _ _
  have hrun (c : Criterion) (hc : c = shown ∨ c = missing) :
      Undisturbed promoPolicy cartVisitor (examined c).2 := by
    rcases hc with rfl | rfl <;> exact fun _ _ => by decide +kernel
  have hfive : (finiteNumber? "5").isSome = true := by decide +kernel
  obtain ⟨five, hfive⟩ := Option.isSome_iff_exists.1 hfive
  have hbuilt (m : Matcher) (hm : m.isNumeric = true) :
      (Draft.deviceData " seats " m (some " 5") true).trigger = .ok (seats m) :=
    Draft.deviceData_trigger_eq_ok_iff.2
      ⟨by decide, (Draft.checkValue_numeric_eq_ok_iff hm).2 ⟨"5", five, rfl, hfive⟩, rfl⟩
  obtain ⟨hnegate, hnumbers⟩ := opposites_negate hpage
  obtain ⟨honce, hpatient⟩ := hnegate shown missing hopposite
  obtain ⟨-, hsome, -⟩ := hnumbers " seats " (some " 5") true _ seats [] rfl hbuilt
  have hmore : truth .isMoreThan = .yes := by decide +kernel
  refine ⟨⟨hpage, hopposite, hrun _ (.inl rfl), hrun _ (.inr rfl), hbuilt⟩, ?_, ?_, hmore, ?_⟩
  · exact honce [] []
  · exact hpatient _ _ _ (hrun _ (.inl rfl)) (hrun _ (.inr rfl))
  · have hless : truth .isMoreThan = (truth .isEqualOrLessThan).negate :=
      (hsome (by decide +kernel)).1
    rw [← Kleene.negate_negate (truth .isEqualOrLessThan), ← hless, hmore]
    rfl

end Criterion

end SurveyGate

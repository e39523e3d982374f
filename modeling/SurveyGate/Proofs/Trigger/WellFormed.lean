import SurveyGate.Evaluation.Basic
import SurveyGate.Proofs.Text.Trim
import SurveyGate.Trigger.Row

/-!
# `SurveyGate.Proofs.Trigger.WellFormed`: triggers that can be built

A trigger is built of a draft or of a stored row, and may be edited afterwards (`Trigger.Built`).
Both ways go through `Draft.check`, so what holds of the criteria that it lets through holds of every
trigger: their texts are tidy, a share of a page is no more than the whole, and device data are
compared with a value just when the matcher takes one, with a finite number where numbers are
compared (`Criterion.WellFormed`).

`Yields x P` says that whatever `x` succeeds with has the property `P`. Each function on the way has
one lemma of this form, and `check_yields` puts them together, kind by kind. `compile_yields` states
the same of rows.

The evaluation of a criterion relies on this form and has a branch for values that are no numbers.
`built_wellFormed` states that no built trigger takes it.
-/

set_option autoImplicit false

namespace SurveyGate

open SurveyGate.Number SurveyGate.Text

/-! ### Properties of results -/

/-- Whatever a step succeeds with has a property. -/
def Yields {ε α : Type} (x : Except ε α) (P : α → Prop) : Prop := ∀ a, x = .ok a → P a

section
variable {ε α β : Type} {P : α → Prop}

/-- A value that is there is the one in question. -/
theorem yields_ok {a : α} (h : P a) : Yields (.ok a : Except ε α) P := by
  rintro _ ⟨⟩
  exact h

/-- An error yields no value. -/
theorem yields_error (e : ε) : Yields (.error e : Except ε α) P := by
  rintro _ ⟨⟩

/-- Nothing is asked of the value. -/
theorem yields_trivial (x : Except ε α) : Yields x fun _ => True := fun _ _ => trivial

/-- A step and then another one that relies on its result. -/
theorem Yields.bind {x : Except ε β} {f : β → Except ε α} {Q : β → Prop} (hx : Yields x Q)
    (hf : ∀ b, Q b → Yields (f b) P) : Yields (x >>= f) P := by
  intro a ha
  cases h : x with
  | error e =>
    rw [h] at ha
    cases ha
  | ok b =>
    rw [h] at ha
    exact hf b (hx b h) a ha

end

/-! ### Well-formed criteria -/

namespace Criterion

/-- The texts that a criterion stores. A pattern stores the one it was made of. -/
def texts : Criterion → List String
  | .urlContains url => [url]
  | .urlEquals url => [url]
  | .regexMatches pattern => [pattern.source]
  | .deviceData key _ value _ => key :: value.toList
  | .geo country region => country :: region.toList
  | .pseudoEvent event => [event]
  | .previousAnswer _ _ => []
  | .mobilePageview view => [view]
  | .mobileRegexp pattern => [pattern.source]
  | .mobileInstall _ => []
  | .mobileLaunch _ => []
  | .pageScroll _ => []
  | .pageAfterSeconds _ => []
  | .pageIntentExit => []
  | .pageElementVisible selector => [selector]
  | .pageElementClicked selector => [selector]
  | .textOnPage selector text _ => [selector, text]
  | .clientKeyPresence _ => []
  | .visit _ _ => []
  | .pageview _ => []

/-- The value with which device data are compared fits the matcher. -/
structure Fits (m : Matcher) (value : Option String) : Prop where
  taken : value.isSome = m.takesValue
  number : m.isNumeric = true → ∃ v x, value = some v ∧ readDouble? v = some x ∧ x.isFinite = true

/-- What holds of every criterion that was checked. -/
structure WellFormed (c : Criterion) : Prop where
  tidy : ∀ s ∈ c.texts, Tidy s
  percent : ∀ percent, c = .pageScroll percent → percent ≤ 100
  value : ∀ key m value mandatory, c = .deviceData key m value mandatory → Fits m value

/-- Most kinds are well formed when their texts are tidy. -/
theorem wellFormed_of_tidy {c : Criterion} (hscroll : c.kind ≠ .pageScroll)
    (hdata : c.kind ≠ .deviceData) (h : ∀ s ∈ c.texts, Tidy s) : c.WellFormed where
  tidy := h
  percent := by
    rintro _ rfl
    exact absurd rfl hscroll
  value := by
    rintro _ _ _ _ rfl
    exact absurd rfl hdata

/-- Making a criterion optional leaves it well formed. -/
theorem WellFormed.asOptional {c : Criterion} (h : c.WellFormed) : c.asOptional.WellFormed := by
  cases c with
  | deviceData key m value mandatory =>
    refine ⟨h.tidy, by rintro _ ⟨⟩, ?_⟩
    rintro _ _ _ _ ⟨⟩
    exact h.value key m value mandatory rfl
  | _ => exact h

end Criterion

/-! ### Drafts -/

namespace Draft

/-- The kind of a draft. -/
def kind : Draft → Kind
  | .urlContains _ => .urlContains
  | .urlEquals _ => .urlEquals
  | .regexMatches _ => .regexMatches
  | .deviceData .. => .deviceData
  | .geo .. => .geo
  | .pseudoEvent _ => .pseudoEvent
  | .previousAnswer .. => .previousAnswer
  | .mobilePageview _ => .mobilePageview
  | .mobileRegexp _ => .mobileRegexp
  | .mobileInstall _ => .mobileInstall
  | .mobileLaunch _ => .mobileLaunch
  | .pageScroll _ => .pageScroll
  | .pageAfterSeconds _ => .pageAfterSeconds
  | .pageIntentExit => .pageIntentExit
  | .pageElementVisible _ => .pageElementVisible
  | .pageElementClicked _ => .pageElementClicked
  | .textOnPage .. => .textOnPage
  | .clientKeyPresence _ => .clientKeyPresence
  | .visit .. => .visit
  | .pageview _ => .pageview

/-- A required column yields a tidy text. -/
theorem required_yields (k : Kind) (column : Column) (s : String) :
    Yields (required k column s) Tidy := by
  unfold required
  split
  · rename_i t ht
    exact yields_ok (tidy_of_nonBlank? ht)
  · exact yields_error _

/-- A pattern that compiles has a tidy source. -/
theorem pattern_yields (s : String) (limit : Nat) :
    Yields (Pattern.compile s limit) fun p => Tidy p.source := by
  unfold Pattern.compile
  split
  · exact yields_error _
  · rename_i t ht
    split
    · exact yields_ok (tidy_of_nonBlank? ht)
    · exact yields_error _

/-- A percentage is at most a hundred. -/
theorem percentOf_yields (percent : Int) : Yields (percentOf percent) (· ≤ 100) := by
  unfold percentOf
  split
  · refine yields_ok ?_
    rw [UInt8.le_iff_toNat_le, UInt8.toNat_ofNat']
    have h : percent.toNat ≤ 100 := by omega
    have hmod := Nat.mod_le percent.toNat (2 ^ 8)
    show percent.toNat % 2 ^ 8 ≤ 100
    omega
  · exact yields_error _

/-- A value that is let through fits the matcher, once blanks at its ends are left out. -/
theorem checkValue_yields (m : Matcher) {value : Option String} (h : ∀ v ∈ value, Tidy v) :
    Yields (checkValue m value) fun _ => Criterion.Fits m value := by
  unfold checkValue
  cases htakes : m.takesValue with
  | false =>
    -- A matcher that takes no value compares no numbers.
    have hnumeric : m.isNumeric ≠ true := fun hm => by
      rw [Matcher.takesValue_of_isNumeric hm] at htakes
      cases htakes
    cases value with
    | none => exact yields_ok ⟨htakes.symm, fun hm => absurd hm hnumeric⟩
    | some v => exact yields_error _
  | true =>
    cases value with
    | none => exact yields_error _
    | some v =>
      show Yields (if m.isNumeric && (finiteNumber? v).isNone then _ else _) _
      split
      · exact yields_error _
      · rename_i hfinite
        refine yields_ok ⟨htakes.symm, fun hm => ?_⟩
        rw [hm, Bool.true_and, Option.isNone_iff_eq_none, finiteNumber?, (h v rfl).trim_eq] at hfinite
        obtain ⟨x, hx⟩ := Option.ne_none_iff_exists'.1 hfinite
        obtain ⟨hread, hfin⟩ := Option.filter_eq_some_iff.1 hx
        exact ⟨v, x, rfl, hread, hfin⟩

/-- A value that may be missing is tidy where it is there. -/
theorem tidy_of_mem_bind {value : Option String} : ∀ v ∈ value.bind nonBlank?, Tidy v := by
  intro v hv
  obtain ⟨s, -, hs⟩ := Option.bind_eq_some_iff.1 hv
  exact tidy_of_nonBlank? hs

/-- A draft that is let through makes a well-formed criterion of its kind. -/
theorem check_yields (d : Draft) (limit : Nat) :
    Yields (d.check limit) fun c => c.kind = d.kind ∧ c.WellFormed := by
  -- Shares of a page and device data apart, a criterion is well formed when its texts are tidy.
  have plain {c : Criterion} (hscroll : c.kind ≠ .pageScroll) (hdata : c.kind ≠ .deviceData)
      (hkind : c.kind = d.kind) (h : ∀ s ∈ c.texts, Tidy s) :
      Yields (.ok c : Except ValidationError Criterion) fun c => c.kind = d.kind ∧ c.WellFormed :=
    yields_ok ⟨hkind, Criterion.wellFormed_of_tidy hscroll hdata h⟩
  cases d with
  | urlContains _ | urlEquals _ | pseudoEvent _ | mobilePageview _ | pageElementVisible _
  | pageElementClicked _ =>
    exact (required_yields _ _ _).bind fun s hs =>
      plain nofun nofun rfl (List.forall_mem_singleton.2 hs)
  | regexMatches _ | mobileRegexp _ =>
    exact (pattern_yields _ _).bind fun p hp =>
      plain nofun nofun rfl (List.forall_mem_singleton.2 hp)
  | geo country region =>
    refine (required_yields _ _ _).bind fun country hcountry => plain nofun nofun rfl ?_
    exact List.forall_mem_cons.2
      ⟨hcountry, fun v hv => tidy_of_mem_bind v (Option.mem_toList.1 hv)⟩
  | textOnPage selector text presence =>
    refine (required_yields _ _ _).bind fun selector hselector =>
      (required_yields _ _ _).bind fun text htext => plain nofun nofun rfl ?_
    exact List.forall_mem_cons.2 ⟨hselector, List.forall_mem_singleton.2 htext⟩
  | deviceData key m value mandatory =>
    refine (required_yields _ _ _).bind fun key hkey =>
      (checkValue_yields m tidy_of_mem_bind).bind fun _ hfits => yields_ok ⟨rfl, ?_, nofun, ?_⟩
    · exact List.forall_mem_cons.2 ⟨hkey, fun v hv => tidy_of_mem_bind v (Option.mem_toList.1 hv)⟩
    · rintro _ _ _ _ ⟨⟩
      exact hfits
  | pageScroll percent =>
    refine (percentOf_yields percent).bind fun p hp => yields_ok ⟨rfl, nofun, ?_, nofun⟩
    rintro _ ⟨⟩
    exact hp
  | previousAnswer _ _ | mobileInstall _ | mobileLaunch _ | pageAfterSeconds _ | pageIntentExit
  | clientKeyPresence _ | visit _ _ | pageview _ => exact plain nofun nofun rfl nofun

end Draft

/-! ### Rows -/

namespace TriggerRow

/-- The columns of a kind write a draft of that kind. -/
theorem draft_yields (r : TriggerRow) (k : Kind) : Yields (r.draft k) fun d => d.kind = k := by
  cases k with
  | deviceData =>
    exact (yields_trivial _).bind fun _ _ => (yields_trivial _).bind fun _ _ =>
      (yields_trivial _).bind fun _ _ => yields_ok rfl
  | previousAnswer | textOnPage | visit =>
    exact (yields_trivial _).bind fun _ _ => (yields_trivial _).bind fun _ _ => yields_ok rfl
  | pageIntentExit => exact yields_ok rfl
  | _ => exact (yields_trivial _).bind fun _ _ => yields_ok rfl

/-- A row that compiles makes a well-formed trigger of the kind that it names, with its number, and
excluded if the row is. -/
theorem compile_yields (r : TriggerRow) (limit : Nat) :
    Yields (r.compile limit) fun t => Kind.ofText? r.kind = some t.criterion.kind ∧
      t.criterion.WellFormed ∧ t.id = r.id ∧ t.excluded = r.excluded := by
  unfold compile
  cases hkind : Kind.ofText? r.kind with
  | none => exact yields_error _
  | some k =>
    cases hforeign : r.firstForeign? k with
    | some c => simpa only [hforeign] using yields_error _
    | none =>
      simp only [hforeign]
      refine (r.draft_yields k).bind fun d hd => (d.check_yields limit).bind fun c hc => ?_
      exact yields_ok ⟨by rw [hc.1, hd], hc.2, rfl, rfl⟩

end TriggerRow

/-! ### Comparisons with numbers -/

namespace Matcher

variable {m : Matcher} {key value : String} {actual : DeviceValue}

/-- With a threshold that is a number, the outcome depends on whether a number was recorded. -/
theorem judge_of_number {threshold : Double} (hm : m.isNumeric = true)
    (h : readDouble? (trim value) = some threshold) :
    m.judge key actual value =
      match actual.number? with
      | none => .ofBool false s!"device data key '{key}' holds non-numeric {actual.display}"
      | some observed => .ofBool (m.compares observed threshold) (m.comparison key actual value) := by
  unfold judge
  rw [if_pos hm, h]
  cases actual.number? <;> rfl

/-- A text that begins with a character does so with more behind it. -/
theorem head?_append {s t : String} {c : Char} (h : s.toList.head? = some c) :
    (s ++ t).toList.head? = some c := by
  rw [String.toList_append, List.head?_append, h]
  rfl

/-- A comparison begins with a small letter. -/
theorem head?_comparison :
    (m.comparison key actual value).toList.head? = some 'd' := by
  have hstart : (s!"device data '{key}' = {actual.display}, {m.name}").toList.head? = some 'd' :=
    head?_append (head?_append (head?_append (head?_append (head?_append rfl))))
  unfold comparison
  split
  · exact head?_append (head?_append (head?_append hstart))
  · exact hstart

/-- What is said of device data that fit begins with their name, not with a threshold. -/
theorem head?_outcome {value : Option String} (htidy : ∀ v ∈ value, Tidy v)
    (hfits : Criterion.Fits m value) (v : Visitor) :
    (m.outcome key value v).message.toList.head? = some 'd' := by
  unfold outcome
  cases v.deviceData with
  | none => exact (rfl : "device data not supplied".toList.head? = some 'd')
  | some data =>
    cases hget : data.get? key with
    | none =>
      simp only [hget]
      exact head?_append (head?_append rfl)
    | some actual =>
      simp only [hget]
      cases hm : m.isNumeric with
      | false =>
        rw [judge, hm]
        exact head?_comparison
      | true =>
        obtain ⟨w, x, rfl, hx, -⟩ := hfits.number hm
        rw [Option.getD_some, judge_of_number hm (by rw [(htidy w rfl).trim_eq, hx])]
        cases actual.number? with
        | none => exact head?_append (head?_append (head?_append rfl))
        | some observed => exact head?_comparison

end Matcher

/-! ### Triggers -/

namespace Trigger

/-- A trigger that can be built: of a row, of a draft, or by changing one that was built. -/
inductive Built : Trigger → Prop where
  | row {r : TriggerRow} {limit : Nat} {t : Trigger} (compile : r.compile limit = .ok t) : Built t
  | draft {d : Draft} {t : Trigger} (check : d.trigger = .ok t) : Built t
  | edited {t : Trigger} (built : Built t) (e : TriggerEdit) : Built (t.edit e)

variable {t : Trigger}

/-- Whatever is built is well formed. -/
theorem Built.wellFormed (h : t.Built) : t.criterion.WellFormed := by
  induction h with
  | row compile => exact (TriggerRow.compile_yields _ _ _ compile).2.1
  | @draft d t check =>
    have hcheck := d.check_yields Pattern.defaultLimit
    unfold Draft.trigger at check
    cases hd : d.check Pattern.defaultLimit with
    | error e =>
      rw [hd] at check
      cases check
    | ok c =>
      rw [hd] at check
      cases check
      exact (hcheck c hd).2
  | edited _ e ih =>
    cases e with
    | makeOptional => exact ih.asOptional
    | _ => exact ih

/-- Every trigger that can be built is well formed, and what the evaluation relies on holds of it:

- its texts are tidy, a share of a page is no more than the whole, and a value for device data is
  there just when the matcher takes one, a finite number where numbers are compared;
- making it optional changes nothing but whether device data are mandatory;
- device data are never judged by a value that is no number: no message says so of one, and where
  numbers are compared, the outcome is that of the number given and the one recorded. -/
theorem built_wellFormed (h : t.Built) :
    t.criterion.WellFormed ∧
    t.edit .makeOptional = { t with
      criterion := match t.criterion with
        | .deviceData key m value _ => .deviceData key m value false
        | c => c } ∧
    ∀ key m value mandatory, t.criterion = .deviceData key m value mandatory →
      ∀ (v : Visitor) (calls : List PageCall),
        let outcome := (t.criterion.evaluate v calls).1
        (∀ text : String, outcome.message ≠ s!"'{text}' is not numeric") ∧
        (m.isNumeric = true → ∃ number threshold, value = some number ∧
          readDouble? number = some threshold ∧ threshold.isFinite = true ∧
          ∀ data actual, v.deviceData = some data → data.get? key = some actual →
            outcome = match actual.number? with
              | none => .ofBool false s!"device data key '{key}' holds non-numeric {actual.display}"
              | some observed =>
                .ofBool (m.compares observed threshold) (m.comparison key actual number)) := by
  refine ⟨h.wellFormed, ?_, fun key m value mandatory hc v calls => ?_⟩
  · show { t with criterion := t.criterion.asOptional } = _
    cases t.criterion <;> rfl
  · have hform := h.wellFormed
    have hfits := hform.value key m value mandatory hc
    have htidy : ∀ w ∈ value, Tidy w := fun w hw => hform.tidy w (by
      rw [hc]
      exact List.mem_cons_of_mem _ (Option.mem_toList.2 hw))
    have heval : (t.criterion.evaluate v calls).1 = m.outcome key value v := by
      rw [hc]
      rfl
    intro outcome
    refine ⟨fun text htext => ?_, fun hm => ?_⟩
    · -- The one message begins with the quoted value, every other one with `device data`.
      have hd : (m.outcome key value v).message.toList.head? = some 'd' :=
        Matcher.head?_outcome htidy hfits v
      rw [← heval, htext, Matcher.head?_append (Matcher.head?_append rfl)] at hd
      exact absurd hd (by decide)
    · obtain ⟨w, x, rfl, hx, hfinite⟩ := hfits.number hm
      refine ⟨w, x, rfl, hx, hfinite, fun data actual hdata hget => ?_⟩
      show (t.criterion.evaluate v calls).1 = _
      rw [heval, Matcher.outcome, hdata]
      simp only [hget, Option.getD_some]
      exact Matcher.judge_of_number hm (by rw [(htidy w rfl).trim_eq, hx])

/-- A row that asks for seats, with blanks around its texts. -/
def seatsRow : TriggerRow where
  id := none
  kind := "device_data"
  excluded := false
  cell := fun
    | .deviceDataKey => some " seats "
    | .deviceDataMatcher => some "is_more_than"
    | .deviceDataValue => some (.text " 0 ")
    | _ => none

/-- The row is accepted. -/
theorem seatsRow_compile :
    seatsRow.compile 0 = .ok (.including (.deviceData "seats" .isMoreThan (some "0") true)) := rfl

/-- The trigger of the row, made optional and excluded, is well formed. A visitor for whom a truth
value is recorded under the key does not have a number of seats. -/
theorem built_wellFormed_seats :
    let t := ((including (.deviceData "seats" .isMoreThan (some "0") true)).edit
      .makeOptional).edit .exclude
    let v := { Visitor.unknown default with
      deviceData := some (Table.empty.put "seats" (.bool true)) }
    t.Built ∧ t.criterion.WellFormed ∧ (t.criterion.evaluate v []).1 =
      .ofBool false "device data key 'seats' holds non-numeric true" := by
  intro t v
  have hbuilt : t.Built := .edited (.edited (.row seatsRow_compile) _) _
  obtain ⟨hform, -, houtcome⟩ := built_wellFormed hbuilt
  obtain ⟨-, hnumber⟩ := houtcome "seats" .isMoreThan (some "0") false rfl v []
  obtain ⟨_, _, -, -, -, hjudged⟩ := hnumber rfl
  exact ⟨hbuilt, hform, hjudged _ (.bool true) rfl (Table.get?_put_self ..)⟩

end Trigger

end SurveyGate

import SurveyGate.Proofs.Evaluation.Signals

/-!
# `SurveyGate.Proofs.Evaluation.Regions`: locations of which only a part is known

A criterion on the location may ask for a region, which is a state or a market area. With neither of
the two known it stays open. With one of them known it is decided, although the other one might be
the region: a place that is known not to lie in the state asked for counts as a place outside of the
region.

So a decision can be overturned by what is learned of the location, in a single case
(`Location.Reveals`): one of the two is known and is not the region, and the other one turns out to
be it. The outcome is then no before and yes afterwards. In every other case a decided outcome stays
as it is when a state or a market area is supplied (`Criterion.geo_settled`).
-/

set_option autoImplicit false

namespace SurveyGate

open SurveyGate.Text

namespace Location

/-- One location names what another one names, and maybe a state or a market area in addition. -/
structure Completes (l' l : Location) : Prop where
  country : l'.country = l.country
  state : ∀ s, l.state = some s → l'.state = some s
  metroCode : ∀ m, l.metroCode = some m → l'.metroCode = some m

/-- The country of a location has the given name. -/
def InCountry (country : String) (l : Location) : Prop :=
  equalsIgnoringCase (trim l.country) country = true

/-- Whether the state or the market area of a location is a region. -/
def liesIn (region : String) (l : Location) : Bool :=
  isRegion region l.state || isRegion region l.metroCode

/-- The state or the market area of a location is known. -/
def Placed (l : Location) : Prop := l.state.isSome ∨ l.metroCode.isSome

/-- Of the state and the market area one is known and is not the region, and the other one is not
known in the first location and is the region in the second. -/
def Reveals (region : String) (l l' : Location) : Prop :=
  (l.state.isSome ∧ isRegion region l.state = false ∧ l.metroCode = none ∧
    isRegion region l'.metroCode = true) ∨
  (l.metroCode.isSome ∧ isRegion region l.metroCode = false ∧ l.state = none ∧
    isRegion region l'.state = true)

instance (region : String) (l l' : Location) : Decidable (l.Reveals region l') :=
  inferInstanceAs (Decidable (_ ∨ _))

section
variable {country region : String} {l l' : Location}

/-! ### Outcomes -/

/-- Outside of the country nothing else is looked at. -/
theorem outcome_of_not_inCountry (h : ¬ l.InCountry country) (region : Option String) :
    l.outcome country region = .ofBool false s!"visitor country {l.country} is not {country}" := by
  unfold outcome
  exact if_neg h

/-- Without a region the country decides. -/
theorem outcome_of_no_region (h : l.InCountry country) :
    l.outcome country none = .ofBool true s!"visitor located in {country}" := by
  unfold outcome
  exact if_pos h

/-- With a state or a market area, the outcome tells whether one of them is the region. -/
theorem outcome_of_placed (h : l.InCountry country) (hplaced : l.Placed) :
    l.outcome country (some region) =
      .ofBool (l.liesIn region)
        (if l.liesIn region then s!"visitor located in {country} {region}"
        else s!"visitor not located in {country} {region}") := by
  have hopen : (l.state.isNone && l.metroCode.isNone) = false := by
    rcases hplaced with h | h
    · rw [Option.isNone_eq_false_iff.2 h, Bool.false_and]
    · rw [Option.isNone_eq_false_iff.2 h, Bool.and_false]
  have hin : equalsIgnoringCase (trim l.country) country = true := h
  unfold outcome liesIn
  cases hfound : isRegion region l.state || isRegion region l.metroCode with
  | true => simp only [hin, hfound, if_true]
  | false => simp only [hin, hfound, hopen, if_true, Bool.false_eq_true, if_false]

/-- With neither of them a region stays open. -/
theorem outcome_of_not_placed (h : l.InCountry country) (hnot : ¬ l.Placed) :
    l.outcome country (some region) =
      .indeterminate s!"visitor region unknown, expected {region}" := by
  have hin : equalsIgnoringCase (trim l.country) country = true := h
  have hstate : l.state = none := Option.not_isSome_iff_eq_none.1 fun hsome => hnot (.inl hsome)
  have hmetro : l.metroCode = none := Option.not_isSome_iff_eq_none.1 fun hsome => hnot (.inr hsome)
  unfold outcome
  simp only [hin, hstate, hmetro, if_true]
  rfl

/-- An outcome is open just when a region of the country is asked for and nothing is known but the
country. -/
theorem outcome_open_iff {asked : Option String} :
    (l.outcome country asked).satisfied = .indeterminate ↔
      l.InCountry country ∧ asked.isSome = true ∧ l.state = none ∧ l.metroCode = none := by
  have hdecided (b : Bool) : Kleene.ofBool b ≠ .indeterminate := by
    cases b <;> exact Kleene.noConfusion
  by_cases hin : l.InCountry country
  · cases asked with
    | none => simp [outcome_of_no_region hin, Outcome.ofBool, hdecided]
    | some region =>
      by_cases hplaced : l.Placed
      · rw [outcome_of_placed hin hplaced]
        refine ⟨fun hopen => absurd hopen (hdecided _), fun ⟨_, _, hstate, hmetro⟩ => ?_⟩
        rw [Placed, hstate, hmetro] at hplaced
        rcases hplaced with hsome | hsome <;> cases hsome
      · rw [outcome_of_not_placed hin hplaced]
        unfold Placed at hplaced
        rw [not_or, Option.not_isSome_iff_eq_none, Option.not_isSome_iff_eq_none] at hplaced
        exact ⟨fun _ => ⟨hin, rfl, hplaced⟩, fun _ => rfl⟩
  · simp [outcome_of_not_inCountry hin, Outcome.ofBool, hdecided, hin]

/-- Where a region is decided, a state or a market area is known. -/
theorem placed_of_decided (h : l.InCountry country)
    (hdecided : (l.outcome country (some region)).satisfied ≠ .indeterminate) : l.Placed := by
  by_cases hplaced : l.Placed
  · exact hplaced
  · rw [outcome_of_not_placed h hplaced] at hdecided
    exact absurd rfl hdecided

/-! ### What is learned -/

/-- What is learned leaves the country what it is. -/
theorem Completes.inCountry_iff (h : l'.Completes l) :
    l'.InCountry country ↔ l.InCountry country := by
  rw [InCountry, InCountry, h.country]

/-- A state or a market area that is known stays known. -/
theorem Completes.placed (h : l'.Completes l) (hplaced : l.Placed) : l'.Placed := by
  rcases hplaced with hsome | hsome
  · obtain ⟨s, hs⟩ := Option.isSome_iff_exists.1 hsome
    exact .inl (Option.isSome_of_eq_some (h.state s hs))
  · obtain ⟨m, hm⟩ := Option.isSome_iff_exists.1 hsome
    exact .inr (Option.isSome_of_eq_some (h.metroCode m hm))

/-- A name that is the region is kept. -/
theorem isRegion_of_keeps {named named' : Option String}
    (h : ∀ name, named = some name → named' = some name) (hregion : isRegion region named = true) :
    isRegion region named' = true := by
  cases named with
  | none => cases hregion
  | some name => rwa [h name rfl]

/-- What lies in a region does so when more is known of it. -/
theorem Completes.liesIn_of_liesIn (h : l'.Completes l) (hin : l.liesIn region = true) :
    l'.liesIn region = true := by
  rw [liesIn, Bool.or_eq_true] at hin ⊢
  exact hin.imp (isRegion_of_keeps h.state) (isRegion_of_keeps h.metroCode)

/-- A region is revealed when a location turns out to lie in it that was not known to. -/
theorem Completes.reveals_iff (h : l'.Completes l) (hplaced : l.Placed) :
    l.Reveals region l' ↔ l.liesIn region = false ∧ l'.liesIn region = true := by
  have hnone : isRegion region none = false := rfl
  unfold Reveals liesIn
  cases hstate : l.state with
  | some s =>
    rw [h.state s hstate]
    cases hmetro : l.metroCode with
    | some m =>
      -- Nothing is left to learn.
      rw [h.metroCode m hmetro]
      simp
    | none => cases isRegion region (some s) <;> simp [hnone]
  | none =>
    cases hmetro : l.metroCode with
    | some m =>
      rw [h.metroCode m hmetro]
      cases isRegion region (some m) <;> simp [hnone]
    | none =>
      rw [Placed, hstate, hmetro] at hplaced
      rcases hplaced with hsome | hsome <;> cases hsome

/-- A decided outcome is overturned just when the region that it asks for is revealed, and then it
was no and becomes yes. -/
theorem Completes.outcome_ne_iff (h : l'.Completes l) {asked : Option String}
    (hdecided : (l.outcome country asked).satisfied ≠ .indeterminate) :
    (l'.outcome country asked ≠ l.outcome country asked ↔
      l.InCountry country ∧ ∃ region, asked = some region ∧ l.Reveals region l') ∧
    (l'.outcome country asked ≠ l.outcome country asked →
      (l.outcome country asked).satisfied = .no ∧ (l'.outcome country asked).satisfied = .yes) := by
  by_cases hin : l.InCountry country
  · have hin' : l'.InCountry country := h.inCountry_iff.2 hin
    cases asked with
    | none => simp [outcome_of_no_region hin, outcome_of_no_region hin']
    | some region =>
      have hplaced := placed_of_decided hin hdecided
      rw [outcome_of_placed hin hplaced, outcome_of_placed hin' (h.placed hplaced)]
      have hreveals : l.Reveals region l' ↔ l.liesIn region = false ∧ l'.liesIn region = true :=
        h.reveals_iff hplaced
      cases hbefore : l.liesIn region with
      | true =>
        rw [hbefore] at hreveals
        simp [hin, hreveals, h.liesIn_of_liesIn hbefore]
      | false =>
        rw [hbefore] at hreveals
        cases hafter : l'.liesIn region with
        | true =>
          rw [hafter] at hreveals
          simp [hin, hreveals, Outcome.ofBool, Kleene.ofBool]
        | false =>
          rw [hafter] at hreveals
          simp [hin, hreveals]
  · have hin' : ¬ l'.InCountry country := fun h' => hin (h.inCountry_iff.1 h')
    simp [outcome_of_not_inCountry hin, outcome_of_not_inCountry hin', h.country, hin]

end

end Location

/-! ### Visitors at a location -/

/-- The visitor at a location. -/
def Visitor.located (x : Visitor) (l : Location) : Visitor := { x with location := some l }

namespace Criterion

/-- The outcome of a criterion for a visitor at a location. -/
def outcomeAt (c : Criterion) (x : Visitor) (l : Location) (calls : List PageCall) : Outcome :=
  (c.evaluate (x.located l) calls).1

/-- A location whose country is known is looked at as it is. -/
theorem outcomeAt_of_country {country : String} {asked : Option String} {l : Location}
    (hcountry : isBlankText l.country = false) (x : Visitor) (calls : List PageCall) :
    (Criterion.geo country asked).outcomeAt x l calls = l.outcome country asked := by
  have husable : (x.located l).usableLocation? = some l := by
    rw [Visitor.located, Visitor.usableLocation?, Option.filter_some, hcountry]
    rfl
  rw [outcomeAt, evaluate_of_not_needsPage rfl, outcome, husable, Outcome.ofSignal]

/-- What becomes of a decision on the location when a state or a market area is supplied that was
missing.

* It is open only while a region of the visitor's country is asked for and neither a state nor a
  market area is known.
* Once it is decided, the outcome stays as it is, with its message, unless the country is the one asked for, a region is
  asked for, and this region is revealed: one of the two was known and is not the region, and the
  other one is.
* If the outcome changes, it was no and becomes yes. -/
theorem geo_settled (x : Visitor) (country : String) (asked : Option String) {l l' : Location}
    (hcountry : isBlankText l.country = false) (h : l'.Completes l) (calls calls' : List PageCall) :
    let before := (Criterion.geo country asked).outcomeAt x l calls
    let after := (Criterion.geo country asked).outcomeAt x l' calls'
    (before.satisfied = .indeterminate ↔
      l.InCountry country ∧ asked.isSome = true ∧ l.state = none ∧ l.metroCode = none) ∧
    (before.satisfied ≠ .indeterminate →
      (after ≠ before ↔
        l.InCountry country ∧ ∃ region, asked = some region ∧ l.Reveals region l') ∧
      (after ≠ before → before.satisfied = .no ∧ after.satisfied = .yes)) := by
  have hcountry' : isBlankText l'.country = false := h.country ▸ hcountry
  rw [outcomeAt_of_country hcountry, outcomeAt_of_country hcountry']
  exact ⟨Location.outcome_open_iff, h.outcome_ne_iff⟩

/-- A visitor in California is there whatever the market area is called. One in Nevada is not, and
a market area by another name makes no difference. -/
theorem geo_settled_california :
    let c : Criterion := .geo "US" (some "CA")
    let x := Visitor.unknown default
    let inside : Location := ⟨" us ", some "ca", none⟩
    let outside : Location := ⟨"US", some "NV", none⟩
    let named (l : Location) : Location := { l with metroCode := some "839" }
    (isBlankText inside.country = false ∧ isBlankText outside.country = false ∧
      (named inside).Completes inside ∧ (named outside).Completes outside ∧
      (c.outcomeAt x inside []).satisfied = .yes ∧ (c.outcomeAt x outside []).satisfied = .no) ∧
    c.outcomeAt x (named inside) [] = c.outcomeAt x inside [] ∧
    c.outcomeAt x (named outside) [] = c.outcomeAt x outside [] := by
  intro c x inside outside named
  have hnamed (l : Location) (hl : l.metroCode = none) : (named l).Completes l :=
    ⟨rfl, fun _ hs => hs, fun m hm => by rw [hl] at hm; cases hm⟩
  have hinside : (c.outcomeAt x inside []).satisfied = .yes := by decide +kernel
  have houtside : (c.outcomeAt x outside []).satisfied = .no := by decide +kernel
  have hknown : isBlankText inside.country = false := by decide +kernel
  have hknown' : isBlankText outside.country = false := by decide +kernel
  obtain ⟨-, hsettled⟩ := geo_settled x "US" (some "CA") hknown (hnamed inside rfl) [] []
  obtain ⟨-, hchanged⟩ := hsettled (by rw [hinside]; exact Kleene.noConfusion)
  obtain ⟨-, hsettled'⟩ := geo_settled x "US" (some "CA") hknown' (hnamed outside rfl) [] []
  obtain ⟨hchanged', -⟩ := hsettled' (by rw [houtside]; exact Kleene.noConfusion)
  refine ⟨⟨hknown, hknown', hnamed inside rfl, hnamed outside rfl, hinside, houtside⟩, ?_, ?_⟩
  · -- What changes was no before.
    refine Decidable.byContradiction fun hne => ?_
    have hno := (hchanged hne).1
    rw [hinside] at hno
    cases hno
  · -- Market area 839 is not the region.
    refine Decidable.byContradiction fun hne => ?_
    obtain ⟨-, region, hregion, hreveals⟩ := hchanged'.1 hne
    obtain rfl := Option.some.inj hregion
    have hnot : ¬ outside.Reveals "CA" (named outside) := by decide +kernel
    exact hnot hreveals

/-- A visitor in New York counts as outside of the region, although the market area is not known. The
market area that is supplied then is the region. -/
theorem geo_region_revealed :
    let c : Criterion := .geo "US" (some "CA")
    let x := Visitor.unknown default
    let l : Location := ⟨"US", some "NY", none⟩
    let l' : Location := { l with metroCode := some "CA" }
    isBlankText l.country = false ∧ l'.Completes l ∧
      (c.outcomeAt x l []).satisfied = .no ∧ (c.outcomeAt x l' []).satisfied = .yes := by
  intro c x l l'
  have hcompletes : l'.Completes l := ⟨rfl, fun _ hs => hs, nofun⟩
  exact ⟨by decide +kernel, hcompletes, by decide +kernel, by decide +kernel⟩

end Criterion

end SurveyGate

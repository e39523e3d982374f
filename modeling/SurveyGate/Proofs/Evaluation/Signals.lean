import SurveyGate.Evaluation.Basic

/-!
# `SurveyGate.Proofs.Evaluation.Signals`: what a criterion looks at

A visitor supplies some of fifteen signals (`Visitor.signal?`), and each criterion looks at one or
two of them (`Criterion.signals`). Of device data it sees whether there are any and the entry under
its own key, of earlier answers whether there are any and the answer in its own survey. Two visitors
who agree on that much (`Criterion.SeesSame`) cannot be told apart by the criterion: it comes out
the same way, with the same message and the same calls to the page (`Criterion.evaluate_congr`).

Of a visitor's device, its type and the instant of the request no criterion sees anything.
`Criterion.confined_to_signals` says at once what a criterion may depend on, what none depends on,
and which ones leave the page alone.
-/

set_option autoImplicit false

namespace SurveyGate

/-! ### Signals -/

/-- A signal that some criterion looks at. -/
inductive Signal where
  | url
  | pageviews
  | visits
  | daysInstalled
  | launches
  | deviceData
  | location
  | clientKeyPresent
  | previousAnswers
  | secondsOnPage
  | scrollPercent
  | exitIntent
  | view
  | event
  | page
  deriving DecidableEq, Repr

/-- What a signal holds where it is supplied. -/
def Signal.Value : Signal → Type
  | .url => String
  | .pageviews => UInt32
  | .visits => UInt32
  | .daysInstalled => UInt32
  | .launches => UInt32
  | .deviceData => Table String DeviceValue
  | .location => Location
  | .clientKeyPresent => Bool
  | .previousAnswers => Table SurveyId AnswerId
  | .secondsOnPage => UInt32
  | .scrollPercent => UInt8
  | .exitIntent => Bool
  | .view => String
  | .event => String
  | .page => Page

/-- A signal of a visitor, if it is supplied. -/
def Visitor.signal? (v : Visitor) : (s : Signal) → Option s.Value
  | .url => v.url
  | .pageviews => v.pageviews
  | .visits => v.visits
  | .daysInstalled => v.daysInstalled
  | .launches => v.launches
  | .deviceData => v.deviceData
  | .location => v.location
  | .clientKeyPresent => v.clientKeyPresent
  | .previousAnswers => v.previousAnswers
  | .secondsOnPage => v.secondsOnPage
  | .scrollPercent => v.scrollPercent
  | .exitIntent => v.exitIntent
  | .view => v.view
  | .event => v.event
  | .page => v.page

namespace Criterion

/-- The signals that a criterion looks at. A visit of anyone needs none. -/
def signals : Criterion → List Signal
  | .urlContains _ => [.url]
  | .urlEquals _ => [.url]
  | .regexMatches _ => [.url]
  | .deviceData .. => [.deviceData]
  | .geo .. => [.location]
  | .pseudoEvent _ => [.event]
  | .previousAnswer .. => [.previousAnswers]
  | .mobilePageview _ => [.view]
  | .mobileRegexp _ => [.view]
  | .mobileInstall _ => [.daysInstalled]
  | .mobileLaunch _ => [.launches]
  | .pageScroll _ => [.scrollPercent]
  | .pageAfterSeconds _ => [.secondsOnPage]
  | .pageIntentExit => [.exitIntent]
  | .pageElementVisible _ => [.url, .page]
  | .pageElementClicked _ => [.url, .page]
  | .textOnPage .. => [.url, .page]
  | .clientKeyPresence _ => [.clientKeyPresent]
  | .visit .all _ => []
  | .visit .new _ => [.visits]
  | .visit .returning _ => [.visits]
  | .pageview _ => [.pageviews]

/-- Two visitors agree on what a criterion looks at. A table is looked at in one entry only. -/
def SeesSame (c : Criterion) (v w : Visitor) : Prop :=
  match c with
  | .deviceData key .. => v.deviceData.map (·.get? key) = w.deviceData.map (·.get? key)
  | .previousAnswer survey _ =>
    v.previousAnswers.map (·.get? survey) = w.previousAnswers.map (·.get? survey)
  | other => ∀ s ∈ other.signals, v.signal? s = w.signal? s

/-- Visitors with the same signals agree on what a criterion looks at. -/
theorem seesSame_of_signals {c : Criterion} {v w : Visitor}
    (h : ∀ s ∈ c.signals, v.signal? s = w.signal? s) : c.SeesSame v w := by
  cases c with
  | deviceData key _ _ _ =>
    have hdata : v.deviceData = w.deviceData := h .deviceData (List.mem_singleton_self _)
    exact congrArg (Option.map (·.get? key)) hdata
  | previousAnswer survey _ =>
    have hanswers : v.previousAnswers = w.previousAnswers :=
      h .previousAnswers (List.mem_singleton_self _)
    exact congrArg (Option.map (·.get? survey)) hanswers
  | _ => exact h

end Criterion

/-! ### Outcomes of equal signals -/

/-- Looking at a part of a signal is looking at that part as a signal of its own. -/
theorem Outcome.ofSignal_map {α β : Type} (signal : Option α) (part : α → β) (missing : String)
    (judge : β → Outcome) :
    Outcome.ofSignal (signal.map part) missing judge =
      Outcome.ofSignal signal missing fun a => judge (part a) := by
  cases signal <;> rfl

/-- What the entry of a device under a key means for a matcher. -/
def Matcher.ofEntry (m : Matcher) (key : String) (expected : Option String) :
    Option DeviceValue → Outcome
  | none => .ofBool m.isNegative s!"device data key '{key}' not present"
  | some actual => m.judge key actual (expected.getD "")

/-- Device data are looked at in a single entry. -/
theorem Matcher.outcome_eq_ofEntry (m : Matcher) (key : String) (expected : Option String)
    (v : Visitor) :
    m.outcome key expected v =
      .ofSignal (v.deviceData.map (·.get? key)) "device data not supplied"
        (m.ofEntry key expected) := by
  unfold Matcher.outcome
  cases v.deviceData with
  | none => rfl
  | some data =>
    cases hentry : data.get? key with
    | none | some => simp only [Option.map_some, Outcome.ofSignal, hentry, ofEntry]

/-- An audience is told by the visits alone. -/
theorem Audience.outcome_congr {v w : Visitor} (a : Audience) (visits : UInt32)
    (h : ∀ s ∈ (Criterion.visit a visits).signals, v.signal? s = w.signal? s) :
    a.outcome visits v = a.outcome visits w := by
  cases a with
  | all => rfl
  | new | returning =>
    have hvisits : v.visits = w.visits := h .visits (List.mem_singleton_self _)
    simp only [Audience.outcome, hvisits]

namespace Criterion

section
variable {v w : Visitor}

/-- The outcome of a criterion depends on its signals alone. -/
theorem outcome_congr {c : Criterion} (h : c.SeesSame v w) : c.outcome v = c.outcome w := by
  cases c with
  | deviceData key matcher value _ =>
    have hentry : v.deviceData.map (·.get? key) = w.deviceData.map (·.get? key) := h
    simp only [outcome, Matcher.outcome_eq_ofEntry, hentry]
  | previousAnswer survey answer =>
    have hentry : v.previousAnswers.map (·.get? survey) = w.previousAnswers.map (·.get? survey) := h
    simp only [outcome, ← Outcome.ofSignal_map _ (fun t => Table.get? t survey), hentry]
  | visit audience visits => exact audience.outcome_congr visits h
  | urlContains | urlEquals | regexMatches =>
    have hurl : v.url = w.url := h .url (List.mem_singleton_self _)
    simp only [outcome, Visitor.strippedUrl?, Visitor.usableUrl?, hurl]
  | pageElementVisible | pageElementClicked | textOnPage =>
    have hurl : v.url = w.url := h .url List.mem_cons_self
    simp only [outcome, withoutPage, Visitor.usableUrl?, hurl]
  | geo =>
    have hlocation : v.location = w.location := h .location (List.mem_singleton_self _)
    simp only [outcome, Visitor.usableLocation?, hlocation]
  | _ =>
    -- The others look at one signal, and at that as it is.
    have hsignal := h _ (List.mem_singleton_self _)
    simp only [Visitor.signal?] at hsignal
    simp only [outcome, hsignal]

/-- A criterion that is not about a page is decided without asking one. -/
theorem evaluate_of_not_needsPage {c : Criterion} (h : c.kind.needsPage = false) (v : Visitor)
    (calls : List PageCall) : c.evaluate v calls = (c.outcome v, calls) := by
  cases c with
  | pageElementVisible | pageElementClicked | textOnPage => cases h
  | _ => rfl

/-- Visitors between whom a criterion about a page sees no difference are on the same page. -/
theorem url_page_of_seesSame {c : Criterion} (h : c.kind.needsPage = true)
    (hsame : c.SeesSame v w) : v.url = w.url ∧ v.page = w.page := by
  cases c with
  | pageElementVisible | pageElementClicked | textOnPage =>
    exact ⟨hsame .url List.mem_cons_self, hsame .page (List.mem_cons_of_mem _ List.mem_cons_self)⟩
  | _ => cases h

/-- A criterion cannot tell apart two visitors who agree on what it looks at, neither by its outcome
nor by what it asks of the page. -/
theorem evaluate_congr {c : Criterion} (h : c.SeesSame v w) : c.evaluate v = c.evaluate w := by
  have houtcome := outcome_congr h
  cases hneeds : c.kind.needsPage with
  | false =>
    funext calls
    rw [evaluate_of_not_needsPage hneeds, evaluate_of_not_needsPage hneeds, houtcome]
  | true =>
    obtain ⟨hurl, hpage⟩ := url_page_of_seesSame hneeds h
    simp only [evaluate, Visitor.usableUrl?, hurl, hpage, houtcome]

end

/-- What a criterion may depend on.

* Visitors who agree on what it looks at get the same outcome with the same message, and the page
  gets the same calls.
* The device of the visitor, its type and the instant of the request make no difference to any
  criterion.
* A criterion that is not about a page calls no page. -/
theorem confined_to_signals (c : Criterion) (v : Visitor) :
    (∀ w, c.SeesSame v w → c.evaluate v = c.evaluate w) ∧
    (∀ device deviceType now, c.evaluate { v with device, deviceType, now } = c.evaluate v) ∧
    (c.kind.needsPage = false → ∀ calls, (c.evaluate v calls).2 = calls) := by
  refine ⟨fun w h => evaluate_congr h, fun device deviceType now => ?_, fun h calls => ?_⟩
  · have hsame : Criterion.SeesSame c { v with device, deviceType, now } v :=
      seesSame_of_signals fun s _ => by cases s <;> rfl
    exact evaluate_congr hsame
  · rw [evaluate_of_not_needsPage h]

end Criterion

/-! ### Two visitors on the same plan -/

/-- A customer on the plan that costs most, who reads in the dark. -/
def darkVisitor : Visitor :=
  { Visitor.unknown default with
    url := some "site.com"
    visits := some 3
    deviceData := some (.ofList [("plan", .text "team"), ("theme", .text "dark")]) }

/-- A customer on the same plan, on a page that answers, who reads in daylight. -/
def lightVisitor : Visitor :=
  { Visitor.unknown default with
    url := some "other.com"
    page := some (Page.fixed fun _ => .ok (.found true))
    deviceData := some (.ofList [("theme", .text "light"), ("plan", .text "team")]) }

/-- A criterion on the plan cannot tell the two apart, although hardly a signal is the same. -/
theorem confined_to_signals_plan :
    let c : Criterion := .deviceData "plan" .is (some "team") true
    (c.SeesSame darkVisitor lightVisitor ∧ c.kind.needsPage = false) ∧
    darkVisitor.deviceData.map (·.get? "theme") ≠ lightVisitor.deviceData.map (·.get? "theme") ∧
    c.evaluate darkVisitor = c.evaluate lightVisitor ∧
    (∀ calls, (c.evaluate lightVisitor calls).2 = calls) := by
  intro c
  have hsame : c.SeesSame darkVisitor lightVisitor := by
    show darkVisitor.deviceData.map _ = lightVisitor.deviceData.map _
    decide
  exact ⟨⟨hsame, rfl⟩, by decide,
    (Criterion.confined_to_signals c darkVisitor).1 lightVisitor hsame,
    (Criterion.confined_to_signals c lightVisitor).2.2 rfl⟩

end SurveyGate

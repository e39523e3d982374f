import SurveyGate.Text.Blank

/-!
# `SurveyGate.Trigger.Kind`: kinds of triggers and the columns of a row

A stored trigger is a row of one table that all kinds share. `Kind` lists the kinds with the two
names under which a row may state its kind, `Column` the columns that belong to some kind, and
`Kind.columns` says which columns belong to which kind.
-/

set_option autoImplicit false

namespace SurveyGate

/-- The kinds of triggers. -/
inductive Kind where
  /-- The URL contains a fragment. -/
  | urlContains
  /-- The URL equals another one. -/
  | urlEquals
  /-- The URL matches a pattern. -/
  | regexMatches
  /-- A value recorded for the device compares as asked. -/
  | deviceData
  /-- The visitor is in a country or a region of it. -/
  | geo
  /-- A named event fired. -/
  | pseudoEvent
  /-- An answer was chosen in an earlier survey. -/
  | previousAnswer
  /-- The name of the mobile view contains a fragment. -/
  | mobilePageview
  /-- The name of the mobile view matches a pattern. -/
  | mobileRegexp
  /-- The app has been installed for some days. -/
  | mobileInstall
  /-- The app has been launched some times. -/
  | mobileLaunch
  /-- A share of the page has been scrolled. -/
  | pageScroll
  /-- Some seconds were spent on the page. -/
  | pageAfterSeconds
  /-- The visitor is about to leave. -/
  | pageIntentExit
  /-- An element of the page is visible. -/
  | pageElementVisible
  /-- An element of the page can be clicked. -/
  | pageElementClicked
  /-- An element of the page holds a text or lacks it. -/
  | textOnPage
  /-- A client key is present or absent. -/
  | clientKeyPresence
  /-- The visitor is new or returning. -/
  | visit
  /-- The visitor has seen some pages. -/
  | pageview
  deriving DecidableEq, Repr, Inhabited

/-- The columns of a row that belong to one kind, in the order of the table. -/
inductive Column where
  | url
  | urlMatches
  | regexp
  | deviceDataKey
  | deviceDataMatcher
  | deviceDataValue
  | deviceDataMandatory
  | geoCountry
  | geoStateOrDma
  | pseudoEvent
  | previousAnsweredSurveyId
  | previousPossibleAnswerId
  | mobilePageview
  | mobileRegexp
  | mobileDaysInstalled
  | mobileLaunchTimes
  | renderAfterXPercentScroll
  | renderAfterXSeconds
  | renderAfterElementVisible
  | renderAfterElementClicked
  | textOnPageSelector
  | textOnPageValue
  | textOnPagePresence
  | clientKeyPresence
  | visitorType
  | visitsCount
  | pageviewsCount
  deriving DecidableEq, Repr, Inhabited

namespace Column

/-- The name of a column. -/
def name : Column → String
  | .url => "url"
  | .urlMatches => "url_matches"
  | .regexp => "regexp"
  | .deviceDataKey => "device_data_key"
  | .deviceDataMatcher => "device_data_matcher"
  | .deviceDataValue => "device_data_value"
  | .deviceDataMandatory => "device_data_mandatory"
  | .geoCountry => "geo_country"
  | .geoStateOrDma => "geo_state_or_dma"
  | .pseudoEvent => "pseudo_event"
  | .previousAnsweredSurveyId => "previous_answered_survey_id"
  | .previousPossibleAnswerId => "previous_possible_answer_id"
  | .mobilePageview => "mobile_pageview"
  | .mobileRegexp => "mobile_regexp"
  | .mobileDaysInstalled => "mobile_days_installed"
  | .mobileLaunchTimes => "mobile_launch_times"
  | .renderAfterXPercentScroll => "render_after_x_percent_scroll"
  | .renderAfterXSeconds => "render_after_x_seconds"
  | .renderAfterElementVisible => "render_after_element_visible"
  | .renderAfterElementClicked => "render_after_element_clicked"
  | .textOnPageSelector => "text_on_page_selector"
  | .textOnPageValue => "text_on_page_value"
  | .textOnPagePresence => "text_on_page_presence"
  | .clientKeyPresence => "client_key_presence"
  | .visitorType => "visitor_type"
  | .visitsCount => "visits_count"
  | .pageviewsCount => "pageviews_count"

/-- Every column, in the order of the table. -/
def all : List Column := [
  .url, .urlMatches, .regexp, .deviceDataKey, .deviceDataMatcher, .deviceDataValue,
  .deviceDataMandatory, .geoCountry, .geoStateOrDma, .pseudoEvent,
  .previousAnsweredSurveyId, .previousPossibleAnswerId, .mobilePageview, .mobileRegexp,
  .mobileDaysInstalled, .mobileLaunchTimes, .renderAfterXPercentScroll,
  .renderAfterXSeconds, .renderAfterElementVisible, .renderAfterElementClicked,
  .textOnPageSelector, .textOnPageValue, .textOnPagePresence, .clientKeyPresence,
  .visitorType, .visitsCount, .pageviewsCount]

/-- Every column is among all of them. -/
theorem mem_all (c : Column) : c ∈ all := by cases c <;> decide

end Column

namespace Kind

/-- The name of a kind. -/
def name : Kind → String
  | .urlContains => "url_contains"
  | .urlEquals => "url_equals"
  | .regexMatches => "regex_matches"
  | .deviceData => "device_data"
  | .geo => "geo"
  | .pseudoEvent => "pseudo_event"
  | .previousAnswer => "previous_answer"
  | .mobilePageview => "mobile_pageview"
  | .mobileRegexp => "mobile_regexp"
  | .mobileInstall => "mobile_install"
  | .mobileLaunch => "mobile_launch"
  | .pageScroll => "page_scroll"
  | .pageAfterSeconds => "page_after_seconds"
  | .pageIntentExit => "page_intent_exit"
  | .pageElementVisible => "page_element_visible"
  | .pageElementClicked => "page_element_clicked"
  | .textOnPage => "text_on_page"
  | .clientKeyPresence => "client_key_presence"
  | .visit => "visit"
  | .pageview => "pageview"

/-- The older name of a kind. -/
def legacyName : Kind → String
  | .urlContains => "UrlTrigger"
  | .urlEquals => "UrlMatchesTrigger"
  | .regexMatches => "RegexpTrigger"
  | .deviceData => "DeviceDataTrigger"
  | .geo => "GeoTrigger"
  | .pseudoEvent => "PseudoEventTrigger"
  | .previousAnswer => "PreviousAnswerTrigger"
  | .mobilePageview => "MobilePageviewTrigger"
  | .mobileRegexp => "MobileRegexpTrigger"
  | .mobileInstall => "MobileInstallTrigger"
  | .mobileLaunch => "MobileLaunchTrigger"
  | .pageScroll => "PageScrollTrigger"
  | .pageAfterSeconds => "PageAfterSecondsTrigger"
  | .pageIntentExit => "PageIntentExitTrigger"
  | .pageElementVisible => "PageElementVisibleTrigger"
  | .pageElementClicked => "PageElementClickedTrigger"
  | .textOnPage => "TextOnPageTrigger"
  | .clientKeyPresence => "ClientKeyTrigger"
  | .visit => "VisitTrigger"
  | .pageview => "PageviewTrigger"

/-- Every kind. -/
def all : List Kind := [
  .urlContains, .urlEquals, .regexMatches, .deviceData, .geo, .pseudoEvent, .previousAnswer,
  .mobilePageview, .mobileRegexp, .mobileInstall, .mobileLaunch, .pageScroll,
  .pageAfterSeconds, .pageIntentExit, .pageElementVisible, .pageElementClicked, .textOnPage,
  .clientKeyPresence, .visit, .pageview]

/-- Every kind is among all of them. -/
theorem mem_all (k : Kind) : k ∈ all := by cases k <;> decide

/-- The kind that a text names, blanks around it left out. -/
def ofText? (s : String) : Option Kind :=
  let wanted := Text.trim s
  all.find? fun k => k.name == wanted || k.legacyName == wanted

/-- The columns that belong to a kind. -/
def columns : Kind → List Column
  | .urlContains => [.url]
  | .urlEquals => [.urlMatches]
  | .regexMatches => [.regexp]
  | .deviceData => [.deviceDataKey, .deviceDataMatcher, .deviceDataValue, .deviceDataMandatory]
  | .geo => [.geoCountry, .geoStateOrDma]
  | .pseudoEvent => [.pseudoEvent]
  | .previousAnswer => [.previousAnsweredSurveyId, .previousPossibleAnswerId]
  | .mobilePageview => [.mobilePageview]
  | .mobileRegexp => [.mobileRegexp]
  | .mobileInstall => [.mobileDaysInstalled]
  | .mobileLaunch => [.mobileLaunchTimes]
  | .pageScroll => [.renderAfterXPercentScroll]
  | .pageAfterSeconds => [.renderAfterXSeconds]
  | .pageIntentExit => []
  | .pageElementVisible => [.renderAfterElementVisible]
  | .pageElementClicked => [.renderAfterElementClicked]
  | .textOnPage => [.textOnPageSelector, .textOnPageValue, .textOnPagePresence]
  | .clientKeyPresence => [.clientKeyPresence]
  | .visit => [.visitorType, .visitsCount]
  | .pageview => [.pageviewsCount]

/-- Kinds that only a live page can decide. -/
def needsPage : Kind → Bool
  | .pageElementVisible => true
  | .pageElementClicked => true
  | .textOnPage => true
  | _ => false

/-- Kinds that look at the URL of the visitor. -/
def needsUrl : Kind → Bool
  | .urlContains => true
  | .urlEquals => true
  | .regexMatches => true
  | _ => false

end Kind

end SurveyGate

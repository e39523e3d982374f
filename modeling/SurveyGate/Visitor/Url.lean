import SurveyGate.Text.Blank
import SurveyGate.Text.Search

/-!
# `SurveyGate.Visitor.Url`: URLs without their scheme

URLs are compared without the blanks around them and without the scheme in front. `exactForm` leaves
out a slash at the end as well.
-/

set_option autoImplicit false

namespace SurveyGate.Url

open SurveyGate.Text

/-- The characters after a scheme that stands in front in any case. -/
def dropScheme? (scheme : List Char) (cs : List Char) : Option (List Char) :=
  if (cs.take scheme.length).map Char.toLower = scheme then some (cs.drop scheme.length) else none

/-- The characters without blanks around them and without the scheme that then stands in front. -/
def stripChars (cs : List Char) : List Char :=
  let cs := trimChars cs
  ((dropScheme? "https://".toList cs).or (dropScheme? "http://".toList cs)).getD cs

/-- The URL without blanks around it and without its scheme. -/
def stripScheme (url : String) : String := .ofList (stripChars url.toList)

/-- The form in which a part of a URL is looked for. -/
def fragmentForm (url : String) : String := stripScheme url

/-- The characters without a slash at the end. -/
def dropSlash (cs : List Char) : List Char :=
  if cs.getLast? = some '/' then cs.dropLast else cs

/-- The form in which whole URLs are compared. One slash at the end is left out. -/
def exactForm (url : String) : String := .ofList (dropSlash (stripChars url.toList))

end SurveyGate.Url

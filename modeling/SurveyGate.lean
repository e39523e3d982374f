import SurveyGate.Config
import SurveyGate.Decision.Report
import SurveyGate.History.Codec
import SurveyGate.Json.Printer
import SurveyGate.Trigger.Codec
import SurveyGate.Visitor.Codec
import SurveyGate.Proofs.Time.Clock
import SurveyGate.Proofs.Decision.Plan
import SurveyGate.Proofs.Decision.Term
import SurveyGate.Proofs.Decision.Asking
import SurveyGate.Proofs.Decision.Specification
import SurveyGate.Proofs.Decision.Probing
import SurveyGate.Proofs.Decision.Report
import SurveyGate.Proofs.Decision.TriggerOrder
import SurveyGate.Proofs.History.Ordered
import SurveyGate.Proofs.Store.Entries
import SurveyGate.Proofs.Store.Traffic
import SurveyGate.Proofs.History.Recording
import SurveyGate.Proofs.Store.Quota
import SurveyGate.Proofs.Store.Serving
import SurveyGate.Proofs.Decision.Gate
import SurveyGate.Proofs.Decision.Outage
import SurveyGate.Proofs.Store.Writes
import SurveyGate.Proofs.Store.Waiting
import SurveyGate.Proofs.Store.Ledger
import SurveyGate.Proofs.Store.AccountLog
import SurveyGate.Proofs.Store.Retention
import SurveyGate.Proofs.Store.Refiring
import SurveyGate.Proofs.Decision.Answers
import SurveyGate.Proofs.Store.Isolation
import SurveyGate.Proofs.Decision.Outline
import SurveyGate.Proofs.Text.Trim
import SurveyGate.Proofs.Store.Loading
import SurveyGate.Proofs.Trigger.WellFormed
import SurveyGate.Proofs.Trigger.Columns
import SurveyGate.Proofs.Decision.Ending
import SurveyGate.Proofs.Decision.Questions
import SurveyGate.Proofs.Evaluation.Signals
import SurveyGate.Proofs.Evaluation.Supplying
import SurveyGate.Proofs.Store.Spending
import SurveyGate.Proofs.Survey.Validated
import SurveyGate.Proofs.Survey.Reopening
import SurveyGate.Proofs.History.Decay
import SurveyGate.Proofs.Decision.Patience
import SurveyGate.Proofs.Trigger.Defaults
import SurveyGate.Proofs.Text.Digits
import SurveyGate.Proofs.Time.Calendar
import SurveyGate.Proofs.Time.Rfc3339
import SurveyGate.Proofs.Json.Decode
import SurveyGate.Proofs.Survey.Codec
import SurveyGate.Proofs.History.Memory
import SurveyGate.Proofs.Visitor.Url
import SurveyGate.Proofs.Evaluation.Urls
import SurveyGate.Proofs.Evaluation.Regions
import SurveyGate.Proofs.Evaluation.Opposites
import SurveyGate.Proofs.Decision.Calls
import SurveyGate.Proofs.Survey.Building
import SurveyGate.Proofs.Decision.Grouping

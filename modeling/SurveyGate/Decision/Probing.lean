import SurveyGate.Evaluation.Basic

/-!
# `SurveyGate.Decision.Probing`: asking a page under a deadline

A diagnosis asks the page with patience: a question about what is visible is put again while the page
has not settled, up to a number of attempts and with a pause between them. All calls of a run share
one deadline, and the run may be cancelled. Once it is over, nothing more is asked.

A run finds out that it is over by looking: before each attempt, at both ends of a pause, and while it
waits for a call. Its caller may cancel it at any moment between two looks, so also while a call is in
flight that still ends with an answer. That answer is used, and only the next look finds the run
cancelled. In the same way the calls that end may use up the time, each of them as long as it likes.
-/

set_option autoImplicit false

namespace SurveyGate

/-- How patiently a page is asked. -/
structure ProbePolicy where
  maxAttempts : UInt32
  /-- The pause between attempts in milliseconds. -/
  retryInterval : UInt64
  /-- The time that all calls of a run have together in milliseconds. -/
  overallTimeout : UInt64
  deriving DecidableEq, Repr

/-- The state of a run. -/
structure Run where
  /-- The calls made so far, first one first. -/
  calls : List PageCall
  /-- The milliseconds that have passed in pauses and in calls that do not end. -/
  elapsed : Nat
  /-- How often the run has looked whether it is over. -/
  looks : Nat
  /-- The first look that finds the run cancelled, if its caller cancels it. -/
  cancelledFrom : Option Nat
  /-- The first look that comes behind the deadline, if the calls that end take so long. -/
  lateFrom : Option Nat
  deriving DecidableEq, Repr

namespace Run

/-- The start of a run that may be cancelled already. -/
def start (cancelled : Bool) : Run := ⟨[], 0, 0, if cancelled then some 0 else none, none⟩

/-- Whether the next look finds the run cancelled. -/
def cancelled (r : Run) : Bool := r.cancelledFrom.any (· ≤ r.looks)

/-- Whether the calls that have ended took all the time, as the next look finds. -/
def late (r : Run) : Bool := r.lateFrom.any (· ≤ r.looks)

/-- The run after a look. -/
def looked (r : Run) : Run := { r with looks := r.looks + 1 }

end Run

/-- What is done during a run. -/
abbrev Running := StateM Run

namespace ProbePolicy

/-- The error of a run whose time is over. -/
def timeoutError (p : ProbePolicy) : ExecutionError := .timeout p.overallTimeout.toNat

/-- Why a run is over, if it is. -/
def over? (p : ProbePolicy) (r : Run) : Option ExecutionError :=
  if r.cancelled then some .cancelled
  else if r.late ∨ p.overallTimeout.toNat ≤ r.elapsed then some p.timeoutError
  else none

/-- Looks why the run is over, if it is. -/
def look (p : ProbePolicy) : Running (Option ExecutionError) := fun r => (p.over? r, r.looked)

/-- Lets time pass, at most until the deadline. -/
def wait (p : ProbePolicy) (milliseconds : Nat) (r : Run) : Run :=
  { r with elapsed := min (r.elapsed + milliseconds) p.overallTimeout.toNat }

/-- Pauses between two attempts; the error is that of a run that is over before the pause or by its
end. -/
def pause (p : ProbePolicy) : Running (Option ExecutionError) := fun r =>
  match p.over? r with
  | some e => (some e, r.looked)
  | none => p.look (p.wait p.retryInterval.toNat r.looked)

/-- The run after a call. One that hangs takes all the time there is. -/
def after (p : ProbePolicy) (reply : Reply) (r : Run) : Run :=
  match reply with
  | .hung => p.wait p.overallTimeout.toNat r
  | .cancelled => { r with cancelledFrom := some r.looks }
  | _ => r

/-- Waits for the end of a call. A call that does not end is given up by a look that finds the run
over, with the reason. -/
def await (p : ProbePolicy) (reply : Reply) : Running (Except ExecutionError Observation) := fun r =>
  match reply with
  | .answered answer => (answer, r)
  | .died => (.error .unanswered, r)
  | _ =>
    let ended := p.after reply r
    (.error ((p.over? ended).getD p.timeoutError), ended.looked)

/-- Puts a call to a page once, unless the run is over. -/
def attempt (p : ProbePolicy) (page : Page) (call : PageCall) :
    Running (Except ExecutionError Observation) := fun r =>
  match p.over? r with
  | some e => (.error e, r.looked)
  | none => p.await (page r.calls call) { r.looked with calls := r.calls ++ [call] }

/-- How many times a question is put at most. -/
def attempts (p : ProbePolicy) (probe : Probe) : Nat :=
  if probe.isRepeated then max 1 p.maxAttempts.toNat else 1

end ProbePolicy

/-- The error of a question that the page did not settle. -/
def unsettled (probe : Probe) (attempts : Nat) : ExecutionError :=
  .page s!"{probe.display} did not settle after {attempts} attempt(s)"

/-- What an attempt leaves: a final answer or error, or the error to give if no attempt is left. -/
inductive Verdict where
  | final (answer : Except ExecutionError Bool)
  | retry (last : ExecutionError)
  deriving Repr

/-- What the given attempt at a question leaves. Timeout and cancellation are final. -/
def Verdict.of (probe : Probe) (attempts : Nat) : Except ExecutionError Observation → Verdict
  | .ok (.found value) => .final (.ok value)
  | .ok .pending => .retry (unsettled probe attempts)
  | .error (.timeout n) => .final (.error (.timeout n))
  | .error .cancelled => .final (.error .cancelled)
  | .error e => .retry e

namespace ProbePolicy

/-- Asks, and asks again after a pause as often as is left, until the question is decided. The error
of a question that is never decided is that of the last attempt. -/
def askFrom (p : ProbePolicy) (page : Page) (call : PageCall) :
    (left attempts : Nat) → Running (Except ExecutionError Bool)
  | 0, attempts => do
    match Verdict.of call.probe attempts (← p.attempt page call) with
    | .final answer => return answer
    | .retry last => return .error last
  | left + 1, attempts => do
    match Verdict.of call.probe attempts (← p.attempt page call) with
    | .final answer => return answer
    | .retry _ =>
      match ← p.pause with
      | some e => return .error e
      | none => askFrom p page call left (attempts + 1)

/-- Puts a question to a page as patiently as the policy says. -/
def ask (p : ProbePolicy) (page : Page) (call : PageCall) : Running (Except ExecutionError Bool) :=
  p.askFrom page call (p.attempts call.probe - 1) 1

end ProbePolicy

end SurveyGate

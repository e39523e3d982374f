import SurveyGate.Bisect
import SurveyGate.Time.Instant

/-!
# `SurveyGate.History.Basic`: what happened on a device

A `History` records when one survey was shown, completed and closed on one device. Impressions are
kept in order of time and may be pruned; their count is not. Counters stop at their largest value.
-/

set_option autoImplicit false

namespace SurveyGate

/-- The sum of two counters, or the largest value if the sum is larger. -/
def addCounts (a b : UInt64) : UInt64 :=
  if a.toNat + b.toNat < UInt64.size then a + b else .ofNat (UInt64.size - 1)

/-- What happened with one survey on one device. -/
structure History where
  /-- The instants of impressions that are still kept, earliest first. -/
  impressions : List Instant
  /-- The number of impressions ever. -/
  impressionCount : UInt64
  lastShown : Option Instant
  lastCompleted : Option Instant
  completionCount : UInt32
  /-- When the survey was last closed without an answer. -/
  dismissed : Option Instant
  deriving DecidableEq, Repr

namespace History

/-- The history in which nothing happened. -/
def empty : History := ⟨[], 0, none, none, 0, none⟩

instance : Inhabited History := ⟨empty⟩

/-- Instants in order with one more, behind those that are equal to it. -/
def insertInstant (t : Instant) (ts : List Instant) : List Instant :=
  let place := bisect (· ≤ t) ts
  ts.take place ++ t :: ts.drop place

/-- The later of an instant and one that may be missing. -/
def latest (last : Option Instant) (t : Instant) : Instant :=
  match last with
  | some s => if s < t then t else s
  | none => t

/-- The history after the survey was shown. -/
def recordImpression (h : History) (t : Instant) : History :=
  { h with
    impressions := insertInstant t h.impressions
    impressionCount := addCounts h.impressionCount 1
    lastShown := some (latest h.lastShown t) }

/-- The history after the survey was completed. -/
def recordCompletion (h : History) (t : Instant) : History :=
  { h with
    completionCount := if h.completionCount.toNat + 1 < UInt32.size then h.completionCount + 1
      else h.completionCount
    lastCompleted := some (latest h.lastCompleted t) }

/-- The history after the survey was closed without an answer. -/
def recordDismissal (h : History) (t : Instant) : History := { h with dismissed := some t }

/-- The history without impressions before an instant. -/
def prune (h : History) (cutoff : Instant) : History :=
  { h with impressions := h.impressions.drop (bisect (· < cutoff) h.impressions) }

/-- Whether the survey was ever completed. -/
def hasCompleted (h : History) : Bool := 0 < h.completionCount || h.lastCompleted.isSome

/-- Whether the survey was closed without an answer and not completed since. -/
def dismissedWithoutAnswer (h : History) : Bool :=
  match h.dismissed, h.lastCompleted with
  | some dismissed, some completed => completed < dismissed
  | some _, none => true
  | none, _ => false

end History

/-- Something that happens to a history. -/
inductive HistoryEvent where
  | impression (t : Instant)
  | completion (t : Instant)
  | dismissal (t : Instant)
  | prune (cutoff : Instant)
  deriving DecidableEq, Repr

namespace History

/-- The history after an event. -/
def step (h : History) : HistoryEvent → History
  | .impression t => h.recordImpression t
  | .completion t => h.recordCompletion t
  | .dismissal t => h.recordDismissal t
  | .prune cutoff => h.prune cutoff

/-- The history after several events. -/
def run (events : List HistoryEvent) : History := events.foldl step empty

end History

/-- The impressions that a cap counts: the instants still kept, earliest first, and the number ever. -/
structure ImpressionLog where
  instants : List Instant
  count : UInt64
  deriving DecidableEq, Repr

namespace ImpressionLog

/-- The log without impressions. -/
def empty : ImpressionLog := ⟨[], 0⟩

instance : Inhabited ImpressionLog := ⟨empty⟩

/-- The impressions of one history. -/
def ofHistory (h : History) : ImpressionLog := ⟨h.impressions, h.impressionCount⟩

/-- The impressions of several histories together. -/
def ofHistories (hs : List History) : ImpressionLog where
  instants := (hs.flatMap History.impressions).mergeSort (· ≤ ·)
  count := (hs.map History.impressionCount).foldl addCounts 0

end ImpressionLog

end SurveyGate

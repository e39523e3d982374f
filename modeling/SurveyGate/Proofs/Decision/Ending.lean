import Mathlib.Data.List.Induction
import Mathlib.Logic.Relation
import SurveyGate.Proofs.Decision.Probing

/-!
# `SurveyGate.Proofs.Decision.Ending`: when a run ends

Asking looks whether the run is over, and while it is not, asking makes calls and waits. These are the
`Moves` of a run. A run that is over only looks, so its calls stay what they are, and it is over for
good: once cancelled always cancelled (`Reaches.of_over`). This holds for whichever reason the run is
over, so also when its caller cancels it during a call that ends all the same.

A call that does not end, because it hangs or because the run is cancelled during it, is the last
one, and the run is over behind it (`Reaches.of_endsRun`). All that a question does to a run is to
move it (`askFrom_reaches`).
-/

set_option autoImplicit false

namespace SurveyGate

/-- Whether a call did not end, so that only the end of the run ended it. -/
def Reply.endsRun : Reply → Bool
  | .hung => true
  | .cancelled => true
  | _ => false

/-- The calls that do not end are those that hang and those that are cancelled. -/
theorem Reply.endsRun_iff {reply : Reply} :
    reply.endsRun = true ↔ reply = .hung ∨ reply = .cancelled := by
  cases reply <;> simp [endsRun]

/-- The calls that end are answered or die. -/
theorem Reply.not_endsRun_iff {reply : Reply} :
    reply.endsRun = false ↔ (∃ answer, reply = .answered answer) ∨ reply = .died := by
  cases reply <;> simp [endsRun]

/-- Between the two runs the page gave the reply to a call, and the calls behind that one are
`later`. -/
def Page.Replied (page : Page) (run run' : Run) (reply : Reply) (later : List PageCall) : Prop :=
  ∃ earlier call, run'.calls = run.calls ++ earlier ++ call :: later ∧
    page (run.calls ++ earlier) call = reply

namespace ProbePolicy

/-- The run after a look that finds nothing and a call to a page. -/
def called (p : ProbePolicy) (page : Page) (call : PageCall) (run : Run) : Run :=
  p.after (page run.calls call) { run.looked with calls := run.calls ++ [call] }

/-- The run after a look that finds nothing and the time between two attempts. -/
def waited (p : ProbePolicy) (run : Run) : Run := p.wait p.retryInterval.toNat run.looked

/-- What asking does to a run: it looks, and if the run is not over it makes a call or waits. -/
inductive Moves (p : ProbePolicy) (page : Page) : Run → Run → Prop where
  | look (run : Run) : Moves p page run run.looked
  | call {run : Run} (alive : p.over? run = none) (call : PageCall) :
    Moves p page run (p.called page call run)
  | wait {run : Run} (alive : p.over? run = none) : Moves p page run (p.waited run)

/-- Looks, calls and pauses lead from one run to the other. -/
abbrev Reaches (p : ProbePolicy) (page : Page) : Run → Run → Prop :=
  Relation.ReflTransGen (p.Moves page)

variable {p : ProbePolicy} {page : Page} {run run' start : Run} {call : PageCall} {reply : Reply}
  {later : List PageCall} {e : ExecutionError}

/-! ### Calls -/

/-- A call is added to the calls of the run. -/
theorem calls_called : (p.called page call run).calls = run.calls ++ [call] := by
  unfold called after
  split <;> rfl

/-- A call during which the run is cancelled leaves a cancelled run. -/
theorem cancelled_called (h : page run.calls call = .cancelled) :
    (p.called page call run).cancelled = true := by
  simp [called, h, after, Run.cancelled]

/-- A run is over behind a call that does not end. -/
theorem over?_called_isSome (h : (page run.calls call).endsRun = true) :
    (p.over? (p.called page call run)).isSome = true := by
  rw [Option.isSome_iff_ne_none, Ne, over?_eq_none_iff]
  rintro ⟨hcancelled, -, htime⟩
  rcases Reply.endsRun_iff.1 h with hreply | hreply
  · -- The call has taken all the time.
    simp only [called, hreply, after, wait] at htime
    omega
  · rw [cancelled_called hreply] at hcancelled
    cases hcancelled

/-- A call that does not end is given up by the look that finds the run over. -/
theorem attempt_of_endsRun (halive : p.over? run = none)
    (h : (page run.calls call).endsRun = true) :
    ∃ e, p.over? (p.called page call run) = some e ∧
      p.attempt page call run = (.error e, (p.called page call run).looked) := by
  obtain ⟨e, hover⟩ := Option.isSome_iff_exists.1 (over?_called_isSome (p := p) h)
  refine ⟨e, hover, ?_⟩
  unfold called at hover ⊢
  rcases Reply.endsRun_iff.1 h with hreply | hreply
  · rw [hreply] at hover ⊢
    simp only [attempt, halive, hreply, await, hover, Option.getD_some]
  · rw [hreply] at hover ⊢
    simp only [attempt, halive, hreply, await, hover, Option.getD_some]

/-- An attempt whose call ends is a look and a call. -/
theorem attempt_of_ended (halive : p.over? run = none)
    (h : (page run.calls call).endsRun = false) :
    (p.attempt page call run).2 = p.called page call run := by
  rcases Reply.not_endsRun_iff.1 h with ⟨answer, hreply⟩ | hreply
  · simp only [attempt, halive, hreply, await, called, after]
  · simp only [attempt, halive, hreply, await, called, after]

/-! ### Moves of a run -/

/-- A run that is over only looks: there are no calls behind it, and it stays over for good. -/
theorem Reaches.of_over (h : p.Reaches page run run') (hover : (p.over? run).isSome = true) :
    run'.calls = run.calls ∧ (p.over? run').isSome = true ∧
      (run.cancelled = true → run'.cancelled = true) := by
  induction h with
  | refl => exact ⟨rfl, hover, id⟩
  | tail _ hmove ih =>
    obtain ⟨hcalls, hover', hcancelled⟩ := ih
    cases hmove with
    | look => exact ⟨hcalls, over?_looked_isSome hover', fun h => cancelled_looked (hcancelled h)⟩
    | call alive call =>
      rw [alive] at hover'
      cases hover'
    | wait alive =>
      rw [alive] at hover'
      cases hover'

/-- A run that its caller cancels from some look on is cancelled once it has looked so often. -/
theorem Reaches.cancelled_of_le (h : p.Reaches page run run') {n : Nat}
    (hcaller : run.cancelledFrom = some n) (hle : n ≤ run'.looks) : run'.cancelled = true := by
  suffices hkept : ∃ m ≤ n, run'.cancelledFrom = some m by
    obtain ⟨m, hm, hfrom⟩ := hkept
    simp only [Run.cancelled, hfrom, Option.any_some, decide_eq_true_eq]
    exact Nat.le_trans hm hle
  clear hle
  induction h with
  | refl => exact ⟨n, Nat.le_refl n, hcaller⟩
  | @tail mid _ _ hmove ih =>
    obtain ⟨m, hm, hfrom⟩ := ih
    cases hmove with
    | look => exact ⟨m, hm, hfrom⟩
    | wait => exact ⟨m, hm, hfrom⟩
    | call alive call =>
      unfold called after
      cases page mid.calls call with
      | answered answer => exact ⟨m, hm, hfrom⟩
      | died => exact ⟨m, hm, hfrom⟩
      | hung => exact ⟨m, hm, hfrom⟩
      | cancelled =>
        -- The run is cancelled earlier than its caller would have done it.
        obtain ⟨hcancelled, -⟩ := over?_eq_none_iff.1 alive
        simp only [Run.cancelled, hfrom, Option.any_some, decide_eq_false_iff_not] at hcancelled
        exact ⟨mid.looks + 1, by omega, rfl⟩

/-- A run whose calls take up the time by some look is late once it has looked so often. -/
theorem Reaches.late_of_le (h : p.Reaches page run run') {n : Nat} (hlate : run.lateFrom = some n)
    (hle : n ≤ run'.looks) : run'.late = true := by
  suffices hkept : run'.lateFrom = some n by
    simp only [Run.late, hkept, Option.any_some, decide_eq_true_eq]
    exact hle
  clear hle
  induction h with
  | refl => exact hlate
  | tail _ hmove ih =>
    cases hmove with
    | look => exact ih
    | wait => exact ih
    | call _ call =>
      unfold called after
      split <;> exact ih

/-- No call is taken back. -/
theorem Reaches.keeps_calls (h : p.Reaches page run run') : run.calls <+: run'.calls := by
  induction h with
  | refl => exact List.prefix_rfl
  | tail _ hmove ih =>
    cases hmove with
    | look => exact ih
    | call _ call =>
      rw [calls_called]
      exact ih.trans (List.prefix_append _ _)
    | wait _ => exact ih

end ProbePolicy

namespace Page.Replied

variable {page : Page} {run mid run' : Run} {reply : Reply} {later : List PageCall} {c : PageCall}

/-- A reply is that to a call of its own. -/
theorem ne_of_calls_eq (h : page.Replied run run' reply later) : run'.calls ≠ run.calls := by
  obtain ⟨earlier, call, hcalls, -⟩ := h
  intro heq
  have hlength := congrArg List.length (hcalls.symm.trans heq)
  simp at hlength

/-- With one more call at the end, the reply is that to the last call, or it was there before. -/
theorem of_concat (h : page.Replied run run' reply later) (hcalls : run'.calls = mid.calls ++ [c]) :
    (later = [] ∧ page mid.calls c = reply) ∨
      ∃ later', later = later' ++ [c] ∧ page.Replied run mid reply later' := by
  obtain ⟨earlier, call, hcalls', hreply⟩ := h
  rw [hcalls] at hcalls'
  cases later using List.reverseRecOn with
  | nil =>
    obtain ⟨hmid, hlast⟩ := List.append_inj' hcalls' rfl
    cases hlast
    rw [← hmid] at hreply
    exact .inl ⟨rfl, hreply⟩
  | append_singleton later' last =>
    rw [← List.cons_append, ← List.append_assoc] at hcalls'
    obtain ⟨hmid, hlast⟩ := List.append_inj' hcalls' rfl
    cases hlast
    exact .inr ⟨later', rfl, earlier, call, hmid, hreply⟩

end Page.Replied

namespace ProbePolicy

variable {p : ProbePolicy} {page : Page} {run run' start : Run} {call : PageCall} {reply : Reply}
  {later : List PageCall} {left attempts : Nat}

/-- A call that does not end is the last one, and the run is over behind it, cancelled if the call
was. -/
theorem Reaches.of_endsRun (h : p.Reaches page start run)
    (hreplied : page.Replied start run reply later) (hends : reply.endsRun = true) :
    later = [] ∧ (p.over? run).isSome = true ∧ (reply = .cancelled → run.cancelled = true) := by
  -- On the moves: once the reply was given only looks follow.
  induction h generalizing later with
  | refl => exact absurd rfl hreplied.ne_of_calls_eq
  | @tail mid run _ hmove ih =>
    have hnotYet {later' : List PageCall} (alive : p.over? mid = none) :
        ¬page.Replied start mid reply later' := fun hbefore => by
      obtain ⟨-, hover, -⟩ := ih hbefore
      rw [alive] at hover
      cases hover
    cases hmove with
    | look =>
      obtain ⟨hlast, hover, hcancelled⟩ := ih hreplied
      exact ⟨hlast, over?_looked_isSome hover, fun h => cancelled_looked (hcancelled h)⟩
    | call alive call =>
      rcases hreplied.of_concat calls_called with ⟨hlast, rfl⟩ | ⟨_, -, hbefore⟩
      · exact ⟨hlast, over?_called_isSome hends, cancelled_called⟩
      · exact absurd hbefore (hnotYet alive)
    | wait alive => exact absurd hreplied (hnotYet alive)

/-! ### Single questions -/

/-- An attempt looks, and then it may call and look again. -/
theorem attempt_reaches : p.Reaches page run (p.attempt page call run).2 := by
  cases hover : p.over? run with
  | some e =>
    rw [attempt_of_over hover]
    exact .single (.look run)
  | none =>
    cases hends : (page run.calls call).endsRun with
    | true =>
      obtain ⟨e, -, hattempt⟩ := attempt_of_endsRun hover hends
      rw [hattempt]
      exact .tail (.single (.call hover call)) (.look _)
    | false =>
      rw [attempt_of_ended hover hends]
      exact .single (.call hover call)

/-- A pause looks, and then it may wait and look again. -/
theorem pause_reaches : p.Reaches page run (p.pause run).2 := by
  unfold pause
  cases hover : p.over? run with
  | some e => exact .single (.look run)
  | none => exact .tail (.single (.wait hover)) (.look _)

/-- A question only moves its run. -/
theorem askFrom_reaches : p.Reaches page run (p.askFrom page call left attempts run).2 := by
  induction left generalizing attempts run with
  | zero =>
    rw [askFrom_zero_apply]
    split <;> exact attempt_reaches
  | succ left ih =>
    rw [askFrom_succ_apply]
    split
    · exact attempt_reaches
    · split
      · exact attempt_reaches.trans pause_reaches
      · exact (attempt_reaches.trans pause_reaches).trans ih

end ProbePolicy

end SurveyGate

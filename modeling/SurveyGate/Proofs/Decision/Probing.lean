import SurveyGate.Decision.Probing

/-!
# `SurveyGate.Proofs.Decision.Probing`: patient questions

Two facts on the way a page is asked. Once a run is over nothing is asked in it: the question is left
with the reason that the first look finds (`ask_of_over`), and the run is over for good
(`over?_looked_isSome`). While the run is not over at the start of a question, a page whose answers do
not change decides the question as a single call would (`toOption_ask_fixed`): asking again finds out
nothing new, and whatever error is left at the end decides nothing.
-/

set_option autoImplicit false

namespace SurveyGate

/-- What the end of a call decides. -/
def Reply.decided? : Reply → Option Bool
  | .answered (.ok (.found value)) => some value
  | _ => none

namespace ProbePolicy

variable {p : ProbePolicy} {run : Run} {e : ExecutionError}

/-- A run is not over as long as it is not cancelled and has time left. -/
theorem over?_eq_none_iff :
    p.over? run = none ↔
      run.cancelled = false ∧ run.late = false ∧ run.elapsed < p.overallTimeout.toNat := by
  unfold over?
  cases run.cancelled with
  | true => simp
  | false => cases run.late <;> simp

/-- The reason why a run is over: a cancellation, or else the timeout. -/
theorem eq_of_over? (h : p.over? run = some e) :
    e = if run.cancelled then .cancelled else .timeout p.overallTimeout.toNat := by
  unfold over? at h
  split at h
  · rename_i hcancelled
    rw [if_pos hcancelled]
    exact (Option.some.inj h).symm
  · rename_i hcancelled
    rw [if_neg hcancelled]
    split at h
    · exact (Option.some.inj h).symm
    · cases h

/-- A look does not undo a cancellation. -/
theorem cancelled_looked (h : run.cancelled = true) : run.looked.cancelled = true := by
  obtain ⟨n, hn, hle⟩ := (Option.any_eq_true _ _).1 h
  refine (Option.any_eq_true _ _).2 ⟨n, hn, ?_⟩
  simp only [decide_eq_true_eq] at hle ⊢
  exact Nat.le_succ_of_le hle

/-- A look does not make up for a delay. -/
theorem late_looked (h : run.late = true) : run.looked.late = true := by
  obtain ⟨n, hn, hle⟩ := (Option.any_eq_true _ _).1 h
  refine (Option.any_eq_true _ _).2 ⟨n, hn, ?_⟩
  simp only [decide_eq_true_eq] at hle ⊢
  exact Nat.le_succ_of_le hle

/-- A run that is over stays over. -/
theorem over?_looked_isSome (h : (p.over? run).isSome = true) :
    (p.over? run.looked).isSome = true := by
  rw [Option.isSome_iff_ne_none, Ne, over?_eq_none_iff] at h ⊢
  refine fun ⟨hcancelled, hlate, htime⟩ => h ⟨?_, ?_, htime⟩
  · exact Bool.eq_false_iff.2 fun hrun => Bool.eq_false_iff.1 hcancelled (cancelled_looked hrun)
  · exact Bool.eq_false_iff.2 fun hrun => Bool.eq_false_iff.1 hlate (late_looked hrun)

/-- The reason why a run is over ends a question. -/
theorem verdict_of_over (h : p.over? run = some e) (probe : Probe) (attempts : Nat) :
    Verdict.of probe attempts (.error e) = .final (.error e) := by
  rw [eq_of_over? h]
  split <;> rfl

/-- In a run that is over an attempt is no more than a look. -/
theorem attempt_of_over (h : p.over? run = some e) (page : Page) (call : PageCall) :
    p.attempt page call run = (.error e, run.looked) := by
  simp only [attempt, h]

/-- The last attempt settles the question one way or the other. -/
theorem askFrom_zero_apply (page : Page) (call : PageCall) (attempts : Nat) (run : Run) :
    p.askFrom page call 0 attempts run =
      match Verdict.of call.probe attempts (p.attempt page call run).1 with
      | .final answer => (answer, (p.attempt page call run).2)
      | .retry last => (.error last, (p.attempt page call run).2) := by
  show (match Verdict.of call.probe attempts (p.attempt page call run).1 with
    | .final answer => pure answer
    | .retry last => pure (.error last) : Running (Except ExecutionError Bool))
      (p.attempt page call run).2 = _
  cases Verdict.of call.probe attempts (p.attempt page call run).1 <;> rfl

/-- Behind an attempt that leaves the question open there is a pause, and then the next attempt. -/
theorem askFrom_succ_apply (page : Page) (call : PageCall) (left attempts : Nat) (run : Run) :
    p.askFrom page call (left + 1) attempts run =
      match Verdict.of call.probe attempts (p.attempt page call run).1 with
      | .final answer => (answer, (p.attempt page call run).2)
      | .retry _ =>
        match (p.pause (p.attempt page call run).2).1 with
        | some e => (.error e, (p.pause (p.attempt page call run).2).2)
        | none =>
          p.askFrom page call left (attempts + 1) (p.pause (p.attempt page call run).2).2 := by
  show (match Verdict.of call.probe attempts (p.attempt page call run).1 with
    | .final answer => pure answer
    | .retry _ => p.pause >>= fun
      | some e => pure (.error e)
      | none => askFrom p page call left (attempts + 1) : Running (Except ExecutionError Bool))
      (p.attempt page call run).2 = _
  cases Verdict.of call.probe attempts (p.attempt page call run).1 with
  | final answer => rfl
  | retry last =>
    show (match (p.pause (p.attempt page call run).2).1 with
      | some e => pure (.error e)
      | none => askFrom p page call left (attempts + 1) : Running (Except ExecutionError Bool))
        (p.pause (p.attempt page call run).2).2 = _
    cases (p.pause (p.attempt page call run).2).1 <;> rfl

/-- Once the run is over, a question is given up without a call. -/
theorem askFrom_of_over (h : p.over? run = some e) (page : Page) (call : PageCall)
    (left attempts : Nat) : p.askFrom page call left attempts run = (.error e, run.looked) := by
  have hverdict := verdict_of_over h call.probe attempts
  have hattempt := attempt_of_over h page call
  cases left with
  | zero => rw [askFrom_zero_apply, hattempt, hverdict]
  | succ left => rw [askFrom_succ_apply, hattempt, hverdict]

/-- Once the run is over, nothing is asked. -/
theorem ask_of_over (h : p.over? run = some e) (page : Page) (call : PageCall) :
    p.ask page call run = (.error e, run.looked) :=
  askFrom_of_over h page call _ _

/-- Attempts that end in a run that is not over began in one. -/
theorem not_over_of_askFrom {page : Page} {call : PageCall} {left attempts : Nat}
    (hend : p.over? (p.askFrom page call left attempts run).2 = none) : p.over? run = none := by
  cases hover : p.over? run with
  | none => rfl
  | some e =>
    have hlooked := over?_looked_isSome (Option.isSome_iff_exists.2 ⟨e, hover⟩)
    rw [askFrom_of_over hover] at hend
    rw [hend] at hlooked
    cases hlooked

/-- A question that ends in a run that is not over began in one. -/
theorem not_over_of_ask {page : Page} {call : PageCall}
    (h : p.over? (p.ask page call run).2 = none) : p.over? run = none :=
  not_over_of_askFrom h

/-! ### Pages whose answers do not change -/

variable {answer : PageCall → Except ExecutionError Observation} {call : PageCall}

/-- The attempt at a question that such a page always answers in the same way. -/
theorem attempt_fixed (h : p.over? run = none) :
    p.attempt (Page.fixed answer) call run =
      (answer call, { run.looked with calls := run.calls ++ [call] }) := by
  simp only [attempt, h]
  rfl

/-- A page that knows the answer gives it at the first attempt. -/
theorem askFrom_fixed_of_found {value : Bool} (hover : p.over? run = none)
    (h : answer call = .ok (.found value)) (left attempts : Nat) :
    (p.askFrom (Page.fixed answer) call left attempts run).1 = .ok value := by
  have hattempt : p.attempt (Page.fixed answer) call run =
      (answer call, { run.looked with calls := run.calls ++ [call] }) := attempt_fixed hover
  cases left with
  | zero =>
    rw [askFrom_zero_apply, hattempt, h]
    rfl
  | succ left =>
    rw [askFrom_succ_apply, hattempt, h]
    rfl

/-- An answer that decides nothing leaves an error, final or not. -/
theorem verdict_of_undecided {a : Except ExecutionError Observation}
    (h : (Reply.answered a).decided? = none) (probe : Probe) (attempts : Nat) :
    ∃ e, Verdict.of probe attempts a = .retry e ∨
      Verdict.of probe attempts a = .final (.error e) := by
  -- Timeout and cancellation end a question, every other error leaves it open.
  cases a with
  | error e =>
    cases e with
    | storage text => exact ⟨_, .inl rfl⟩
    | page text => exact ⟨_, .inl rfl⟩
    | timeout milliseconds => exact ⟨_, .inr rfl⟩
    | cancelled => exact ⟨_, .inr rfl⟩
  | ok observation =>
    cases observation with
    | found value => cases h
    | pending => exact ⟨_, .inl rfl⟩

/-- A page that does not know the answer leaves an error after any number of attempts. -/
theorem askFrom_fixed_of_undecided (h : (Reply.answered (answer call)).decided? = none)
    (left attempts : Nat) (run : Run) :
    ∃ e, (p.askFrom (Page.fixed answer) call left attempts run).1 = .error e := by
  -- On the attempts left, for any run, since each pause moves the run on.
  induction left generalizing attempts run with
  | zero =>
    cases hover : p.over? run with
    | some e => exact ⟨e, by rw [askFrom_of_over hover]⟩
    | none =>
      obtain ⟨e, hverdict⟩ := verdict_of_undecided h call.probe attempts
      refine ⟨e, ?_⟩
      rw [askFrom_zero_apply, attempt_fixed hover]
      rcases hverdict with hretry | hfinal
      · rw [hretry]
      · rw [hfinal]
  | succ left ih =>
    cases hover : p.over? run with
    | some e => exact ⟨e, by rw [askFrom_of_over hover]⟩
    | none =>
      obtain ⟨e, hverdict⟩ := verdict_of_undecided h call.probe attempts
      rw [askFrom_succ_apply, attempt_fixed hover]
      rcases hverdict with hretry | hfinal
      · rw [hretry]
        -- The pause may end the run; if it does not, the next attempt fares no better.
        cases (p.pause _).1 with
        | none => exact ih (attempts + 1) _
        | some e' => exact ⟨e', rfl⟩
      · rw [hfinal]
        exact ⟨e, rfl⟩

/-- In a run that is not over, a fixed page decides a question as a single call does. -/
theorem toOption_ask_fixed (hover : p.over? run = none) :
    (p.ask (Page.fixed answer) call run).1.toOption =
      (Reply.answered (answer call)).decided? := by
  cases hdecided : (Reply.answered (answer call)).decided? with
  | none =>
    obtain ⟨e, he⟩ := askFrom_fixed_of_undecided (p := p) hdecided (p.attempts call.probe - 1) 1 run
    rw [ask, he]
    rfl
  | some value =>
    have hfound : answer call = .ok (.found value) := by
      unfold Reply.decided? at hdecided
      split at hdecided
      · rename_i heq
        obtain rfl := Option.some.inj hdecided
        exact Reply.answered.inj heq
      · cases hdecided
    rw [ask, askFrom_fixed_of_found hover hfound]
    rfl

end ProbePolicy

end SurveyGate

import SurveyGate.Proofs.Decision.Ending

/-!
# `SurveyGate.Proofs.Decision.Patience`: a question and the replies to it

A page is asked the same question over and over, so what happens depends on the replies to the
first, second, third call (`Page.replyTo`). A reply settles the question with an answer, or with a
timeout or a cancellation that the page itself reported (`Reply.settles?`); or the call does not end;
any other reply leaves the question open (`Reply.IsOpen`), with an error that counts only if no
attempt is left (`Reply.remains`).

`EndsAt` lists how a question can end behind some open replies: the next one settles it, the next one
is the last, or a look finds the run over. Every question that begins in a run that is not over ends
in one of these ways (`ask_endsAt`), which is proved along the attempts. What a reply settled is the
result even if the run is over by then.

`ask_by_replies` is the policy for a run that is not over at the end, where the third way is out:
calls are made up to the first reply that settles the question, and if none of the replies within the
attempts does, the last one tells the error.
-/

set_option autoImplicit false

namespace SurveyGate

/-- Whether an error is a timeout or a cancellation, after which a question is not put again. -/
def ExecutionError.endsQuestion : ExecutionError → Bool
  | .timeout _ => true
  | .cancelled => true
  | _ => false

namespace Reply

/-- What a reply settles, if it settles the question. -/
def settles? : Reply → Option (Except ExecutionError Bool)
  | .answered (.ok (.found value)) => some (.ok value)
  | .answered (.error e) => if e.endsQuestion then some (.error e) else none
  | _ => none

/-- The call has ended and the question is open. -/
def IsOpen (reply : Reply) : Prop := reply.settles? = none ∧ reply.endsRun = false

/-- A question is settled by what was found, or by an error after which it is not put again. -/
theorem settles?_eq_some_iff {reply : Reply} {answer : Except ExecutionError Bool} :
    reply.settles? = some answer ↔
      (∃ value, reply = .answered (.ok (.found value)) ∧ answer = .ok value) ∨
        ∃ e, e.endsQuestion = true ∧ reply = .answered (.error e) ∧ answer = .error e := by
  rcases reply with (e | value | _) | _ | _ | _ <;> grind [settles?]

/-- A question is left open by a page that has not settled, by any other error, and by a call that
dies. -/
theorem isOpen_iff {reply : Reply} :
    reply.IsOpen ↔ reply = .answered (.ok .pending) ∨
      (∃ e, e.endsQuestion = false ∧ reply = .answered (.error e)) ∨ reply = .died := by
  rcases reply with (e | value | _) | _ | _ | _ <;> simp [IsOpen, settles?, endsRun]

/-- The error that an open reply leaves, as the last one of some attempts. -/
def remains (probe : Probe) (attempts : Nat) : Reply → ExecutionError
  | .answered (.ok _) => unsettled probe attempts
  | .answered (.error e) => e
  | _ => .unanswered

end Reply

namespace Page

/-- The reply to a call that was put some times before, and behind some other calls. -/
def replyTo (page : Page) (earlier : List PageCall) (call : PageCall) (times : Nat) : Reply :=
  page (earlier ++ List.replicate times call) call

/-- The page whose calls end with an error where those of the given page die. -/
def withoutDeaths (page : Page) : Page := fun calls call =>
  match page calls call with
  | .died => .answered (.error .unanswered)
  | reply => reply

/-- The first reply is that to the call behind the earlier ones. -/
theorem replyTo_zero (page : Page) (earlier : List PageCall) (call : PageCall) :
    page.replyTo earlier call 0 = page earlier call := by
  rw [replyTo, List.replicate_zero, List.append_nil]

/-- Behind a call the replies are those to the calls that follow. -/
theorem replyTo_concat (page : Page) (earlier : List PageCall) (call : PageCall) (times : Nat) :
    page.replyTo (earlier ++ [call]) call times = page.replyTo earlier call (times + 1) := by
  rw [replyTo, replyTo, List.append_assoc, List.singleton_append, List.replicate_succ]

variable {page : Page} {run run' : Run} {call : PageCall} {reply : Reply} {later : List PageCall}
  {n : Nat}

/-- While one call is put over and over, each reply is one to it. -/
theorem Replied.of_replicate (h : page.Replied run run' reply later)
    (hcalls : run'.calls = run.calls ++ List.replicate n call) :
    ∃ i < n, reply = page.replyTo run.calls call i ∧ later = List.replicate (n - 1 - i) call := by
  obtain ⟨earlier, c, hcalls', rfl⟩ := h
  rw [hcalls, List.append_assoc, List.append_cancel_left_eq] at hcalls'
  have hall := List.eq_replicate_iff.1 hcalls'.symm
  obtain ⟨hlength, hmem⟩ := hall
  rw [List.length_append, List.length_cons] at hlength
  obtain rfl : c = call := hmem c (by simp)
  have hearlier : earlier = List.replicate earlier.length c :=
    List.eq_replicate_iff.2 ⟨rfl, fun c' hc' => hmem c' (by simp [hc'])⟩
  have hlater : later = List.replicate later.length c :=
    List.eq_replicate_iff.2 ⟨rfl, fun c' hc' => hmem c' (by simp [hc'])⟩
  refine ⟨earlier.length, by omega, ?_, ?_⟩
  · rw [replyTo, ← hearlier]
  · rw [hlater]
    congr 1
    omega

end Page

namespace ProbePolicy

/-- The run after a call was put some times, with pauses in between. -/
def asked (p : ProbePolicy) (call : PageCall) (times : Nat) (run : Run) : Run where
  calls := run.calls ++ List.replicate times call
  elapsed := run.elapsed + (times - 1) * p.retryInterval.toNat
  -- One look before each attempt, and two for each pause.
  looks := run.looks + times + 2 * (times - 1)
  cancelledFrom := run.cancelledFrom
  lateFrom := run.lateFrom

/-- The run after a call and the pause behind it. -/
def tried (p : ProbePolicy) (call : PageCall) (run : Run) : Run where
  calls := run.calls ++ [call]
  elapsed := run.elapsed + p.retryInterval.toNat
  looks := run.looks + 3
  cancelledFrom := run.cancelledFrom
  lateFrom := run.lateFrom

/-- How a question can end at the call that was put `k` times before with open replies. The attempts
at it have numbers from `first` to `last`. -/
inductive EndsAt (p : ProbePolicy) (page : Page) (call : PageCall) (run : Run) (first last k : Nat) :
    Except ExecutionError Bool × Run → Prop where
  /-- The reply settles the question, and it came in time. -/
  | settled {answer : Except ExecutionError Bool}
      (hreply : (page.replyTo run.calls call k).settles? = some answer)
      (htime : (p.asked call (k + 1) run).elapsed < p.overallTimeout.toNat) :
      EndsAt p page call run first last k (answer, p.asked call (k + 1) run)
  /-- The reply leaves the question open and no attempt is left. -/
  | spent (hopen : (page.replyTo run.calls call k).IsOpen) (hlast : first + k = last) :
      EndsAt p page call run first last k
        (.error ((page.replyTo run.calls call k).remains call.probe last),
          p.asked call (k + 1) run)
  /-- The call does not end, or attempts are left, and a look finds the run over. -/
  | givenUp {mid : Run} {e : ExecutionError}
      (hreply : (page.replyTo run.calls call k).settles? = none)
      (hmore : (page.replyTo run.calls call k).IsOpen → first + k < last)
      (hcalls : mid.calls = run.calls ++ List.replicate (k + 1) call)
      (hreaches : p.Reaches page run mid) (hover : p.over? mid = some e) :
      EndsAt p page call run first last k (.error e, mid.looked)

variable {p : ProbePolicy} {page : Page} {run : Run} {call : PageCall} {reply : Reply}
  {answer : Except ExecutionError Bool} {left attempts first last k : Nat}
  {out : Except ExecutionError Bool × Run}

/-! ### Single replies -/

/-- A call that settles its question has ended. -/
theorem endsRun_of_settles (h : reply.settles? = some answer) : reply.endsRun = false := by
  rcases Reply.settles?_eq_some_iff.1 h with ⟨value, rfl, -⟩ | ⟨e, -, rfl, -⟩
  · rfl
  · rfl

/-- A call that ends is all that happens. -/
theorem called_of_ended (h : (page run.calls call).endsRun = false) :
    p.called page call run = p.asked call 1 run := by
  have hzero : run.elapsed + (1 - 1) * p.retryInterval.toNat = run.elapsed := by simp
  rcases Reply.not_endsRun_iff.1 h with ⟨observed, hreply⟩ | hreply
  · simp only [called, hreply, after, asked, hzero, List.replicate_one, Run.looked]
  · simp only [called, hreply, after, asked, hzero, List.replicate_one, Run.looked]

/-- A timeout and a cancellation are final. -/
theorem verdict_of_endsQuestion {e : ExecutionError} (h : e.endsQuestion = true) (probe : Probe)
    (attempts : Nat) : Verdict.of probe attempts (.error e) = .final (.error e) := by
  cases e with
  | storage text => cases h
  | page text => cases h
  | timeout milliseconds => rfl
  | cancelled => rfl

/-- Behind every other error the question is put again. -/
theorem verdict_of_not_endsQuestion {e : ExecutionError} (h : e.endsQuestion = false)
    (probe : Probe) (attempts : Nat) : Verdict.of probe attempts (.error e) = .retry e := by
  cases e with
  | storage text => rfl
  | page text => rfl
  | timeout milliseconds => cases h
  | cancelled => cases h

/-- A reply that settles the question is final. -/
theorem verdict_of_settles (halive : p.over? run = none)
    (h : (page run.calls call).settles? = some answer) (attempts : Nat) :
    Verdict.of call.probe attempts (p.attempt page call run).1 = .final answer := by
  rcases Reply.settles?_eq_some_iff.1 h with ⟨value, hreply, rfl⟩ | ⟨e, he, hreply, rfl⟩
  · simp only [attempt, halive, hreply, await, Verdict.of]
  · simp only [attempt, halive, hreply, await, verdict_of_endsQuestion he]

/-- An open reply leaves its error. -/
theorem verdict_of_open (halive : p.over? run = none) (h : (page run.calls call).IsOpen)
    (attempts : Nat) :
    Verdict.of call.probe attempts (p.attempt page call run).1 =
      .retry ((page run.calls call).remains call.probe attempts) := by
  rcases Reply.isOpen_iff.1 h with hreply | ⟨e, he, hreply⟩ | hreply
  · simp only [attempt, halive, hreply, await, Verdict.of, Reply.remains]
  · simp only [attempt, halive, hreply, await, verdict_of_not_endsQuestion he, Reply.remains]
  · simp only [attempt, halive, hreply, await, Verdict.of, Reply.remains, ExecutionError.unanswered]

/-! ### Attempts -/

/-- A question ends with a call whose reply settles it. -/
theorem askFrom_of_settles (halive : p.over? run = none)
    (h : (page run.calls call).settles? = some answer) (left attempts : Nat) :
    p.askFrom page call left attempts run = (answer, p.asked call 1 run) := by
  have hends := endsRun_of_settles h
  have hverdict := verdict_of_settles halive h attempts
  cases left with
  | zero => rw [askFrom_zero_apply, hverdict, attempt_of_ended halive hends, called_of_ended hends]
  | succ left =>
    rw [askFrom_succ_apply, hverdict, attempt_of_ended halive hends, called_of_ended hends]

/-- A question ends with a call that does not end, and with the reason why the run is over. -/
theorem askFrom_of_endsRun (halive : p.over? run = none)
    (h : (page run.calls call).endsRun = true) (left attempts : Nat) :
    ∃ e, p.over? (p.called page call run) = some e ∧
      p.askFrom page call left attempts run = (.error e, (p.called page call run).looked) := by
  obtain ⟨e, hover, hattempt⟩ := attempt_of_endsRun halive h
  have hverdict := verdict_of_over hover call.probe attempts
  refine ⟨e, hover, ?_⟩
  cases left with
  | zero => rw [askFrom_zero_apply, hattempt, hverdict]
  | succ left => rw [askFrom_succ_apply, hattempt, hverdict]

/-- With no attempt left, an open reply tells the error. -/
theorem askFrom_zero_of_open (halive : p.over? run = none) (h : (page run.calls call).IsOpen)
    (attempts : Nat) :
    p.askFrom page call 0 attempts run =
      (.error ((page run.calls call).remains call.probe attempts), p.asked call 1 run) := by
  rw [askFrom_zero_apply, verdict_of_open halive h, attempt_of_ended halive h.2,
    called_of_ended h.2]

/-- With attempts left, an open reply leads to a pause, and if the pause does not end the run, to the
next attempt. -/
theorem askFrom_succ_of_open (halive : p.over? run = none) (h : (page run.calls call).IsOpen)
    (left attempts : Nat) :
    p.askFrom page call (left + 1) attempts run =
      match (p.pause (p.asked call 1 run)).1 with
      | some e => (.error e, (p.pause (p.asked call 1 run)).2)
      | none => p.askFrom page call left (attempts + 1) (p.pause (p.asked call 1 run)).2 := by
  have happly := askFrom_succ_apply (p := p) page call left attempts run
  rw [verdict_of_open halive h, attempt_of_ended halive h.2, called_of_ended h.2] at happly
  exact happly

/-- A pause behind a call takes its full time, or a look finds the run over. -/
theorem pause_asked (page : Page) (call : PageCall) (run : Run) :
    p.pause (p.asked call 1 run) = (none, p.tried call run) ∨
      ∃ mid e, mid.calls = run.calls ++ [call] ∧ p.Reaches page (p.asked call 1 run) mid ∧
        p.over? mid = some e ∧ p.pause (p.asked call 1 run) = (some e, mid.looked) := by
  unfold pause
  cases hover : p.over? (p.asked call 1 run) with
  | some e => exact .inr ⟨_, e, rfl, .refl, hover, rfl⟩
  | none =>
    have hwait : p.Reaches page (p.asked call 1 run) (p.waited (p.asked call 1 run)) :=
      .single (.wait hover)
    show p.look (p.waited _) = _ ∨ ∃ mid e, _ ∧ _ ∧ _ ∧ p.look (p.waited _) = _
    unfold look
    cases hover' : p.over? (p.waited (p.asked call 1 run)) with
    | some e => exact .inr ⟨_, e, rfl, hwait, hover', rfl⟩
    | none =>
      -- The deadline does not cut the pause short.
      obtain ⟨-, -, htime⟩ := over?_eq_none_iff.1 hover'
      refine .inl (congrArg (Prod.mk none) ?_)
      simp only [waited, wait, asked, tried, Run.looked, List.replicate_one, Nat.sub_self,
        Nat.zero_mul, Nat.mul_zero, Nat.add_zero] at htime ⊢
      congr 1
      omega

/-- To put a call again some times more is to put it all the times. -/
theorem asked_tried (times : Nat) :
    p.asked call (times + 1) (p.tried call run) = p.asked call (times + 2) run := by
  have helapsed : run.elapsed + p.retryInterval.toNat + times * p.retryInterval.toNat =
      run.elapsed + (times + 1) * p.retryInterval.toNat := by
    rw [Nat.add_mul]
    omega
  have hlooks : run.looks + 3 + (times + 1) + 2 * times =
      run.looks + (times + 2) + 2 * (times + 1) := by omega
  simp only [asked, tried, List.append_assoc, List.singleton_append, ← List.replicate_succ,
    Nat.add_sub_cancel, helapsed, hlooks]
  rfl

/-- A run that is not over was moved to the next attempt by looks, one call and one pause. -/
theorem tried_reaches (halive : p.over? run = none) (h : (page run.calls call).endsRun = false)
    (hpause : p.pause (p.asked call 1 run) = (none, p.tried call run)) :
    p.Reaches page run (p.tried call run) := by
  have hpaused : p.Reaches page (p.asked call 1 run) (p.pause (p.asked call 1 run)).2 :=
    pause_reaches
  rw [hpause] at hpaused
  refine .head ?_ hpaused
  rw [← called_of_ended h]
  exact .call halive call

/-- Behind an open reply with attempts left, a look finds the run over and the question is given up,
or the next attempt follows in a run that is not over. -/
theorem askFrom_succ_cases (halive : p.over? run = none) (h : (page run.calls call).IsOpen)
    (left attempts : Nat) :
    (∃ mid e, mid.calls = run.calls ++ [call] ∧ p.Reaches page run mid ∧ p.over? mid = some e ∧
        p.askFrom page call (left + 1) attempts run = (.error e, mid.looked)) ∨
      p.Reaches page run (p.tried call run) ∧ p.over? (p.tried call run) = none ∧
        p.askFrom page call (left + 1) attempts run =
          p.askFrom page call left (attempts + 1) (p.tried call run) := by
  have hnext := askFrom_succ_of_open halive h left attempts
  rcases pause_asked (p := p) page call run with hpause | ⟨mid, e, hcalls, hmid, hover, hpause⟩
  · rw [hpause] at hnext
    have htried := tried_reaches halive h.2 hpause
    cases hover : p.over? (p.tried call run) with
    | some e =>
      -- The pause did not end the run, but the first look of the next attempt finds it over.
      exact .inl ⟨_, e, rfl, htried, hover, hnext.trans (askFrom_of_over hover page call _ _)⟩
    | none => exact .inr ⟨htried, rfl, hnext⟩
  · rw [hpause] at hnext
    have hcalled : p.Reaches page run (p.asked call 1 run) := by
      rw [← called_of_ended h.2]
      exact .single (.call halive call)
    exact .inl ⟨mid, e, hcalls, hcalled.trans hmid, hover, hnext⟩

/-- A question that is put again ends as the rest of it does. -/
theorem EndsAt.of_tried (hreaches : p.Reaches page run (p.tried call run))
    (h : p.EndsAt page call (p.tried call run) (first + 1) last k out) :
    p.EndsAt page call run first last (k + 1) out := by
  have hcount : first + (k + 1) = first + 1 + k := by omega
  have hnext : page.replyTo (p.tried call run).calls call k =
      page.replyTo run.calls call (k + 1) := page.replyTo_concat run.calls call k
  cases h with
  | settled hreply htime =>
    rw [asked_tried] at htime ⊢
    exact .settled (hnext ▸ hreply) htime
  | spent hopen hlast =>
    rw [asked_tried]
    rw [hnext] at hopen ⊢
    exact .spent hopen (hcount.trans hlast)
  | givenUp hreply hmore hcalls hreaches' hover =>
    refine .givenUp (hnext ▸ hreply) (fun hopen => ?_) ?_ (hreaches.trans hreaches') hover
    · rw [hcount]
      exact hmore (hnext ▸ hopen)
    · rw [hcalls]
      exact List.append_assoc _ _ _

/-- A question ends with the first call, unless the reply to it is open. -/
theorem askFrom_endsAt_zero (halive : p.over? run = none)
    (h : ¬(page.replyTo run.calls call 0).IsOpen) (left attempts : Nat) :
    p.EndsAt page call run attempts last 0 (p.askFrom page call left attempts run) := by
  have hfirst := page.replyTo_zero run.calls call
  cases hsettles : (page run.calls call).settles? with
  | some answer =>
    rw [askFrom_of_settles halive hsettles]
    obtain ⟨-, -, htime⟩ := over?_eq_none_iff.1 halive
    refine .settled (hfirst ▸ hsettles) ?_
    show run.elapsed + 0 * p.retryInterval.toNat < _
    omega
  | none =>
    have hends : (page run.calls call).endsRun = true := by
      rw [hfirst] at h
      exact Bool.not_eq_false _ ▸ fun hended => h ⟨hsettles, hended⟩
    obtain ⟨e, hover, hask⟩ := askFrom_of_endsRun halive hends left attempts
    rw [hask]
    exact .givenUp (hfirst ▸ hsettles) (fun hopen => absurd hopen h) calls_called
      (.single (.call halive call)) hover

/-- A question that begins in a run that is not over is put, again behind each open reply as long as
attempts are left and the run is not over, and ends in one of three ways. -/
theorem askFrom_endsAt (left attempts : Nat) (halive : p.over? run = none) :
    ∃ k ≤ left, (∀ i < k, (page.replyTo run.calls call i).IsOpen) ∧
      p.EndsAt page call run attempts (attempts + left) k
        (p.askFrom page call left attempts run) := by
  have hnone {P : Nat → Prop} : ∀ i < 0, P i := fun i hi => absurd hi (Nat.not_lt_zero i)
  -- On the attempts left: behind an open reply the rest is a question with one attempt less, in the
  -- run after the pause, whose replies are the later ones of this run.
  induction left generalizing attempts run with
  | zero =>
    refine ⟨0, Nat.le_refl 0, hnone, ?_⟩
    by_cases hopen : (page.replyTo run.calls call 0).IsOpen
    · have hopen' := hopen
      rw [Page.replyTo_zero] at hopen'
      rw [askFrom_zero_of_open halive hopen', ← page.replyTo_zero]
      exact .spent hopen rfl
    · exact askFrom_endsAt_zero halive hopen 0 attempts
  | succ left ih =>
    by_cases hopen : (page.replyTo run.calls call 0).IsOpen
    · have hopen' := hopen
      rw [Page.replyTo_zero] at hopen'
      rcases askFrom_succ_cases halive hopen' left attempts with
        ⟨mid, e, hcalls, hmid, hover, hask⟩ | ⟨htried, halive', hask⟩
      · rw [hask]
        exact ⟨0, Nat.zero_le _, hnone, .givenUp hopen.1 (fun _ => by omega) hcalls hmid hover⟩
      · obtain ⟨k, hk, hbefore, hends⟩ := ih (attempts + 1) halive'
        rw [← hask, Nat.add_right_comm, Nat.add_assoc] at hends
        refine ⟨k + 1, Nat.succ_le_succ hk, fun i hi => ?_, hends.of_tried htried⟩
        cases i with
        | zero => exact hopen
        | succ i =>
          rw [← Page.replyTo_concat]
          exact hbefore i (Nat.lt_of_succ_lt_succ hi)
    · exact ⟨0, Nat.zero_le _, hnone, askFrom_endsAt_zero halive hopen (left + 1) attempts⟩

/-- The calls of a question are those up to the one at which it ends. -/
theorem EndsAt.calls (h : p.EndsAt page call run first last k out) :
    out.2.calls = run.calls ++ List.replicate (k + 1) call := by
  cases h with
  | settled _ _ => rfl
  | spent _ _ => rfl
  | givenUp _ _ hcalls _ _ => exact hcalls

/-- A question is put at least once. -/
theorem attempts_pos (p : ProbePolicy) (probe : Probe) : 0 < p.attempts probe := by
  unfold attempts
  split
  · exact Nat.lt_of_lt_of_le Nat.one_pos (Nat.le_max_left 1 _)
  · exact Nat.one_pos

/-- Every question that begins in a run that is not over ends in one of the three ways, at one of the
calls that the policy allows. -/
theorem ask_endsAt (page : Page) (call : PageCall) (halive : p.over? run = none) :
    ∃ k < p.attempts call.probe, (∀ i < k, (page.replyTo run.calls call i).IsOpen) ∧
      p.EndsAt page call run 1 (p.attempts call.probe) k (p.ask page call run) := by
  have hpos := p.attempts_pos call.probe
  obtain ⟨k, hk, hbefore, hends⟩ : ∃ k ≤ p.attempts call.probe - 1,
      (∀ i < k, (page.replyTo run.calls call i).IsOpen) ∧
        p.EndsAt page call run 1 (1 + (p.attempts call.probe - 1)) k (p.ask page call run) :=
    askFrom_endsAt _ 1 halive
  rw [Nat.add_sub_cancel' hpos] at hends
  exact ⟨k, by omega, hbefore, hends⟩

/-- A question is put at least once, unless the run is over. -/
theorem calls_ask (halive : p.over? run = none) :
    run.calls ++ [call] <+: (p.ask page call run).2.calls := by
  obtain ⟨k, -, -, hends⟩ := ask_endsAt page call halive
  rw [hends.calls, List.replicate_succ]
  exact ⟨List.replicate k call, List.append_assoc _ _ _⟩

/-- A timeout or a cancellation that a page answers with ends the question, of which it is the
result. It takes no time from the run. -/
theorem ask_of_answered {e : ExecutionError} {later : List PageCall} (he : e.endsQuestion = true)
    (h : page.Replied run (p.ask page call run).2 (.answered (.error e)) later) :
    later = [] ∧ (p.ask page call run).1 = .error e ∧
      (p.ask page call run).2.elapsed < p.overallTimeout.toNat := by
  cases hover : p.over? run with
  | some e' =>
    rw [ask_of_over hover] at h
    exact absurd rfl h.ne_of_calls_eq
  | none =>
    obtain ⟨k, -, hbefore, hends⟩ := ask_endsAt page call hover
    obtain ⟨i, hi, hreply, hlater⟩ := h.of_replicate hends.calls
    have hsettles : (page.replyTo run.calls call i).settles? = some (.error e) := by
      rw [← hreply]
      exact if_pos he
    -- The replies before the end are open, so the answer is the reply at which the question ends.
    obtain rfl : i = k := by
      by_contra hne
      obtain ⟨hopen, -⟩ := hbefore i (by omega)
      rw [hsettles] at hopen
      cases hopen
    have hlater' : later = [] := by simpa using hlater
    generalize p.ask page call run = out at hends
    cases hends with
    | settled hreply' htime =>
      rw [hsettles] at hreply'
      exact ⟨hlater', (Option.some.inj hreply').symm, htime⟩
    | spent hopen _ =>
      obtain ⟨hopen, -⟩ := hopen
      rw [hsettles] at hopen
      cases hopen
    | givenUp hopen _ _ _ _ =>
      rw [hsettles] at hopen
      cases hopen

/-- It makes no difference whether a call dies or returns the error that stands for it. -/
theorem askFrom_withoutDeaths (left attempts : Nat) :
    p.askFrom page.withoutDeaths call left attempts = p.askFrom page call left attempts := by
  have hattempt : p.attempt page.withoutDeaths call = p.attempt page call := by
    funext run
    simp only [attempt, Page.withoutDeaths]
    cases p.over? run with
    | some e => rfl
    | none => cases page run.calls call <;> rfl
  induction left generalizing attempts with
  | zero => simp only [askFrom, hattempt]
  | succ left ih => simp only [askFrom, hattempt, ih]

/-- A question in a run that is not over when it ends. It is put at most `most` times, for a question
about what is visible as often as the policy says and at least once, and otherwise once.

- It is put until a reply settles it, if one within these does, and ends with what the first such
  reply settles;
- otherwise it is put `most` times, and ends with the error that the last reply leaves: its own, that
  of a call that died, or that the page did not settle;
- calls that die are as good as calls that return an error. -/
theorem ask_by_replies (hend : p.over? (p.ask page call run).2 = none) :
    let most := match call.probe with
      | .visible _ => max 1 p.maxAttempts.toNat
      | _ => 1
    (∀ k < most, ∀ answer, (page.replyTo run.calls call k).settles? = some answer →
      (∀ i < k, (page.replyTo run.calls call i).settles? = none) →
      p.ask page call run = (answer, p.asked call (k + 1) run)) ∧
    ((∀ i < most, (page.replyTo run.calls call i).settles? = none) →
      p.ask page call run =
        (.error (match page.replyTo run.calls call (most - 1) with
          | .answered (.ok _) =>
            .page s!"{call.probe.display} did not settle after {most} attempt(s)"
          | .answered (.error e) => e
          | _ => .page "probe thread exited without an answer"),
        p.asked call most run)) ∧
    p.ask page.withoutDeaths call run = p.ask page call run := by
  intro most
  have hmost : p.attempts call.probe = most := by
    unfold attempts
    cases hprobe : call.probe <;> simp only [most, hprobe] <;> rfl
  obtain ⟨k, hk, hbefore, hends⟩ := ask_endsAt page call (not_over_of_ask hend)
  have hdeaths : p.ask page.withoutDeaths call run = p.ask page call run :=
    congrFun (askFrom_withoutDeaths (p.attempts call.probe - 1) 1) run
  rw [hmost] at hk hends
  generalize p.ask page call run = out at hend hends hdeaths ⊢
  cases hends with
  | settled hreply _ =>
    refine ⟨fun k' _ answer hsettles hbefore' => ?_, fun hopen => ?_, hdeaths⟩
    · -- Both are the first call with such a reply.
      rcases Nat.lt_trichotomy k' k with hlt | rfl | hlt
      · obtain ⟨hopen, -⟩ := hbefore k' hlt
        rw [hsettles] at hopen
        cases hopen
      · rw [hsettles] at hreply
        rw [Option.some.inj hreply]
      · rw [hbefore' k hlt] at hreply
        cases hreply
    · rw [hopen k hk] at hreply
      cases hreply
  | spent hopen hlast =>
    refine ⟨fun k' hk' answer hsettles _ => ?_, fun _ => ?_, hdeaths⟩
    · obtain ⟨hopen', -⟩ : (page.replyTo run.calls call k').IsOpen := by
        rcases Nat.lt_or_ge k' k with hlt | hge
        · exact hbefore k' hlt
        · obtain rfl : k' = k := by omega
          exact hopen
      rw [hsettles] at hopen'
      cases hopen'
    · have hk : k = most - 1 := by omega
      have hmost' : most - 1 + 1 = most := by omega
      subst hk
      rw [hmost']
      refine Prod.ext (congrArg Except.error ?_) rfl
      generalize page.replyTo run.calls call (most - 1) = reply
      rcases reply with (_ | _) | _ | _ | _ <;> rfl
  | givenUp _ _ _ _ hover =>
    -- A look that finds the run over leaves it over.
    have hlooked := over?_looked_isSome (p := p) (Option.isSome_iff_exists.2 ⟨_, hover⟩)
    rw [hend] at hlooked
    cases hlooked

/-! ### A page that takes its time -/

/-- A page that replies to its calls one by one as the list says, and to all later ones as to the
last. -/
def pageOf (replies : List Reply) : Page := fun calls _ =>
  (replies[calls.length]?.orElse fun _ => replies.getLast?).getD .died

/-- Three attempts a second apart. -/
def threeAttempts : ProbePolicy := ⟨3, 1000, 10000⟩

/-- The question after the promotion. -/
def promoCall : PageCall := ⟨"https://site.com", .visible "#promo"⟩

/-- The third attempt finds the promotion behind a call that died, a timeout that the page reports
ends the question at the second attempt, and a page that never settles is asked three times. -/
theorem ask_by_replies_promo :
    let late := pageOf [.answered (.ok .pending), .died, .answered (.ok (.found true))]
    let stalled := pageOf [.answered (.ok .pending), .answered (.error (.timeout 5))]
    let unsteady := pageOf [.answered (.error (.page "no frame")), .answered (.ok .pending)]
    let p := threeAttempts
    let start := Run.start false
    (p.over? (p.ask late promoCall start).2 = none ∧
      p.ask late promoCall start = (.ok true, p.asked promoCall 3 start)) ∧
    (p.over? (p.ask stalled promoCall start).2 = none ∧
      p.ask stalled promoCall start = (.error (.timeout 5), p.asked promoCall 2 start)) ∧
    p.over? (p.ask unsteady promoCall start).2 = none ∧
      p.ask unsteady promoCall start =
        (.error (.page "visible(#promo) did not settle after 3 attempt(s)"),
          p.asked promoCall 3 start) := by
  intro late stalled unsteady p start
  have hlate : p.over? (p.ask late promoCall start).2 = none := by decide
  have hstalled : p.over? (p.ask stalled promoCall start).2 = none := by decide
  have hunsteady : p.over? (p.ask unsteady promoCall start).2 = none := by decide
  refine ⟨⟨hlate, ?_⟩, ⟨hstalled, ?_⟩, hunsteady, ?_⟩
  · obtain ⟨hsettled, -⟩ := ask_by_replies hlate
    exact hsettled 2 (by decide) _ rfl (by decide)
  · obtain ⟨hsettled, -⟩ := ask_by_replies hstalled
    exact hsettled 1 (by decide) _ rfl (by decide)
  · obtain ⟨-, hopen, -⟩ := ask_by_replies hunsteady
    have hmessage : s!"{promoCall.probe.display} did not settle after {3} attempt(s)" =
        "visible(#promo) did not settle after 3 attempt(s)" := by decide +kernel
    rw [← hmessage]
    exact hopen (by decide)

end ProbePolicy

end SurveyGate

import SurveyGate.Proofs.Decision.Patience
import SurveyGate.Proofs.Decision.Outline

/-!
# `SurveyGate.Proofs.Decision.Questions`: what a diagnosis asks a page

A diagnosis puts its questions to a page one after the other: one for each trigger on a page, in the
order of the triggers, and then those beside the conditions. These are the `questions` of a survey.
Nothing else happens to the run, and the entries of the report that are up to the page say how the
questions ended, each its own (`diagnose_asks`).

All questions share one run. Once it is over, for whichever reason and at whichever look, no call
follows, and every question that begins then ends with the reason (`diagnose_stops`). What was settled
before stays: a question that ended with an error of its own keeps it, and a reply to the call during
which the run was cancelled counts (`diagnose_stops_otherwise`). An error that a page answers with
ends a single question at most.
-/

set_option autoImplicit false

namespace SurveyGate

/-- What a diagnosis asks a page. -/
inductive PageQuestion where
  /-- Whether the criterion of a trigger holds. -/
  | condition (t : Trigger) (probe : Probe)
  /-- What is asked beside the conditions, with the label of its entry. -/
  | extra (label : String) (probe : Probe)

namespace PageQuestion

/-- What the page is asked. -/
def probe : PageQuestion → Probe
  | .condition _ probe => probe
  | .extra _ probe => probe

/-- What the message of an undecided entry begins with. -/
def topic : PageQuestion → String
  | .condition t _ => t.criterion.pageLabel
  | .extra _ probe => probe.display

/-- The entry of a question that ended in the given way. -/
def entry : PageQuestion → Except ExecutionError Bool → Finding
  | .condition t _, result => t.finding (t.criterion.ofResult result)
  | .extra label probe, result => ⟨label, probe.outcome result, .informational⟩

/-- Puts a question to a page. -/
def put (p : ProbePolicy) (page : Page) (url : String) (q : PageQuestion) : Running Finding := do
  return q.entry (← p.ask page ⟨url, q.probe⟩)

/-- The question of a trigger, if it is on a page. -/
def ofTrigger? (t : Trigger) : Option PageQuestion := t.criterion.probe?.map (.condition t)

/-- A question that ends with an error leaves its entry open, and the entry says why. -/
theorem outcome_entry_error (q : PageQuestion) (e : ExecutionError) :
    (q.entry (.error e)).outcome = .indeterminate s!"{q.topic}: {e.message}" := by
  cases q with
  | condition t probe =>
    show (t.finding (t.criterion.ofFailure e)).outcome = t.criterion.ofFailure e
    unfold Trigger.finding
    split <;> rfl
  | extra label probe => rfl

end PageQuestion

/-- The questions of a diagnosis in their order. -/
def questions (s : Survey) (ts : List Trigger) : List PageQuestion :=
  ts.filterMap PageQuestion.ofTrigger? ++ (extraProbes s).map fun (label, probe) => .extra label probe

/-- The entries of a report that are up to the page, by the slots of its outline. -/
def pageEntries : List Slot → List Finding → List Finding
  | .asked _ :: slots, f :: fs => f :: pageEntries slots fs
  | .known _ :: slots, _ :: fs => pageEntries slots fs
  | _, _ => []

/-- The entries that are up to the page are picked part by part. -/
theorem pageEntries_append {slots slots' : List Slot} {fs fs' : List Finding}
    (h : slots.length = fs.length) :
    pageEntries (slots ++ slots') (fs ++ fs') = pageEntries slots fs ++ pageEntries slots' fs' := by
  induction slots generalizing fs with
  | nil =>
    rw [List.eq_nil_of_length_eq_zero h.symm]
    rfl
  | cons slot slots ih =>
    cases fs with
    | nil => cases h
    | cons f fs =>
      have htail := ih (Nat.succ.inj h)
      cases slot with
      | known _ => exact htail
      | asked _ => exact congrArg (f :: ·) htail

/-- Where all slots are known no entry is up to the page. -/
theorem pageEntries_known (fs fs' : List Finding) : pageEntries (fs.map .known) fs' = [] := by
  induction fs generalizing fs' with
  | nil => rfl
  | cons f fs ih =>
    cases fs' with
    | nil => rfl
    | cons f' fs' => exact ih fs'

/-! ### Steps that put a question or leave the run alone -/

section
variable {σ α β : Type}

/-- What one step after the other keeps of a state, a run of them keeps. -/
theorem rel_mapM {R : σ → σ → Prop} (refl : ∀ s, R s s) (trans : ∀ {s t u}, R s t → R t u → R s u)
    {f : α → StateM σ β} (xs : List α) (h : ∀ a ∈ xs, ∀ s, R s (f a s).2) (s : σ) :
    R s (xs.mapM f s).2 := by
  induction xs generalizing s with
  | nil => exact refl s
  | cons x xs ih =>
    obtain ⟨hhead, htail⟩ := List.forall_mem_cons.1 h
    rw [List.mapM_cons]
    exact trans (hhead s) (ih htail _)

/-- A run of steps has one result for each. -/
theorem length_mapM {f : α → StateM σ β} (xs : List α) (s : σ) :
    (xs.mapM f s).1.length = xs.length :=
  (forall₂_mapM (R := fun _ _ => True) xs (fun _ _ _ => trivial) s).length_eq.symm

/-- Steps in two lists are taken one list after the other. -/
theorem mapM_append_apply (f : α → StateM σ β) (xs ys : List α) (s : σ) :
    (xs ++ ys).mapM f s =
      ((xs.mapM f s).1 ++ (ys.mapM f (xs.mapM f s).2).1, (ys.mapM f (xs.mapM f s).2).2) := by
  rw [List.mapM_append]
  rfl

/-- The first step is taken before the others. -/
theorem mapM_cons_apply (f : α → StateM σ β) (x : α) (xs : List α) (s : σ) :
    (x :: xs).mapM f s = ((f x s).1 :: (xs.mapM f (f x s).2).1, (xs.mapM f (f x s).2).2) := by
  rw [List.mapM_cons]
  rfl

/-- The result of a step stands at its place. -/
theorem getElem?_mapM_append_cons (f : α → StateM σ β) (xs ys : List α) (x : α) (s : σ) :
    ((xs ++ x :: ys).mapM f s).1[xs.length]? = some (f x (xs.mapM f s).2).1 := by
  rw [mapM_append_apply, mapM_cons_apply, ← length_mapM (f := f) xs s]
  simp

end

section
variable {p : ProbePolicy} {page : Page} {url : String} {α : Type}

/-- A list of steps of which each puts the question of its slot, or has a known slot and leaves the run
alone, puts the questions. -/
theorem mapM_put (f : α → Running Finding) (slot : α → Slot) (question? : α → Option PageQuestion)
    (xs : List α)
    (hasked : ∀ a ∈ xs, ∀ q, question? a = some q →
      (∃ heading, slot a = .asked heading) ∧ f a = q.put p page url)
    (hknown : ∀ a ∈ xs, question? a = none →
      (∃ f, slot a = .known f) ∧ ∀ run, (f a run).2 = run) (run : Run) :
    (xs.filterMap question?).mapM (·.put p page url) run =
      (pageEntries (xs.map slot) (xs.mapM f run).1, (xs.mapM f run).2) := by
  induction xs generalizing run with
  | nil => rfl
  | cons x xs ih =>
    obtain ⟨hasked, hasked'⟩ := List.forall_mem_cons.1 hasked
    obtain ⟨hknown, hknown'⟩ := List.forall_mem_cons.1 hknown
    rw [mapM_cons_apply, List.map_cons]
    cases hquestion : question? x with
    | none =>
      obtain ⟨⟨f', hslot⟩, hrun⟩ := hknown hquestion
      rw [List.filterMap_cons_none hquestion, hslot, hrun run]
      exact ih hasked' hknown' run
    | some q =>
      obtain ⟨⟨heading, hslot⟩, hput⟩ := hasked q hquestion
      rw [List.filterMap_cons_some hquestion, hslot, hput, mapM_cons_apply, ih hasked' hknown']
      rfl

end

/-! ### Diagnoses -/

section
variable {p : ProbePolicy} {v : Visitor} {r : Reads} {id : SurveyId} {s : Survey}
  {ts : List Trigger} {page : Page} {url : String}

/-- A criterion on a page is examined by its question. -/
theorem Criterion.examine_of_asked {c : Criterion} {probe : Probe} (hprobe : c.probe? = some probe)
    (hurl : v.usableUrl? = some url) (hpage : v.page = some page) :
    c.examine p v = (do return c.ofResult (← p.ask page ⟨url, probe⟩)) := by
  simp only [examine, hprobe, hurl, hpage]

/-- What asking keeps of a run, a term keeps. -/
theorem Term.rel_resolve {R : Run → Run → Prop} (refl : ∀ run, R run run)
    (trans : ∀ {s t u}, R s t → R t u → R s u) (term : Term)
    (h : ∀ t ∈ term.triggers, ∀ run, R run (t.criterion.examine p v run).2) (run : Run) :
    R run (term.resolve (·.examine p v) run).2 := by
  cases term with
  | single t => exact h t List.mem_cons_self run
  | anyOf g members =>
    exact rel_mapM refl trans (f := fun t : Trigger => do return (t, ← t.criterion.examine p v))
      members h run

/-- The run of a diagnosis is moved by the questions alone. -/
theorem diagnose_rel {R : Run → Run → Prop} (refl : ∀ run, R run run)
    (trans : ∀ {s t u}, R s t → R t u → R s u)
    (hask : ∀ page url, v.page = some page → v.usableUrl? = some url →
      ∀ probe run, R run (p.ask page ⟨url, probe⟩ run).2) (start : Run) :
    R start (diagnose r p id v start).2 := by
  have hexamine : ∀ (c : Criterion) run, R run (c.examine p v run).2 := by
    intro c run
    rcases c.examine_cases p v with ⟨probe, url, page, -, hurl, hpage, hexamine⟩ | hpure
    · rw [hexamine]
      exact hask page url hpage hurl probe run
    · rw [hpure]
      exact refl run
  have hextras : ∀ s run, R run (extraFindings p s v run).2 := by
    intro s run
    unfold extraFindings
    cases hpage : v.page with
    | none => exact refl run
    | some page =>
      cases hurl : v.usableUrl? with
      | none => exact refl run
      | some url =>
        exact rel_mapM refl trans _ (fun entry _ run => hask page url hpage hurl entry.2 run) run
  cases hload : load r id with
  | error e =>
    rw [diagnose_of_load_error hload]
    exact refl start
  | ok loaded =>
    rw [diagnose_of_load_ok hload]
    exact trans (rel_mapM refl trans (plan loaded.2) (fun term _ run =>
      term.rel_resolve refl trans (fun t _ run => hexamine t.criterion run) run) start)
      (hextras loaded.1 _)

/-- A diagnosis only moves its run. -/
theorem diagnose_reaches (hpage : v.page = some page) (start : Run) :
    p.Reaches page start (diagnose r p id v start).2 := by
  refine diagnose_rel (fun _ => .refl) .trans (fun page' url hpage' _ probe run => ?_) start
  obtain rfl := Option.some.inj (hpage.symm.trans hpage')
  exact ProbePolicy.askFrom_reaches

/-- Without a page, or without a URL to ask it at, nothing is asked. -/
theorem diagnose_run_of_not_asked (h : v.page = none ∨ v.usableUrl? = none) (start : Run) :
    (diagnose r p id v start).2 = start := by
  refine (diagnose_rel (R := Eq) (fun _ => rfl) .trans (fun page url hpage hurl => ?_) start).symm
  rcases h with hnone | hnone
  · rw [hnone] at hpage
    cases hpage
  · rw [hnone] at hurl
    cases hurl

/-- The questions of triggers are those of the triggers on a page. -/
theorem filterMap_ofTrigger? (ts : List Trigger) :
    (ts.filter fun t => t.criterion.probe?.isSome).filterMap PageQuestion.ofTrigger? =
      ts.filterMap PageQuestion.ofTrigger? := by
  rw [List.filterMap_filter]
  refine List.filterMap_congr fun t _ => ?_
  unfold PageQuestion.ofTrigger?
  cases t.criterion.probe? <;> rfl

/-- The terms put the questions of the triggers. -/
theorem terms_put (hpage : v.page = some page) (hurl : v.usableUrl? = some url)
    (ts : List Trigger) (run : Run) :
    (ts.filterMap PageQuestion.ofTrigger?).mapM (·.put p page url) run =
      (pageEntries ((openers [] ts).map fun t => (t.term ts).slot v)
        ((plan ts).mapM (·.resolve (·.examine p v)) run).1,
      ((plan ts).mapM (·.resolve (·.examine p v)) run).2) := by
  rw [← filterMap_ofTrigger? ts, ← filter_openers (fun t => Group.of?_of_probe) [] ts,
    filterMap_ofTrigger?, plan_eq_map_openers, List.mapM_map]
  refine mapM_put (fun t => (t.term ts).resolve (·.examine p v)) _ PageQuestion.ofTrigger?
    (openers [] ts) (fun t _ q hq => ?_) (fun t _ hnone => ?_) run
  · -- A trigger on a page makes a term of its own, which is its question.
    obtain ⟨probe, hprobe, rfl⟩ := Option.map_eq_some_iff.1 hq
    have hasked : (t.term ts).isAsked v = true := by
      simp [Trigger.isAsked_term, Criterion.isAsked, hprobe, hurl]
    have hterm : t.term ts = .single t := by
      rw [Trigger.term, Group.of?_of_probe (by rw [hprobe]; rfl)]
    refine ⟨⟨_, if_pos hasked⟩, ?_⟩
    rw [hterm]
    show (do return t.finding (← t.criterion.examine p v)) = _
    rw [Criterion.examine_of_asked hprobe hurl hpage]
    rfl
  · have hprobe : t.criterion.probe? = none := Option.map_eq_none_iff.1 hnone
    have hnot : (t.term ts).isAsked v = false := by
      simp [Trigger.isAsked_term, Criterion.isAsked, hprobe]
    refine ⟨⟨_, if_neg (Bool.eq_false_iff.1 hnot)⟩, fun run => ?_⟩
    refine ((t.term ts).rel_resolve (R := Eq) (fun _ => rfl) .trans (fun u hu run => ?_) run).symm
    rw [Criterion.examine_of_not_asked (by simpa using List.any_eq_false.1 hnot u hu)]
    rfl

/-- What is asked beside the conditions are questions of their own. -/
theorem extraFindings_put (hpage : v.page = some page) (hurl : v.usableUrl? = some url)
    (s : Survey) (run : Run) :
    ((extraProbes s).map fun (label, probe) => PageQuestion.extra label probe).mapM
        (PageQuestion.put p page url) run =
      (pageEntries (extraSlots s v) (extraFindings p s v run).1, (extraFindings p s v run).2) := by
  have hput := mapM_put (p := p) (fun entry : String × Probe =>
      examineProbe p page url entry.1 entry.2)
    (fun entry => .asked (entry.1, .informational)) (fun entry => some (.extra entry.1 entry.2))
    (extraProbes s) (fun _ _ q hq => ⟨⟨_, rfl⟩, by cases hq; rfl⟩)
    (fun _ _ hnone => by cases hnone) run
  rw [extraSlots_of_url s hurl]
  unfold extraFindings
  rw [hpage, hurl, ← List.filterMap_eq_map]
  exact hput

/-- A diagnosis puts the questions of the survey, and the entries up to the page are theirs. -/
theorem diagnose_asks (hs : r.survey id = .ok s) (hts : r.triggers id = .ok ts)
    (hpage : v.page = some page) (hurl : v.usableUrl? = some url) (start : Run) :
    (questions s ts).mapM (·.put p page url) start =
      (pageEntries (outline r s ts v) (diagnose r p id v start).1.findings,
        (diagnose r p id v start).2) := by
  rw [diagnose_of_load_ok (load_eq_ok_iff.2 ⟨hs, hts⟩), questions, mapM_append_apply,
    terms_put hpage hurl, extraFindings_put hpage hurl]
  refine Prod.ext ?_ rfl
  have hchecks : ((checkFindings r s v).map Slot.known).length = (checkFindings r s v).length :=
    List.length_map _
  have hterms : ((openers [] ts).map fun t => (t.term ts).slot v).length =
      ((plan ts).mapM (·.resolve (·.examine p v)) start).1.length := by
    rw [length_mapM, plan_eq_map_openers, List.length_map, List.length_map]
  show _ = pageEntries (_ ++ _ ++ _) (_ ++ _ ++ _)
  rw [List.append_assoc, List.append_assoc, pageEntries_append hchecks, pageEntries_known,
    pageEntries_append hterms]
  rfl

/-! ### The end of a run -/

/-- Questions only move the run. -/
theorem put_reaches (qs : List PageQuestion) (run : Run) :
    p.Reaches page run (qs.mapM (·.put p page url) run).2 :=
  rel_mapM (R := p.Reaches page) (f := (·.put p page url)) (fun _ => .refl) .trans qs
    (fun _ _ _ => ProbePolicy.askFrom_reaches) run

/-- A question that begins when the run was found over, or would have been, ends with the reason. -/
theorem ProbePolicy.ask_of_reaches_over {mid began : Run} {call : PageCall}
    (h : p.Reaches page mid began) (hover : (p.over? mid).isSome = true) :
    ∃ e, p.ask page call began = (.error e, began.looked) ∧
      (e = if began.cancelled then .cancelled else .timeout p.overallTimeout.toNat) ∧
      (mid.cancelled = true → e = .cancelled) := by
  obtain ⟨-, hbegan, hcancelled⟩ := h.of_over hover
  obtain ⟨e, he⟩ := Option.isSome_iff_exists.1 hbegan
  have hreason := eq_of_over? he
  exact ⟨e, ask_of_over he page call, hreason, fun hmid => by rw [hreason, if_pos (hcancelled hmid)]⟩

end

/-- Nothing is asked of a page after a run is over, and what was asked before counts.

- No call is made without a page or without a URL to ask it at.
- A diagnosis moves the run from its start to its end. A run that its caller cancels, or whose calls
  take up the time, by some look is over from then on, for the one reason or the other.
- Wherever the run is over on its way, no call follows, and it is over at the end; where it is
  cancelled, it is cancelled at the end.
- A call that hangs, or that is given up because the run is cancelled, is the last call.
- The entries that are up to the page are those of the questions, in their order. An error leaves an
  entry open and is told in its message.
- A question that begins when the run is over is not put. It ends with the timeout of the policy, or
  with the cancellation, if the run is cancelled too.
- A question that begins in a run that is not over is put, and ends in one of the ways of
  `ProbePolicy.EndsAt`. So if the run comes to be over during the call, the reply to it still counts
  if there is one, and the question is given up with the reason if the call does not end or if an
  attempt would have to follow.
- A timeout or a cancellation that the page answers with is the end of that question alone, and the
  next question is put behind it, unless the run is over for another reason. -/
theorem diagnose_stops (r : Reads) (p : ProbePolicy) (id : SurveyId) (v : Visitor) (start : Run) :
    let report := (diagnose r p id v start).1
    let final := (diagnose r p id v start).2
    (v.page = none ∨ v.usableUrl? = none → final = start) ∧
    (∀ run e, p.over? run = some e →
      e = if run.cancelled then .cancelled else .timeout p.overallTimeout.toNat) ∧
    ∀ page, v.page = some page →
      p.Reaches page start final ∧
      (∀ mid n, p.Reaches page start mid → n ≤ mid.looks →
        (start.cancelledFrom = some n → p.over? mid = some .cancelled) ∧
        (start.lateFrom = some n → (p.over? mid).isSome = true)) ∧
      (∀ mid, p.Reaches page mid final → (p.over? mid).isSome = true →
        final.calls = mid.calls ∧ (p.over? final).isSome = true ∧
          (mid.cancelled = true → final.cancelled = true)) ∧
      (∀ reply later, page.Replied start final reply later → reply.endsRun = true →
        later = [] ∧ (p.over? final).isSome = true ∧
          (reply = .cancelled → final.cancelled = true)) ∧
      ∀ url s ts, v.usableUrl? = some url → r.survey id = .ok s → r.triggers id = .ok ts →
        let entries := pageEntries (outline r s ts v) report.findings
        entries.length = (questions s ts).length ∧
        ∀ before q after, questions s ts = before ++ q :: after →
          let call : PageCall := ⟨url, q.probe⟩
          let began := (before.mapM (·.put p page url) start).2
          let asked := p.ask page call began
          p.Reaches page start began ∧ p.Reaches page asked.2 final ∧
          entries[before.length]? = some (q.entry asked.1) ∧
          (∀ e, (q.entry (.error e)).outcome = .indeterminate s!"{q.topic}: {e.message}") ∧
          (∀ mid, p.Reaches page mid began → (p.over? mid).isSome = true →
            ∃ e, asked = (.error e, began.looked) ∧
              (e = if began.cancelled then .cancelled else .timeout p.overallTimeout.toNat) ∧
              (mid.cancelled = true → e = .cancelled)) ∧
          (p.over? began = none → ∃ k < p.attempts q.probe,
            (∀ i < k, (page.replyTo began.calls call i).IsOpen) ∧
              p.EndsAt page call began 1 (p.attempts q.probe) k asked) ∧
          ∀ e later, e.endsQuestion = true →
            page.Replied began asked.2 (.answered (.error e)) later →
            later = [] ∧ asked.1 = .error e ∧
              (asked.2.cancelled = false → asked.2.late = false →
                ∀ next ∈ after.head?, asked.2.calls ++ [⟨url, next.probe⟩] <+: final.calls) := by
  intro report final
  refine ⟨(diagnose_run_of_not_asked · start), fun run e => ProbePolicy.eq_of_over?,
    fun page hpage => ?_⟩
  have hreaches : p.Reaches page start final := diagnose_reaches hpage start
  refine ⟨hreaches, fun mid n hmid hle => ⟨fun hcaller => ?_, fun hlate => ?_⟩,
    fun mid hmid hover => hmid.of_over hover,
    fun reply later hreplied hends => hreaches.of_endsRun hreplied hends, ?_⟩
  · rw [ProbePolicy.over?, if_pos (hmid.cancelled_of_le hcaller hle)]
  · rw [Option.isSome_iff_ne_none, Ne, ProbePolicy.over?_eq_none_iff, hmid.late_of_le hlate hle]
    rintro ⟨-, hlate, -⟩
    cases hlate
  · intro url s ts hurl hs hts entries
    have hasks := diagnose_asks (p := p) hs hts hpage hurl start
    refine ⟨?_, fun before q after hquestions => ?_⟩
    · have hlength := length_mapM (f := (·.put p page url)) (questions s ts) start
      rw [hasks] at hlength
      exact hlength
    · intro call began asked
      rw [hquestions] at hasks
      -- What the questions behind this one do to the run.
      have hfinal : final = (after.mapM (·.put p page url) asked.2).2 := by
        rw [mapM_append_apply, mapM_cons_apply] at hasks
        exact (Prod.mk.inj hasks).2.symm
      refine ⟨put_reaches before start, ?_, ?_, q.outcome_entry_error,
        fun mid hmid hover => ProbePolicy.ask_of_reaches_over hmid hover,
        ProbePolicy.ask_endsAt page call,
        fun e later he hreplied => ?_⟩
      · rw [hfinal]
        exact put_reaches after asked.2
      · have hentry := getElem?_mapM_append_cons (·.put p page url) before after q start
        rw [hasks] at hentry
        exact hentry
      · obtain ⟨hlast, herror, htime⟩ := ProbePolicy.ask_of_answered he hreplied
        refine ⟨hlast, herror, fun hcancelled hlate next hnext => ?_⟩
        obtain ⟨rest, rfl⟩ := List.head?_eq_some_iff.1 hnext
        have halive : p.over? asked.2 = none :=
          ProbePolicy.over?_eq_none_iff.2 ⟨hcancelled, hlate, htime⟩
        -- What is asked behind the next question only adds to its calls.
        rw [hfinal, mapM_cons_apply]
        exact (ProbePolicy.calls_ask halive).trans (put_reaches rest _).keeps_calls

/-! ### An inline survey on pages that do not answer -/

/-- A page that answers the first call with a cancellation and hangs at the second. -/
def fadingPage : Page := fun calls _ =>
  if calls.isEmpty then .answered (.error .cancelled) else .hung

/-- The cancellation is no more than the answer to the question about the promotion, so the tag is
asked about. That call hangs, and the place of the survey is not asked about any more: its entry tells
of the timeout. -/
theorem diagnose_stops_inline :
    let v := promoVisitor.on fadingPage
    let diagnosis := diagnose inlineStore.reads promoPolicy ⟨1⟩ v (Run.start false)
    let slots := outline inlineStore.reads inlineSurvey (inlineStore.triggersOf ⟨1⟩) v
    diagnosis.2.calls = [⟨"site.com", .visible "#promo"⟩, ⟨"site.com", .tag⟩] ∧
      ((pageEntries slots diagnosis.1.findings)[2]?.map Finding.outcome) =
        some (.indeterminate "present(#survey): Operation timed out after 10000ms") := by
  intro v diagnosis slots
  obtain ⟨-, -, hpage⟩ := diagnose_stops inlineStore.reads promoPolicy ⟨1⟩ v (Run.start false)
  obtain ⟨-, -, -, hlast, hquestions⟩ := hpage fadingPage rfl
  obtain ⟨-, hquestion⟩ :=
    hquestions "site.com" inlineSurvey (inlineStore.triggersOf ⟨1⟩) rfl rfl rfl
  obtain ⟨-, -, -, -, -, -, hanswered⟩ := hquestion [] _ _ rfl
  obtain ⟨-, -, hentry, hopen, hover, -, -⟩ := hquestion [_, _] _ [] rfl
  constructor
  · obtain ⟨-, -, hnext⟩ :=
      hanswered .cancelled [] rfl ⟨[], ⟨"site.com", .visible "#promo"⟩, rfl, rfl⟩
    obtain ⟨later, hcalls⟩ := hnext rfl rfl _ rfl
    -- Whatever is asked after the tag, there is nothing.
    obtain ⟨rfl, -⟩ := hlast .hung later ⟨[⟨"site.com", .visible "#promo"⟩], ⟨"site.com", .tag⟩,
      hcalls.symm, rfl⟩ rfl
    exact hcalls.symm
  · obtain ⟨e, hasked, hreason, -⟩ := hover _ .refl rfl
    obtain rfl : e = promoPolicy.timeoutError := hreason
    rw [hasked] at hentry
    refine (congrArg (Option.map Finding.outcome) hentry).trans ?_
    rw [Option.map_some, hopen]
    rfl

/-- A page that has not settled at the first call and hangs at the second. -/
def stallingPage : Page := fun calls _ =>
  if calls.isEmpty then .answered (.ok .pending) else .hung

/-- Not every entry that is open at the end of a run that is over tells why the run is over, and a run
that is cancelled during a call may still decide the entry of the call.

- The question about the promotion ends before a call hangs, and its entry stays open with an error of
  its own.
- The run is cancelled during the call about the promotion, by the second look. The call finds the
  promotion, which decides the entry. -/
theorem diagnose_stops_otherwise :
    let p : ProbePolicy := ⟨1, 1000, 10000⟩
    let v := promoVisitor
    let slots := outline inlineStore.reads inlineSurvey (inlineStore.triggersOf ⟨1⟩) v
    let stalled := diagnose inlineStore.reads p ⟨1⟩ (v.on stallingPage) (Run.start false)
    let stopped := diagnose inlineStore.reads p ⟨1⟩
      (v.on (Page.fixed fun _ => .ok (.found true)))
      { Run.start false with cancelledFrom := some 1 }
    (stallingPage [⟨"site.com", .visible "#promo"⟩] ⟨"site.com", .tag⟩ = .hung ∧
      (pageEntries slots stalled.1.findings).map Finding.outcome =
        [.indeterminate ("Is the page element visible: DOM query failed: " ++
          "visible(#promo) did not settle after 1 attempt(s)"),
        .indeterminate "tag: Operation timed out after 10000ms",
        .indeterminate "present(#survey): Operation timed out after 10000ms"]) ∧
    stopped.2.calls = [⟨"site.com", .visible "#promo"⟩] ∧
      (pageEntries slots stopped.1.findings).map Finding.outcome =
        [.ofBool false "element #promo visible",
        .indeterminate "tag: Operation cancelled by caller",
        .indeterminate "present(#survey): Operation cancelled by caller"] := by
  intro p v slots stalled stopped
  exact ⟨⟨rfl, by decide +kernel⟩, by decide +kernel, by decide +kernel⟩

end SurveyGate

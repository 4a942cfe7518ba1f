import PacketHeaders.Proofs.Refusals.Calls
import PacketHeaders.Session

/-!
# Scripts without their refused steps

After a call that was refused a session goes on with the draft that the call left, and that is the
draft which it found, since calls check before they write. Otherwise a step that is refused may at
most have the steps passed over that were meant for a draft that could not be begun. So a script may
be purged: without the steps that were refused or passed over, it leads to the same frame and the
same drafts, and all the steps that are left answer what they answered.
-/

namespace PacketHeaders

def Outcome.taken (outcome : Outcome) : Bool := outcome.answer.isOk

namespace Session

/-- The same frame and drafts with no steps to pass over. -/
def awake (s : Session) : Session := { s with skipping := 0 }

/-- The state that a script leads to, before the drafts that are still open are closed. -/
def after (s : Session) (steps : List Step) : Session :=
  steps.foldl (fun s t => (s.step t).1) s

/-- The steps of a script that are neither refused nor passed over. -/
def accepted (s : Session) : List Step → List Step
  | [] => []
  | t :: ts =>
    if (s.step t).2.any Outcome.taken then t :: (s.step t).1.accepted ts
    else (s.step t).1.accepted ts

/-- What can come of one step: it is passed over, it is refused, or it is taken. Only a step that is
taken changes the frame or the drafts, and only an awake session takes it, and stays awake. -/
inductive Moves (s : Session) : Session × Option Outcome → Prop
  | passed {s' : Session} (same : s'.awake = s.awake) : Moves s (s', none)
  | refused {s' : Session} {outcome : Outcome} (same : s'.awake = s.awake)
      (error : outcome.taken = false) : Moves s (s', some outcome)
  | taken {s' : Session} {outcome : Outcome} (before : s.awake = s) (behind : s'.awake = s')
      (ok : outcome.taken = true) : Moves s (s', some outcome)

theorem taken_report (s : Session) (answer : Except Refusal Answer) :
    (s.report answer).taken = answer.isOk :=
  congrArg Except.isOk (s.answer_report answer)

theorem moves_say_error {s s' : Session} (h : s'.awake = s.awake) (refusal : Refusal) :
    s.Moves (s'.say (.error refusal)) :=
  .refused h (s'.taken_report _)

theorem moves_say_ok {s s' : Session} (hs : s.awake = s) (hs' : s'.awake = s') (answer : Answer) :
    s.Moves (s'.say (.ok answer)) :=
  .taken hs hs' (s'.taken_report _)

section Awake

variable (frame : List UInt8) (drafts : List Draft)

theorem moves_say (answer : Except Refusal Answer) :
    Moves ⟨frame, drafts, 0⟩ (say ⟨frame, drafts, 0⟩ answer) := by
  cases answer with
  | error refusal => exact moves_say_error rfl refusal
  | ok answer => exact moves_say_ok rfl rfl answer

theorem moves_goInside (draft : Except Refusal Draft) :
    Moves ⟨frame, drafts, 0⟩ (goInside ⟨frame, drafts, 0⟩ draft) := by
  cases draft with
  | error refusal =>
    refine moves_say_error ?_ refusal
    rfl
  | ok d => exact moves_say_ok rfl rfl .opened

theorem moves_close : Moves ⟨frame, drafts, 0⟩ (close ⟨frame, drafts, 0⟩) := by
  match drafts with
  | [] => exact moves_say_error rfl _
  | [d] => exact moves_say_ok rfl rfl _
  | d :: outer :: rest => exact moves_say_ok rfl rfl _

theorem moves_atRoot (t : Step) : Moves ⟨frame, [], 0⟩ (atRoot ⟨frame, [], 0⟩ t) := by
  unfold atRoot
  split
  · exact moves_say_ok rfl rfl _
  all_goals exact moves_say ..

section Call

variable {frame : List UInt8} {d d' : Draft} {outer : List Draft} {reading : Reading}

theorem step_call_of_ok {reply : Reply} (h : d.call reading = .ok reply d') :
    step ⟨frame, d :: outer, 0⟩ (.call reading) =
      say ⟨frame, d' :: outer, 0⟩ (.ok (.reply reply)) := by
  simp only [step, beginning?, atDraft, h]
  rfl

/-- After a call that is refused the session goes on with the draft that it had. -/
theorem step_call_of_error {refusal : Refusal} (h : d.call reading = .error refusal d') :
    step ⟨frame, d :: outer, 0⟩ (.call reading) =
      say ⟨frame, d :: outer, 0⟩ (.error refusal) := by
  have hunchanged := Draft.call_checksFirst reading h
  simp only [step, beginning?, atDraft, h, EStateM.Result.state, hunchanged]
  rfl

end Call

theorem moves_call (d : Draft) (outer : List Draft) (reading : Reading) :
    Moves ⟨frame, d :: outer, 0⟩ (step ⟨frame, d :: outer, 0⟩ (.call reading)) := by
  cases h : d.call reading with
  | error refusal d' =>
    rw [step_call_of_error h]
    exact moves_say_error rfl refusal
  | ok reply d' =>
    rw [step_call_of_ok h]
    exact moves_say_ok rfl rfl _

theorem moves_atDraft (d : Draft) (outer : List Draft) (t : Step) :
    Moves ⟨frame, d :: outer, 0⟩ (atDraft ⟨frame, d :: outer, 0⟩ d outer t) := by
  unfold atDraft
  split
  · exact moves_say ..
  · exact moves_say ..
  · exact moves_call ..
  · exact moves_say ..

end Awake

theorem moves_skip (s : Session) (t : Step) : s.Moves (s.skip t, none) :=
  .passed (by cases t <;> rfl)

theorem moves_step (s : Session) (t : Step) : s.Moves (s.step t) := by
  obtain ⟨frame, drafts, skipping⟩ := s
  unfold step
  split
  · exact moves_skip ..
  · next hawake =>
    obtain rfl : skipping = 0 := Decidable.not_not.mp hawake
    split
    · exact moves_goInside ..
    · split
      · exact moves_close ..
      · next hdrafts _ =>
        cases hdrafts
        exact moves_atRoot ..
      · next hdrafts _ =>
        cases hdrafts
        exact moves_atDraft ..

variable {s s' : Session} {t : Step} {outcome? : Option Outcome}

theorem after_cons (h : s.step t = (s', outcome?)) (ts : List Step) :
    s.after (t :: ts) = s'.after ts := by
  rw [after, List.foldl_cons, h]
  rfl

theorem run_cons (h : s.step t = (s', outcome?)) (ts : List Step) :
    s.run (t :: ts) = ((s'.run ts).1, outcome?.toList ++ (s'.run ts).2) := by
  rw [run, h]

theorem accepted_cons (h : s.step t = (s', outcome?)) (ts : List Step) :
    s.accepted (t :: ts) =
      if outcome?.any Outcome.taken then t :: s'.accepted ts else s'.accepted ts := by
  rw [accepted, h]

theorem after_accepted (s : Session) (steps : List Step) :
    s.awake.after (s.accepted steps) = (s.after steps).awake := by
  induction steps generalizing s with
  | nil => rfl
  | cons t ts ih =>
    have hmoves := s.moves_step t
    generalize hstep : s.step t = moved at hmoves
    cases hmoves with
    | passed hsame =>
      rw [after_cons hstep, accepted_cons hstep, ← ih, hsame]
      rfl
    | refused hsame herror =>
      rw [after_cons hstep, accepted_cons hstep, ← ih, hsame, Option.any_some, herror]
      rfl
    | taken hbefore hbehind hok =>
      rw [after_cons hstep, accepted_cons hstep, ← ih, hbehind, Option.any_some, hok, if_pos rfl,
        hbefore, after_cons hstep]

theorem close_of_open {s : Session} (h : s.drafts ≠ []) :
    ∃ s' outcome, s.close = (s', some outcome) ∧ s.awake.close = (s'.awake, some outcome) ∧
      outcome.taken = true ∧ s'.drafts.length + 1 = s.drafts.length := by
  obtain ⟨frame, drafts, skipping⟩ := s
  match drafts with
  | [] => exact absurd rfl h
  | [d] => exact ⟨_, _, rfl, rfl, rfl, rfl⟩
  | d :: outer :: rest => exact ⟨_, _, rfl, rfl, rfl, rfl⟩

/-- `finish` goes through as many closing steps as there are drafts open, so it suffices to count
the elements of a list. -/
theorem foldl_close_awake (ds : List Draft) (s : Session) (done : List Outcome)
    (h : s.drafts.length = ds.length) :
    let closing := fun (p : Session × List Outcome) (_ : Draft) =>
      (p.1.close.1, p.2 ++ p.1.close.2.toList)
    ds.foldl closing (s.awake, done.filter Outcome.taken) =
      ((ds.foldl closing (s, done)).1.awake,
        (ds.foldl closing (s, done)).2.filter Outcome.taken) := by
  intro closing
  induction ds generalizing s done with
  | nil => rfl
  | cons d ds ih =>
    have hopen : s.drafts ≠ [] := by
      rw [← List.length_pos_iff, h]
      exact Nat.succ_pos _
    obtain ⟨s', outcome, hclose, hawake, hok, hlength⟩ := close_of_open hopen
    have hdone : done.filter Outcome.taken ++ [outcome] =
        (done ++ [outcome]).filter Outcome.taken := by
      rw [List.filter_append, List.filter_cons_of_pos hok, List.filter_nil]
    rw [List.foldl_cons, List.foldl_cons]
    simp only [closing, hclose, hawake, Option.toList_some, hdone]
    exact ih s' (done ++ [outcome]) (by rw [List.length_cons] at h; omega)

theorem finish_awake (s : Session) :
    s.awake.finish = (s.finish.1.awake, s.finish.2.filter Outcome.taken) :=
  foldl_close_awake s.drafts s [] rfl

theorem run_accepted (s : Session) (steps : List Step) :
    s.awake.run (s.accepted steps) =
      ((s.run steps).1.awake, (s.run steps).2.filter Outcome.taken) := by
  induction steps generalizing s with
  | nil => exact s.finish_awake
  | cons t ts ih =>
    have hmoves := s.moves_step t
    generalize hstep : s.step t = moved at hmoves
    cases hmoves with
    | passed hsame =>
      rw [run_cons hstep, accepted_cons hstep, ← hsame]
      exact ih _
    | @refused s' outcome hsame herror =>
      -- The step is purged on one side and its outcome is filtered out on the other.
      have hrun : s.awake.run (s.accepted (t :: ts)) = s'.awake.run (s'.accepted ts) := by
        rw [accepted_cons hstep, Option.any_some, herror, hsame]
        rfl
      have hfilter : (outcome :: (s'.run ts).2).filter Outcome.taken =
          (s'.run ts).2.filter Outcome.taken :=
        List.filter_cons_of_neg (by rw [herror]; exact Bool.false_ne_true)
      rw [hrun, ih s', run_cons hstep, ← hfilter]
      rfl
    | @taken s' outcome hbefore hbehind hok =>
      have hrun : s.awake.run (s.accepted (t :: ts)) =
          ((s'.awake.run (s'.accepted ts)).1, outcome :: (s'.awake.run (s'.accepted ts)).2) := by
        rw [accepted_cons hstep, Option.any_some, hok, if_pos rfl, hbefore, run_cons hstep, hbehind]
        rfl
      have hfilter : (outcome :: (s'.run ts).2).filter Outcome.taken =
          outcome :: (s'.run ts).2.filter Outcome.taken := List.filter_cons_of_pos hok
      rw [hrun, ih s', run_cons hstep, ← hfilter]
      rfl

/-- A script is purged of its refused steps without a trace: the drafts that are open in the end,
the frame and all other answers stay the same. A call to a draft is refused for exactly the reasons
given by `Draft.refusal?`, and so is a new draft behind it, or anywhere in the frame; and whatever
the call would have written, the draft that it leaves is the draft that it found. -/
theorem refused_steps_are_invisible (s : Session) (steps : List Step) :
    (s.awake.after (s.accepted steps) = (s.after steps).awake ∧
      s.awake.run (s.accepted steps) =
        ((s.run steps).1.awake, (s.run steps).2.filter Outcome.taken)) ∧
      (∀ (reading : Reading) (d : Draft),
        (d.call reading).answer.error? = d.refusal? reading ∧
        ∀ refusal d', d.call reading = .error refusal d' → d' = d) ∧
      (∀ (d : Draft) (layer : Layer), (d.next layer).error? = d.nextRefusal? layer) ∧
      ∀ (layer : Layer) (frame : List UInt8) (start : Nat),
        (Draft.place layer frame start).error? = Draft.placeRefusal? layer frame.length start :=
  ⟨⟨s.after_accepted steps, s.run_accepted steps⟩,
    fun reading d => ⟨(d.decided_call reading).error?_eq,
      fun _ _ => (d.decided_call reading).unchanged⟩,
    Draft.error?_next, Draft.error?_place⟩

/-- A type that is refused over the code of another, and a payload that is too long by an octet: the
checksum is the one of the redirection with the shorter payload. -/
theorem refused_steps_are_invisible_in_a_redirection :
    let icmp (c : Icmp.Call) : Reading := ⟨none, none, some c, none⟩
    let s := start (List.replicate 12 0)
    let steps : List Step :=
      [.begin .icmp 0, .call (icmp (.edit (.type .redirect))),
       .call (icmp (.edit (.type .timeExceeded))),
       .call (icmp (.edit (.payload [1, 2, 3, 4, 5]))),
       .call (icmp (.edit (.payload [1, 2, 3, 4]))), .call (icmp .storeChecksum)]
    let purged : List Step :=
      [.begin .icmp 0, .call (icmp (.edit (.type .redirect))),
       .call (icmp (.edit (.payload [1, 2, 3, 4]))), .call (icmp .storeChecksum)]
    let d : Icmp.Draft := .ofWindow ⟨⟨[5, 0, 0, 0, 0, 0, 0, 0], 0⟩, by decide⟩
    s.awake.after purged = (s.after steps).awake ∧
      ∃ refusal d', (Draft.icmp d).call (icmp (.edit (.type .timeExceeded))) = .error refusal d' ∧
        d' = .icmp d := by
  intro icmp s steps purged d
  have hpurged : s.accepted steps = purged := by decide +kernel
  obtain ⟨⟨hafter, -⟩, hcall, -⟩ := refused_steps_are_invisible s steps
  rw [hpurged] at hafter
  refine ⟨hafter, _, _, rfl, ?_⟩
  exact (hcall (icmp (.edit (.type .timeExceeded))) (.icmp d)).2 _ _ rfl

end Session

end PacketHeaders

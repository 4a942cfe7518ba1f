import PacketHeaders.Session
import PacketHeaders.Proofs.Outcome

/-!
# Scripts that succeed

`Goes` says that every step of a script is taken and answered without a refusal, and where the
session is afterwards. A script that goes and closes what it opened ends there. The steps of one
draft are its calls, and the edits of a draft go as a script whenever the draft accepts them one
after the other.
-/

namespace PacketHeaders

/-- The step answered, and not with a refusal. -/
def Outcome.Succeeded (o : Outcome) : Prop := ∃ answer, o.answer = .ok answer

namespace Step

def ethernet (e : Ethernet.Edit) : Step := .call ⟨some e, none, none, none⟩

def ipv4 (c : Ipv4.Call) : Step := .call ⟨none, some c, none, none⟩

def icmp (c : Icmp.Call) : Step := .call ⟨none, none, some c, none⟩

def udp (c : Udp.Call) : Step := .call ⟨none, none, none, some c⟩

end Step

namespace Session

/-- Every step of a script answers, and none with a refusal. -/
def Completes (s : Session) (steps : List Step) : Prop :=
  (s.run steps).2.length = steps.length ∧ ∀ o ∈ (s.run steps).2, o.Succeeded

inductive Goes : Session → List Step → Session → Prop
  | nil (s : Session) : Goes s [] s
  | cons {s mid s' : Session} {step : Step} {steps : List Step} {o : Outcome}
      (taken : s.step step = (mid, some o)) (succeeded : o.Succeeded) (rest : Goes mid steps s') :
      Goes s (step :: steps) s'

variable {s mid s' : Session} {steps steps' : List Step}

theorem Goes.append (h : Goes s steps mid) (h' : Goes mid steps' s') :
    Goes s (steps ++ steps') s' := by
  induction h with
  | nil => exact h'
  | cons taken succeeded _ ih => exact .cons taken succeeded (ih h')

/-- With no draft left open, a script that goes completes and ends where it leads. -/
theorem Goes.run (h : Goes s steps s') (hclosed : s'.drafts = []) :
    (s.run steps).1 = s' ∧ s.Completes steps := by
  induction h with
  | nil s =>
    have hfinish : s.finish = (s, []) := by rw [finish, hclosed]; rfl
    simp [Completes, Session.run, hfinish]
  | @cons s mid s' step steps o taken succeeded _ ih =>
    obtain ⟨hend, hlength, hall⟩ := ih hclosed
    have hrun : s.run (step :: steps) = ((mid.run steps).1, o :: (mid.run steps).2) := by
      simp [Session.run, taken]
    rw [Completes, hrun]
    refine ⟨hend, congrArg (· + 1) hlength, ?_⟩
    intro o' ho'
    rcases List.mem_cons.mp ho' with rfl | ho'
    · exact succeeded
    · exact hall o' ho'

theorem Goes.one {step : Step} {answer : Answer} (taken : s.step step = s'.say (.ok answer)) :
    Goes s [step] s' :=
  .cons taken ⟨answer, s'.answer_report _⟩ (.nil _)

variable {frame : List UInt8} {d d' outer : Draft} {drafts : List Draft} {layer : Layer}

theorem goes_begin {start : Nat} (h : Draft.place layer frame start = .ok d) :
    Goes ⟨frame, [], 0⟩ [.begin layer start] ⟨frame, [d], 0⟩ := by
  apply Goes.one
  simp only [step, beginning?, h]
  rfl

theorem goes_enter (h : d.next layer = .ok d') :
    Goes ⟨frame, d :: drafts, 0⟩ [.enter layer] ⟨frame, d' :: d :: drafts, 0⟩ := by
  apply Goes.one
  simp only [step, beginning?, h]
  rfl

theorem goes_call {reading : Reading} {reply : Reply} (h : d.call reading = .ok reply d') :
    Goes ⟨frame, d :: drafts, 0⟩ [.call reading] ⟨frame, d' :: drafts, 0⟩ := by
  apply Goes.one
  simp only [step, beginning?, atDraft, h]
  rfl

theorem goes_close :
    Goes ⟨frame, d :: outer :: drafts, 0⟩ [.close] ⟨frame, outer.resume d.bytes :: drafts, 0⟩ :=
  .one rfl

/-- Closing the last draft puts its frame in place. -/
theorem goes_close_last : Goes ⟨frame, [d], 0⟩ [.close] ⟨d.bytes, [], 0⟩ :=
  .one rfl

/-- Edits that are accepted one after the other go as a script of calls. -/
theorem goes_edits {δ ε : Type} {edit : ε → Writing δ Unit} (wrap : δ → Draft)
    {reading : ε → Reading}
    (hcall : ∀ {d e d'}, edit e d = .ok () d' →
      (wrap d).call (reading e) = .ok .nothing (wrap d'))
    {d d' : δ} {es : List ε} (h : es.forM edit d = .ok () d') :
    Goes ⟨frame, wrap d :: drafts, 0⟩ (es.map fun e => .call (reading e))
      ⟨frame, wrap d' :: drafts, 0⟩ := by
  induction es generalizing d with
  | nil =>
    cases h
    exact .nil _
  | cons e es ih =>
    obtain ⟨mid, hmid, hrest⟩ := Writing.forM_cons_eq_ok_iff.mp h
    exact (goes_call (hcall hmid)).append (ih hrest)

theorem goes_ethernet {d d' : Ethernet.Draft} {es : List Ethernet.Edit}
    (h : es.forM Ethernet.Draft.edit d = .ok () d') :
    Goes ⟨frame, .ethernet d :: drafts, 0⟩ (es.map Step.ethernet)
      ⟨frame, .ethernet d' :: drafts, 0⟩ := by
  refine goes_edits Draft.ethernet ?_ h
  intro d e d' he
  simp only [Draft.call, Draft.call.answer, answered_eq, he]
  rfl

theorem goes_ipv4 {d d' : Ipv4.Draft} {es : List Ipv4.Edit}
    (h : es.forM Ipv4.Draft.edit d = .ok () d') :
    Goes ⟨frame, .ipv4 d :: drafts, 0⟩ (es.map fun e => .ipv4 (.edit e))
      ⟨frame, .ipv4 d' :: drafts, 0⟩ := by
  refine goes_edits Draft.ipv4 ?_ h
  intro d e d' he
  simp only [Draft.call, Draft.call.answer, Ipv4.Draft.call, answered_eq, he]
  rfl

theorem goes_icmp {d d' : Icmp.Draft} {es : List Icmp.Edit}
    (h : es.forM Icmp.Draft.edit d = .ok () d') :
    Goes ⟨frame, .icmp d :: drafts, 0⟩ (es.map fun e => .icmp (.edit e))
      ⟨frame, .icmp d' :: drafts, 0⟩ := by
  refine goes_edits Draft.icmp ?_ h
  intro d e d' he
  simp only [Draft.call, Draft.call.answer, Icmp.Draft.call, answered_eq, he]
  rfl

theorem goes_udp {d d' : Udp.Draft} {es : List Udp.Edit}
    (h : es.forM Udp.Draft.edit d = .ok () d') :
    Goes ⟨frame, .udp d :: drafts, 0⟩ (es.map fun e => .udp (.edit e))
      ⟨frame, .udp d' :: drafts, 0⟩ := by
  refine goes_edits Draft.udp ?_ h
  intro d e d' he
  simp only [Draft.call, Draft.call.answer, Udp.Draft.call, answered_eq, he]
  rfl

end Session

end PacketHeaders

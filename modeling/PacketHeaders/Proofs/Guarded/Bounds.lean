import PacketHeaders.Proofs.Guarded.Shared
import PacketHeaders.Proofs.Ledger.Drafts

/-!
# Drafts stay in bounds

How long the payload of an open draft is follows from the steps that were taken: a draft is begun
without one, and only a payload that is accepted changes its length. Whatever the frame holds and
whatever the script is, header and payload of every open draft lie inside the frame, and nothing
that a draft can be told or asked leaves the frame or falls below zero.
-/

namespace PacketHeaders

namespace Icmp

/-- The payload that a call gives to a message. -/
def Call.payload? : Call → Option (List UInt8)
  | edit e => e.payload?
  | _ => none

theorem Draft.payload_call {d d' : Draft} {c : Call} {reply : Reply}
    (h : d.call c = .ok reply d') : d'.payload = c.payload?.getD d.payload := by
  cases c with
  | edit e => exact payload_edit (edit_of_answered h)
  | defaultChecksum =>
    cases h
    rfl
  | storeChecksum =>
    cases h
    exact d.toMessage.payload_put ..

end Icmp

namespace Udp

/-- The payload that a call gives to a datagram. -/
def Call.payload? : Call → Option (List UInt8)
  | edit e => e.payload?
  | _ => none

theorem Draft.payload_call {d d' : Draft} {c : Call} {reply : Reply}
    (h : d.call c = .ok reply d') : d'.payload = c.payload?.getD d.payload := by
  cases c with
  | edit e => exact payload_edit (edit_of_answered h)
  | datagramLength | defaultChecksum | transportChecksum =>
    cases h
    rfl
  | storeChecksum | storeTransportChecksum =>
    cases h
    exact d.toMessage.payload_put ..

end Udp

/-- The level of the drafts of a layer. -/
def Layer.level : Layer → Level
  | ethernet => .ethernet
  | ipv4 => .ipv4
  | icmp => .icmp
  | udp => .udp
  | arp | tcp | other => .root

/-- The payload that a call gives to a draft of a level. -/
def Reading.payload? (reading : Reading) : Level → Option (List UInt8)
  | .icmp => reading.icmp.bind Icmp.Call.payload?
  | .udp => reading.udp.bind Udp.Call.payload?
  | .root | .ethernet | .ipv4 => none

/-- The levels of the open drafts and the lengths of their payloads, after a step that is taken. -/
def Step.lengths (lengths : List (Level × Nat)) : Step → List (Level × Nat)
  | begin layer _ | enter layer => (layer.level, 0) :: lengths
  | close => lengths.tail
  | call reading =>
    match lengths with
    | [] => []
    | (level, n) :: outer =>
      (level, ((reading.payload? level).map List.length).getD n) :: outer
  | _ => lengths

theorem Message.payloadLength_of_payload {m m' : Message} {payload? : Option (List UInt8)}
    (h : m'.payload = payload?.getD m.payload) :
    m'.payloadLength = (payload?.map List.length).getD m.payloadLength := by
  rw [← m'.length_payload, ← m.length_payload, h]
  cases payload? <;> rfl

namespace Draft

def length (d : Draft) : Level × Nat := (d.mark.level, d.mark.payloadLength)

theorem length_of_place {layer : Layer} {frame : List UInt8} {start : Nat} {d : Draft}
    (h : place layer frame start = .ok d) : d.length = (layer.level, 0) := by
  have hmark : Mark.place layer frame start = .ok d.mark := by
    rw [place_mark, h]
    rfl
  cases layer with
  | ethernet | ipv4 | icmp | udp =>
    obtain ⟨w, -, hfresh⟩ := Refusal.lift_eq_ok_iff.mp hmark
    rw [length, ← hfresh]
    rfl
  | arp | tcp | other => cases hmark

theorem length_of_next {d d' : Draft} {layer : Layer} (h : d.next layer = .ok d') :
    d'.length = (layer.level, 0) := by
  unfold next at h
  split at h
  · obtain ⟨_, -, rfl⟩ := Refusal.lift_eq_ok_iff.mp h
    rfl
  · obtain ⟨_, hicmp, rfl⟩ := Refusal.lift_eq_ok_iff.mp h
    obtain ⟨w, -, rfl⟩ := Except.map_eq_ok_iff.mp hicmp
    rfl
  · obtain ⟨_, hudp, rfl⟩ := Refusal.lift_eq_ok_iff.mp h
    obtain ⟨w, -, rfl⟩ := Except.map_eq_ok_iff.mp hudp
    rfl
  · cases h

theorem length_of_call {d d' : Draft} {reading : Reading} {reply : Reply}
    (h : d.call reading = .ok reply d') :
    d'.length = (d.length.1, ((reading.payload? d.length.1).map List.length).getD d.length.2) := by
  cases d with
  | ethernet d | ipv4 d =>
    obtain ⟨_, _, -, -, rfl⟩ := answer_eq_ok h
    rfl
  | icmp d =>
    obtain ⟨c, d', hc, hcall, rfl⟩ := answer_eq_ok h
    have hpayload : reading.payload? .icmp = c.payload? := by
      rw [Reading.payload?, hc, Option.bind_some]
    have hlength := Message.payloadLength_of_payload (Icmp.Draft.payload_call hcall)
    rw [← hpayload] at hlength
    exact congrArg (Prod.mk Level.icmp) hlength
  | udp d =>
    obtain ⟨c, d', hc, hcall, rfl⟩ := answer_eq_ok h
    have hpayload : reading.payload? .udp = c.payload? := by
      rw [Reading.payload?, hc, Option.bind_some]
    have hlength := Message.payloadLength_of_payload (Udp.Draft.payload_call hcall)
    rw [← hpayload] at hlength
    exact congrArg (Prod.mk Level.udp) hlength

end Draft

namespace Session

theorem lengths_goInside {s : Session} {d? : Except Refusal Draft} {level : Level}
    (hlevel : ∀ d, d? = .ok d → d.length = (level, 0))
    (h : (s.goInside d?).2.any Outcome.taken = true) :
    (s.goInside d?).1.drafts.map Draft.length = (level, 0) :: s.drafts.map Draft.length := by
  cases d? with
  | error refusal =>
    change (report _ (.error refusal)).taken = true at h
    rw [taken_report] at h
    cases h
  | ok d => exact congrArg (· :: _) (hlevel d rfl)

theorem lengths_step (s : Session) (t : Step) (h : (s.step t).2.any Outcome.taken = true) :
    (s.step t).1.drafts.map Draft.length = t.lengths (s.drafts.map Draft.length) := by
  obtain ⟨frame, drafts, skipping⟩ := s
  by_cases hskip : skipping = 0
  · subst hskip
    cases drafts with
    | nil =>
      cases t with
      | begin layer start => exact lengths_goInside (fun _ => Draft.length_of_place) h
      | enter layer => cases h
      | walk origin => cases origin <;> rfl
      | close | poke | frame | dissect | header | call => rfl
    | cons d outer =>
      cases t with
      | begin layer start => cases h
      | enter layer => exact lengths_goInside (fun _ => Draft.length_of_next) h
      | close =>
        cases outer with
        | nil => rfl
        | cons o rest =>
          have hsame : (o.resume d.bytes).length = o.length := by
            rw [Draft.length, Draft.mark_resume, Draft.length]
          exact congrArg (· :: _) hsame
      | call reading =>
        cases hcall : d.call reading with
        | error refusal d' =>
          rw [step_call_of_error hcall] at h
          cases h
        | ok reply d' =>
          rw [step_call_of_ok hcall]
          exact congrArg (· :: _) (Draft.length_of_call hcall)
      | poke | frame | dissect | walk | header => rfl
  · rw [step_of_skipping hskip] at h
    cases h

theorem drafts_of_awake {s s' : Session} (h : s'.awake = s.awake) : s'.drafts = s.drafts := by
  have hdrafts := congrArg Session.drafts h
  exact hdrafts

theorem lengths_after (s : Session) (steps : List Step) :
    (s.after steps).drafts.map Draft.length =
      (s.accepted steps).foldl Step.lengths (s.drafts.map Draft.length) := by
  induction steps generalizing s with
  | nil => rfl
  | cons t ts ih =>
    have hlengths := s.lengths_step t
    have hmoves := s.moves_step t
    generalize hstep : s.step t = moved at hlengths hmoves
    cases hmoves with
    | @passed s' hsame =>
      rw [after_cons hstep, accepted_cons hstep, ih, drafts_of_awake hsame]
      rfl
    | @refused s' outcome hsame herror =>
      rw [after_cons hstep, accepted_cons hstep, ih, drafts_of_awake hsame, Option.any_some,
        herror]
      rfl
    | @taken s' outcome _ _ hok =>
      rw [after_cons hstep, accepted_cons hstep, ih, hlengths hok, Option.any_some, hok, if_pos rfl,
        List.foldl_cons]

/-- Run over one shared frame, no step of any script fails, and it leads where the session leads.
The payload of each open draft is as long as the last one that was accepted since it was begun, each
draft lies in the frame with its payload, and all that can be done at it can be done there. -/
theorem drafts_stay_in_bounds (frame : List UInt8) (steps : List Step) :
    let s := (start frame).after steps
    (Shared.start frame).after? steps = some s.shared ∧
      s.shared.marks.map (fun m => (m.level, m.payloadLength)) =
        ((start frame).accepted steps).foldl Step.lengths [] ∧
      ∀ d ∈ s.drafts, d.Workable s.shared.frame := by
  intro s
  have hn : Draft.Nested s.drafts := nested_after frame steps
  refine ⟨after?_shared frame steps, ?_, fun d hd => Draft.workable _ ?_⟩
  · rw [shared, List.map_map]
    exact lengths_after (start frame) steps
  · cases hdrafts : s.drafts with
    | nil =>
      rw [hdrafts] at hd
      cases hd
    | cons inner outer =>
      rw [hdrafts] at hd hn
      change s.octets.length = d.bytes.length
      rw [octets_of_drafts hdrafts]
      rcases List.mem_cons.mp hd with rfl | houter
      · rfl
      · exact (hn.encloses_of_mem d houter).length_eq

/-- A payload that would run past the frame is refused, the next one just fits, and the length field
is free to say anything. -/
theorem drafts_stay_in_bounds_to_the_last_octet :
    let s := (start (List.replicate 30 0xff)).after
      [.begin .udp 20, .udp (.edit (.payload [1, 2, 3])), .udp (.edit (.payload [1, 2])),
       .udp (.edit (.length 0xffff))]
    ∃ d, s.drafts = [d] ∧ d.mark = ⟨.udp, 20, 2⟩ ∧ d.Workable s.shared.frame := by
  intro s
  obtain ⟨-, -, hworkable⟩ := drafts_stay_in_bounds (List.replicate 30 0xff)
    [.begin .udp 20, .udp (.edit (.payload [1, 2, 3])), .udp (.edit (.payload [1, 2])),
     .udp (.edit (.length 0xffff))]
  exact ⟨_, rfl, rfl, hworkable _ List.mem_cons_self⟩

end Session

end PacketHeaders

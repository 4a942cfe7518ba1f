import PacketHeaders.Draft
import PacketHeaders.Proofs.Records.Ethernet
import PacketHeaders.Proofs.Records.Icmp
import PacketHeaders.Proofs.Records.Ipv4
import PacketHeaders.Proofs.Records.Udp

/-!
# How far a call writes

A call that is taken makes one edit of its draft, or none. So a call to an Ethernet or IPv4 draft
writes at most the fixed octets of the header, and a call to a message nothing in front of it.
-/

namespace PacketHeaders

namespace Draft

def start : Draft → Nat
  | ethernet d => d.start
  | ipv4 d => d.start
  | icmp d => d.start
  | udp d => d.start

/-- The position behind all that a call may write. -/
def reach : Draft → Nat
  | ethernet d => d.start + 14
  | ipv4 d => d.start + 20
  | icmp d => d.bytes.length
  | udp d => d.bytes.length

def payloadStart (d : Draft) : Nat := d.header.summary.payloadStart

/-- One draft is the other after one edit. -/
inductive Edited : Draft → Draft → Prop
  | ethernet {d d' : Ethernet.Draft} {e : Ethernet.Edit} (h : d.edit e = .ok () d') :
      Edited (ethernet d) (ethernet d')
  | ipv4 {d d' : Ipv4.Draft} {e : Ipv4.Edit} (h : d.edit e = .ok () d') : Edited (ipv4 d) (ipv4 d')
  | icmp {d d' : Icmp.Draft} {e : Icmp.Edit} (h : d.edit e = .ok () d') : Edited (icmp d) (icmp d')
  | udp {d d' : Udp.Draft} {e : Udp.Edit} (h : d.edit e = .ok () d') : Edited (udp d) (udp d')

end Draft

theorem edit_of_answered {δ : Type} {edit : Writing δ Unit} {d d' : δ} {reply : Reply}
    (h : answered edit d = .ok reply d') : edit d = .ok () d' := by
  rw [answered_eq] at h
  split at h
  · next hedit =>
    cases h
    exact hedit
  · cases h

theorem Ipv4.Draft.edit_of_call {d d' : Draft} {c : Call} {reply : Reply}
    (h : d.call c = .ok reply d') : d' = d ∨ ∃ e, d.edit e = .ok () d' := by
  cases c with
  | edit e => exact .inr ⟨e, edit_of_answered h⟩
  | defaultChecksum | verifyChecksum =>
    cases h
    exact .inl rfl
  | storeChecksum =>
    cases h
    exact .inr ⟨.checksum _, rfl⟩

theorem Icmp.Draft.edit_of_call {d d' : Draft} {c : Call} {reply : Reply}
    (h : d.call c = .ok reply d') : d' = d ∨ ∃ e, d.edit e = .ok () d' := by
  cases c with
  | edit e => exact .inr ⟨e, edit_of_answered h⟩
  | defaultChecksum =>
    cases h
    exact .inl rfl
  | storeChecksum =>
    cases h
    exact .inr ⟨.checksum _, rfl⟩

theorem Udp.Draft.edit_of_call {d d' : Draft} {c : Call} {reply : Reply}
    (h : d.call c = .ok reply d') : d' = d ∨ ∃ e, d.edit e = .ok () d' := by
  cases c with
  | edit e => exact .inr ⟨e, edit_of_answered h⟩
  | datagramLength | defaultChecksum | transportChecksum =>
    cases h
    exact .inl rfl
  | storeChecksum | storeTransportChecksum =>
    cases h
    exact .inr ⟨.checksum _, rfl⟩

namespace Draft

variable {d d' : Draft}

theorem answer_eq_ok {γ δ : Type} {run : γ → Writing δ Reply} {wrap : δ → Draft} {c? : Option γ}
    {a : δ} {reply : Reply} (h : call.answer run wrap c? a = .ok reply d') :
    ∃ c a', c? = some c ∧ run c a = .ok reply a' ∧ wrap a' = d' := by
  cases c? with
  | none => cases h
  | some c =>
    obtain ⟨a', hrun, hwrap⟩ := EStateM.Result.recast_eq_ok_iff.mp h
    exact ⟨c, a', rfl, hrun, hwrap⟩

theorem edited_of_call {reading : Reading} {reply : Reply} (h : d.call reading = .ok reply d') :
    d' = d ∨ d.Edited d' := by
  cases d with
  | ethernet d =>
    obtain ⟨e, a, -, hcall, rfl⟩ := answer_eq_ok h
    exact .inr (.ethernet (edit_of_answered hcall))
  | ipv4 d =>
    obtain ⟨c, a, -, hcall, rfl⟩ := answer_eq_ok h
    rcases Ipv4.Draft.edit_of_call hcall with rfl | ⟨e, hedit⟩
    · exact .inl rfl
    · exact .inr (.ipv4 hedit)
  | icmp d =>
    obtain ⟨c, a, -, hcall, rfl⟩ := answer_eq_ok h
    rcases Icmp.Draft.edit_of_call hcall with rfl | ⟨e, hedit⟩
    · exact .inl rfl
    · exact .inr (.icmp hedit)
  | udp d =>
    obtain ⟨c, a, -, hcall, rfl⟩ := answer_eq_ok h
    rcases Udp.Draft.edit_of_call hcall with rfl | ⟨e, hedit⟩
    · exact .inl rfl
    · exact .inr (.udp hedit)

/-- The same place in a frame that was changed only where a call may write. -/
structure Confined (d d' : Draft) : Prop where
  start_eq : d'.start = d.start
  changed : Octets.ChangedWithin d.start d.reach d.bytes d'.bytes

theorem confined_edit (h : d.Edited d') : d.Confined d' := by
  cases h with
  | @ethernet d d' e h =>
    obtain ⟨-, hwritten⟩ := Refinement.edit_ok (r := Ethernet.Draft.refinement) h
    exact ⟨hwritten.start_eq, hwritten.changed⟩
  | @ipv4 d d' e h =>
    obtain ⟨-, hwritten⟩ := Refinement.edit_ok (r := Ipv4.Draft.refinement) h
    exact ⟨hwritten.start_eq, hwritten.changed⟩
  | @icmp d d' e h =>
    obtain ⟨-, hwritten⟩ := Refinement.edit_ok (r := Icmp.Draft.refinement) h
    exact ⟨hwritten.start_eq, hwritten.changed.upTo_length⟩
  | @udp d d' e h =>
    obtain ⟨-, hwritten⟩ := Refinement.edit_ok (r := Udp.Draft.refinement) h
    exact ⟨hwritten.start_eq, hwritten.changed.upTo_length⟩

theorem confined_call {reading : Reading} {reply : Reply} (h : d.call reading = .ok reply d') :
    d.Confined d' := by
  rcases edited_of_call h with rfl | hedited
  · exact ⟨rfl, .refl ..⟩
  · exact confined_edit hedited

end Draft

end PacketHeaders

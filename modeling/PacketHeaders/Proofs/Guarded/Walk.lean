import PacketHeaders.Dissection
import PacketHeaders.Header
import PacketHeaders.Proofs.Guarded.Headers
import PacketHeaders.Proofs.Guarded.Ipv4
import PacketHeaders.Proofs.Outcome

/-!
# Guarded walks

A header is reached in a frame when it is placed anywhere in the frame, found behind a header that
is reached, or met in the dissection of the frame. Every reached header lies in a cut of the frame,
and all that can be asked of it is read without leaving that cut, whatever the octets are.
-/

namespace PacketHeaders

namespace Header

def span : Header → Span
  | ethernet h => h.toSpan
  | arp h => h.toSpan
  | ipv4 h => h.toSpan
  | icmp h => h.toSpan
  | udp h => h.toSpan
  | tcp h => h.toSpan

/-- No guarded reading of the header fails. -/
def Readable : Header → Prop
  | ethernet h => Ethernet.Guarded.Readable h
  | arp h => Arp.Guarded.Readable h
  | ipv4 h => Ipv4.Guarded.Readable h
  | icmp h => Icmp.Guarded.Readable h
  | udp h => Udp.Guarded.Readable h
  | tcp h => Tcp.Guarded.Readable h

/-- The headers that can be found in a frame. -/
inductive Reached (frame : List UInt8) : Header → Prop
  | placed {layer : Layer} {start : Nat} {h : Header} :
      place layer frame start = .ok h → Reached frame h
  | behind {outer h : Header} {layer : Layer} :
      Reached frame outer → outer.next layer = .ok h → Reached frame h

theorem readable (h : Header) : h.Readable := by
  cases h with
  | ethernet h => exact Ethernet.Guarded.readable h
  | arp h => exact Arp.Guarded.readable h
  | ipv4 h => exact Ipv4.Guarded.readable h
  | icmp h => exact Icmp.Guarded.readable h
  | udp h => exact Udp.Guarded.readable h
  | tcp h => exact Tcp.Guarded.readable h

/-- Whatever is made of a window that was placed lies where the window does. -/
theorem span_of_lift_place {n : Nat} {α : Type} {wrap : α → Header} {mk : Window n → α}
    (hspan : ∀ w, (wrap (mk w)).span = w.toSpan) {bytes : List UInt8} {start : Nat} {h : Header}
    (hp : Refusal.lift wrap ((Window.place bytes start n).map mk) = .ok h) :
    h.span = ⟨bytes, start⟩ := by
  obtain ⟨a, ha, rfl⟩ := Refusal.lift_eq_ok_iff.mp hp
  obtain ⟨w, hw, rfl⟩ := Except.map_eq_ok_iff.mp ha
  obtain ⟨rfl, rfl⟩ := Window.place_eq_ok_iff.mp hw
  exact hspan w

theorem span_of_place {layer : Layer} {bytes : List UInt8} {start : Nat} {h : Header}
    (hp : place layer bytes start = .ok h) : h.span = ⟨bytes, start⟩ := by
  cases layer with
  | other => cases hp
  | ethernet | arp | ipv4 | icmp | udp | tcp => exact span_of_lift_place (fun _ => rfl) hp

/-- The frame behind an IPv4 header is the one in front of it, cut or not. -/
theorem prefix_of_ipv4_next {n : Nat} {α : Type} {wrap : α → Header} {mk : Window n → α}
    (hspan : ∀ w, (wrap (mk w)).span = w.toSpan) {outer : Ipv4.Header} {h : Header}
    (hn : Refusal.lift wrap ((outer.next n).map mk) = .ok h) :
    h.span.bytes <+: outer.bytes := by
  rcases Nat.lt_or_ge outer.headerLength 20 with hlen | hlen
  · rw [Ipv4.Header.next_of_length_lt hlen] at hn
    cases hn
  · rw [Ipv4.Header.next_of_le_length hlen] at hn
    rw [span_of_lift_place hspan hn]
    exact List.take_prefix ..

theorem prefix_of_next {outer h : Header} {layer : Layer} (hn : outer.next layer = .ok h) :
    h.span.bytes <+: outer.span.bytes := by
  cases outer with
  | ethernet outer =>
    cases layer with
    | arp | ipv4 => exact (span_of_lift_place (fun _ => rfl) hn) ▸ List.prefix_rfl
    | ethernet | icmp | udp | tcp | other => cases hn
  | ipv4 outer =>
    cases layer with
    | icmp | udp | tcp => exact prefix_of_ipv4_next (fun _ => rfl) hn
    | ethernet | arp | ipv4 | other => cases hn
  | arp outer | icmp outer | udp outer | tcp outer => cases layer <;> cases hn

theorem Reached.cut_of_frame {frame : List UInt8} {h : Header} (hr : Reached frame h) :
    h.span.bytes <+: frame := by
  induction hr with
  | placed hp => exact (span_of_place hp) ▸ List.prefix_rfl
  | behind _ hn ih => exact (prefix_of_next hn).trans ih

end Header

def Network.header? : Network → Option Header
  | arp h => some (.arp h)
  | ipv4 h => some (.ipv4 h)
  | unknown _ => none

def Transport.header? : Transport → Option Header
  | icmp h => some (.icmp h)
  | udp h => some (.udp h)
  | tcp h => some (.tcp h)
  | unknown _ | absent => none

namespace Dissection

def headers (d : Dissection) : List Header :=
  .ethernet d.ethernet :: d.network.header?.toList ++ d.transport.header?.toList

/-- A header that a dissection wraps up was found by the walk that the dissection made. -/
theorem lift_of_map {α τ : Type} {wrap : α → Header} {f : α → τ} {header? : τ → Option Header}
    {x : Except Fault α} {t : τ} {h : Header} (hx : x.map f = .ok t) (hh : header? t = some h)
    (hf : ∀ a, header? (f a) = some (wrap a)) : Refusal.lift wrap x = .ok h := by
  obtain ⟨a, ha, rfl⟩ := Except.map_eq_ok_iff.mp hx
  have hw : wrap a = h := Option.some.inj ((hf a).symm.trans hh)
  exact Refusal.lift_eq_ok_iff.mpr ⟨a, ha, hw⟩

theorem next_of_network {e : Ethernet.Header} {network : Network} {h : Header}
    (hn : Network.ofEthernet e = .ok network) (hh : network.header? = some h) :
    ∃ layer, (Header.ethernet e).next layer = .ok h := by
  unfold Network.ofEthernet at hn
  cases hp : e.protocol with
  | arp | rarp =>
    rw [hp] at hn
    exact ⟨.arp, lift_of_map hn hh fun _ => rfl⟩
  | ipv4 =>
    rw [hp] at hn
    exact ⟨.ipv4, lift_of_map hn hh fun _ => rfl⟩
  | undefined =>
    rw [hp] at hn
    cases hn
    cases hh

theorem next_of_transport {outer : Ipv4.Header} {transport : Transport} {h : Header}
    (ht : Transport.ofIpv4 outer = .ok transport) (hh : transport.header? = some h) :
    ∃ layer, (Header.ipv4 outer).next layer = .ok h := by
  unfold Transport.ofIpv4 at ht
  cases hp : outer.protocol with
  | icmp =>
    rw [hp] at ht
    exact ⟨.icmp, lift_of_map ht hh fun _ => rfl⟩
  | udp =>
    rw [hp] at ht
    exact ⟨.udp, lift_of_map ht hh fun _ => rfl⟩
  | tcp =>
    rw [hp] at ht
    exact ⟨.tcp, lift_of_map ht hh fun _ => rfl⟩
  | undefined =>
    rw [hp] at ht
    cases ht
    cases hh

theorem reached_of_mem_headers {frame : List UInt8} {d : Dissection} {h : Header}
    (hd : dissect frame = .ok d) (hm : h ∈ d.headers) : Header.Reached frame h := by
  obtain ⟨he, hn, ht⟩ := dissect_eq_ok_iff.mp hd
  have hp : Header.place .ethernet frame 0 = .ok (.ethernet d.ethernet) :=
    Refusal.lift_eq_ok_iff.mpr ⟨_, he, rfl⟩
  have houter : Header.Reached frame (.ethernet d.ethernet) := .placed hp
  simp only [headers, List.mem_append, List.mem_cons, Option.mem_toList] at hm
  rcases hm with (rfl | hh) | hh
  · exact houter
  · obtain ⟨layer, hl⟩ := next_of_network hn hh
    exact .behind houter hl
  · cases hnet : d.network with
    | arp | unknown =>
      rw [hnet] at ht
      rw [← Except.ok.inj ht] at hh
      cases hh
    | ipv4 outer =>
      rw [hnet] at hn ht
      obtain ⟨layer, hl⟩ := next_of_network hn rfl
      obtain ⟨layer', hl'⟩ := next_of_transport ht hh
      exact .behind (.behind houter hl) hl'

end Dissection

/-- Everything that can be asked of a header is read inside the cut of the frame that it lies in. -/
theorem guarded_readings_succeed {frame : List UInt8} {h : Header}
    (hr : Header.Reached frame h ∨ ∃ d, dissect frame = .ok d ∧ h ∈ d.headers) :
    h.span.bytes <+: frame ∧ h.Readable := by
  have hreached : Header.Reached frame h := by
    rcases hr with hr | ⟨d, hd, hm⟩
    · exact hr
    · exact Dissection.reached_of_mem_headers hd hm
  exact ⟨hreached.cut_of_frame, h.readable⟩

/-- A UDP header behind IPv4 options, whose length field points far past the end of the frame. -/
def overlongFrame : List UInt8 :=
  List.replicate 12 0xff ++ [8, 0] ++
    [0x46, 0, 0, 48, 0, 0, 0, 0, 64, 17, 0, 0, 10, 0, 0, 1, 10, 0, 0, 2, 1, 1, 1, 0] ++
    [0, 7, 0, 9, 0xff, 0xff, 0xab, 0xcd] ++ List.replicate 20 0xee

theorem guarded_readings_succeed_of_overlong_datagram :
    ∃ h : Udp.Header, h.start = 38 ∧ h.length = 0xffff ∧
      (Header.udp h).span.bytes <+: overlongFrame ∧ (Header.udp h).Readable := by
  let ethernet : Ethernet.Header := ⟨⟨⟨overlongFrame, 0⟩, by decide⟩⟩
  let ipv4 : Ipv4.Header := ⟨⟨⟨overlongFrame, 14⟩, by decide⟩⟩
  let udp : Udp.Header := ⟨⟨⟨overlongFrame.take 62, 38⟩, by decide⟩⟩
  have hd : dissect overlongFrame = .ok ⟨ethernet, .ipv4 ipv4, .udp udp⟩ := rfl
  have hm : Header.udp udp ∈ Dissection.headers ⟨ethernet, .ipv4 ipv4, .udp udp⟩ :=
    List.mem_append_right _ List.mem_cons_self
  exact ⟨udp, rfl, rfl, guarded_readings_succeed (.inr ⟨_, hd, hm⟩)⟩

end PacketHeaders

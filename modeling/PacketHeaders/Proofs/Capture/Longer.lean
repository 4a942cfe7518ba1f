import Mathlib.Data.List.Infix
import PacketHeaders.Proofs.Fields
import PacketHeaders.Proofs.NextHeader

/-!
# Frames that go on

More octets behind a frame never hurt: every header that was found is found again at its place,
says what it said before, and its payload at most goes on. `ContinuesIn` relates what is found in a
frame to what is found in one that goes on, from single places up to whole dissections.
-/

namespace PacketHeaders

namespace Span

/-- The same place in a frame that goes on where this one ends. -/
structure ContinuesIn (s s' : Span) : Prop where
  start_eq : s'.start = s.start
  front : s.bytes <+: s'.bytes

theorem ContinuesIn.tail {s s' : Span} (h : s.ContinuesIn s') : s.tail <+: s'.tail := by
  rw [Span.tail, Span.tail, h.start_eq]
  exact h.front.drop _

end Span

namespace Window

variable {n : Nat}

theorem head_of_continuesIn {w w' : Window n} (h : w.toSpan.ContinuesIn w'.toSpan) :
    w'.head = w.head := by
  have hroom : n ≤ w.tail.length := by
    have := w.room
    rw [Span.tail, List.length_drop]
    omega
  obtain ⟨rest, hrest⟩ := h.tail
  rw [head, head, ← hrest, List.take_append_of_le_length hroom]

/-- What is found is found again where the frame goes on. -/
def Persists (x x' : Except Fault (Window n)) : Prop :=
  ∀ w, x = .ok w → ∃ w', x' = .ok w' ∧ w.toSpan.ContinuesIn w'.toSpan

theorem persists_place {bytes bytes' : List UInt8} (h : bytes <+: bytes') (start : Nat) :
    Persists (place bytes start n) (place bytes' start n) := by
  intro w hw
  obtain ⟨rfl, rfl⟩ := place_eq_ok_iff.mp hw
  have hroom : w.start + n ≤ bytes'.length := Nat.le_trans w.room h.length_le
  exact ⟨⟨⟨bytes', w.start⟩, hroom⟩, place_of_le hroom, rfl, h⟩

/-- The header that is made of what was found, whatever it is wrapped up in. -/
theorem Persists.exists_of_map {x x' : Except Fault (Window n)} (h : Persists x x') {α τ : Type}
    {mk : Window n → α} {f : α → τ} {t : τ} (ht : (x.map mk).map f = .ok t) :
    ∃ w w' : Window n, f (mk w) = t ∧ (x'.map mk).map f = .ok (f (mk w')) ∧
      w.toSpan.ContinuesIn w'.toSpan := by
  obtain ⟨a, ha, rfl⟩ := Except.map_eq_ok_iff.mp ht
  obtain ⟨w, hw, rfl⟩ := Except.map_eq_ok_iff.mp ha
  obtain ⟨w', hw', hcontinues⟩ := h w hw
  refine ⟨w, w', rfl, ?_, hcontinues⟩
  rw [hw']
  rfl

end Window

namespace Ipv4.Header

variable {h h' : Header} (hc : h.toSpan.ContinuesIn h'.toSpan)

include hc

theorem fields_of_continuesIn : h'.fields = h.fields :=
  fields_congr (Window.head_of_continuesIn hc)

theorem headerLength_of_continuesIn : h'.headerLength = h.headerLength :=
  congrArg Fields.headerLength (fields_of_continuesIn hc)

theorem totalLength_of_continuesIn : h'.totalLength = h.totalLength :=
  congrArg Fields.totalLength (fields_of_continuesIn hc)

theorem payloadStart_of_continuesIn : h'.payloadStart = h.payloadStart := by
  rw [payloadStart, payloadStart, hc.start_eq, headerLength_of_continuesIn hc]

/-- The datagram at most goes on. -/
theorem datagramEnd_le_of_continuesIn : h.datagramEnd ≤ h'.datagramEnd := by
  have hlength := hc.front.length_le
  rw [datagramEnd, datagramEnd, totalLength_of_continuesIn hc, headerLength_of_continuesIn hc,
    hc.start_eq]
  split
  · exact hlength
  · omega

theorem take_datagramEnd_isPrefix :
    h.bytes.take h.datagramEnd <+: h'.bytes.take h'.datagramEnd :=
  (hc.front.take _).trans (List.take_prefix_take_left (datagramEnd_le_of_continuesIn hc))

theorem payload_isPrefix : h.payload <+: h'.payload := by
  rw [payload, payload, payloadStart_of_continuesIn hc]
  exact (take_datagramEnd_isPrefix hc).drop _

theorem persists_next (n : Nat) : Window.Persists (h.next n) (h'.next n) := by
  rcases Nat.lt_or_ge h.headerLength 20 with hlen | hlen
  · intro w hw
    rw [next_of_length_lt hlen] at hw
    cases hw
  · have hlen' : 20 ≤ h'.headerLength := by rwa [headerLength_of_continuesIn hc]
    rw [next_of_le_length hlen, next_of_le_length hlen', payloadStart_of_continuesIn hc]
    exact Window.persists_place (take_datagramEnd_isPrefix hc) _

end Ipv4.Header

theorem Udp.Header.payload_isPrefix {h h' : Udp.Header} (hc : h.toSpan.ContinuesIn h'.toSpan) :
    h.payload <+: h'.payload := by
  have hlength : h'.length = h.length :=
    congrArg Fields.length (fields_congr (Window.head_of_continuesIn hc))
  rw [payload, payload, datagram, datagram, hlength]
  exact (hc.tail.take _).drop _

theorem Icmp.Header.payload_isPrefix {h h' : Icmp.Header} (hc : h.toSpan.ContinuesIn h'.toSpan) :
    h.payload <+: h'.payload :=
  hc.tail.drop _

/-- The same network header, seen again in a frame that goes on. -/
inductive Network.ContinuesIn : Network → Network → Prop
  | arp {h h' : Arp.Header} (place : h.toSpan.ContinuesIn h'.toSpan)
      (fields : h'.fields = h.fields) : ContinuesIn (.arp h) (.arp h')
  | ipv4 {h h' : Ipv4.Header} (place : h.toSpan.ContinuesIn h'.toSpan)
      (fields : h'.fields = h.fields) (payload : h.payload <+: h'.payload) :
      ContinuesIn (.ipv4 h) (.ipv4 h')
  | unknown (etherType : UInt16) : ContinuesIn (.unknown etherType) (.unknown etherType)

/-- The same transport header, seen again in a frame that goes on. -/
inductive Transport.ContinuesIn : Transport → Transport → Prop
  | icmp {h h' : Icmp.Header} (place : h.toSpan.ContinuesIn h'.toSpan)
      (fields : h'.fields = h.fields) (payload : h.payload <+: h'.payload) :
      ContinuesIn (.icmp h) (.icmp h')
  | udp {h h' : Udp.Header} (place : h.toSpan.ContinuesIn h'.toSpan)
      (fields : h'.fields = h.fields) (payload : h.payload <+: h'.payload) :
      ContinuesIn (.udp h) (.udp h')
  | tcp {h h' : Tcp.Header} (place : h.toSpan.ContinuesIn h'.toSpan)
      (fields : h'.fields = h.fields) : ContinuesIn (.tcp h) (.tcp h')
  | unknown (protocol : UInt8) : ContinuesIn (.unknown protocol) (.unknown protocol)
  | absent : ContinuesIn .absent .absent

/-- The same headers, seen again in a frame that goes on. -/
structure Dissection.ContinuesIn (d d' : Dissection) : Prop where
  place : d.ethernet.toSpan.ContinuesIn d'.ethernet.toSpan
  fields : d'.ethernet.fields = d.ethernet.fields
  network : d.network.ContinuesIn d'.network
  transport : d.transport.ContinuesIn d'.transport

section Walk

open Window

theorem Network.exists_of_continuesIn {e e' : Ethernet.Header}
    (hc : e.toSpan.ContinuesIn e'.toSpan) {n : Network} (hn : ofEthernet e = .ok n) :
    ∃ n', ofEthernet e' = .ok n' ∧ n.ContinuesIn n' := by
  have hfields : e'.fields = e.fields :=
    Ethernet.Header.fields_congr (head_of_continuesIn hc)
  have hprotocol : e'.protocol = e.protocol := congrArg Ethernet.Fields.protocol hfields
  have hchild (k : Nat) : Persists (e.child 14 k) (e'.child 14 k) := by
    rw [Span.child, Span.child, hc.start_eq]
    exact persists_place hc.front _
  unfold ofEthernet at hn ⊢
  rw [hprotocol]
  cases hp : e.protocol with
  | arp | rarp =>
    rw [hp] at hn
    obtain ⟨w, w', rfl, hw', hcw⟩ := (hchild 28).exists_of_map hn
    exact ⟨_, hw', .arp hcw (Arp.Header.fields_congr (head_of_continuesIn hcw))⟩
  | ipv4 =>
    rw [hp] at hn
    obtain ⟨w, w', rfl, hw', hcw⟩ := (hchild 20).exists_of_map hn
    exact ⟨_, hw', .ipv4 hcw (Ipv4.Header.fields_of_continuesIn hcw)
      (Ipv4.Header.payload_isPrefix hcw)⟩
  | undefined =>
    rw [hp] at hn
    cases hn
    have hnumber : e'.etherType = e.etherType := congrArg Ethernet.Fields.etherType hfields
    exact ⟨_, rfl, hnumber ▸ .unknown _⟩

theorem Transport.exists_of_continuesIn {h h' : Ipv4.Header}
    (hc : h.toSpan.ContinuesIn h'.toSpan) {t : Transport} (ht : ofIpv4 h = .ok t) :
    ∃ t', ofIpv4 h' = .ok t' ∧ t.ContinuesIn t' := by
  have hnumber : h'.protocolNumber = h.protocolNumber :=
    congrArg Ipv4.Fields.protocolNumber (Ipv4.Header.fields_of_continuesIn hc)
  have hprotocol : h'.protocol = h.protocol := congrArg IpProtocol.ofNumber hnumber
  have hnext := Ipv4.Header.persists_next hc
  unfold ofIpv4 at ht ⊢
  rw [hprotocol]
  cases hp : h.protocol with
  | icmp =>
    rw [hp] at ht
    obtain ⟨w, w', rfl, hw', hcw⟩ := (hnext 8).exists_of_map ht
    exact ⟨_, hw', .icmp hcw (Icmp.Header.fields_congr (head_of_continuesIn hcw))
      (Icmp.Header.payload_isPrefix hcw)⟩
  | udp =>
    rw [hp] at ht
    obtain ⟨w, w', rfl, hw', hcw⟩ := (hnext 8).exists_of_map ht
    exact ⟨_, hw', .udp hcw (Udp.Header.fields_congr (head_of_continuesIn hcw))
      (Udp.Header.payload_isPrefix hcw)⟩
  | tcp =>
    rw [hp] at ht
    obtain ⟨w, w', rfl, hw', hcw⟩ := (hnext 20).exists_of_map ht
    exact ⟨_, hw', .tcp hcw (Tcp.Header.fields_congr (head_of_continuesIn hcw))⟩
  | undefined =>
    rw [hp] at ht
    cases ht
    exact ⟨_, rfl, hnumber ▸ .unknown _⟩

theorem Transport.exists_of_network {n n' : Network} (hc : n.ContinuesIn n') {t : Transport}
    (ht : ofNetwork n = .ok t) : ∃ t', ofNetwork n' = .ok t' ∧ t.ContinuesIn t' := by
  cases hc with
  | arp | unknown =>
    cases ht
    exact ⟨_, rfl, .absent⟩
  | ipv4 place => exact exists_of_continuesIn place ht

theorem Dissection.exists_of_isPrefix {bytes bytes' : List UInt8} (h : bytes <+: bytes')
    {d : Dissection} (hd : dissect bytes = .ok d) :
    ∃ d', dissect bytes' = .ok d' ∧ d.ContinuesIn d' := by
  obtain ⟨he, hn, ht⟩ := dissect_eq_ok_iff.mp hd
  obtain ⟨w, hw, hwe⟩ := Except.map_eq_ok_iff.mp he
  obtain ⟨w', hw', hcw⟩ := persists_place h 0 w hw
  rw [← hwe] at hn
  have hplace' : (Ethernet.Header.mk w).toSpan.ContinuesIn (Ethernet.Header.mk w').toSpan := hcw
  obtain ⟨n', hn', hcn⟩ := Network.exists_of_continuesIn hplace' hn
  obtain ⟨t', ht', hct⟩ := Transport.exists_of_network hcn ht
  have he' : Ethernet.Header.place bytes' 0 = .ok ⟨w'⟩ :=
    congrArg (Except.map Ethernet.Header.mk) hw'
  have hplace : d.ethernet.toSpan.ContinuesIn w'.toSpan := hwe ▸ hcw
  exact ⟨⟨⟨w'⟩, n', t'⟩, dissect_eq_ok_iff.mpr ⟨he', hn', ht'⟩, hplace,
    Ethernet.Header.fields_congr (head_of_continuesIn hplace), hcn, hct⟩

end Walk

end PacketHeaders

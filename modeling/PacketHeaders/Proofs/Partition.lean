import PacketHeaders.Proofs.NextHeader

/-!
# How headers and payloads share a frame

Header and payload of a datagram follow each other without a gap or an overlap, and together they
are the octets from the start of the header to the end of the datagram, whatever lengths the header
claims. What is found behind the header is the payload and nothing else, so the layers of a
dissected frame cover it from its first octet to the end of the datagram.
-/

namespace PacketHeaders

namespace Octets

/-- A front that reaches to the end of a string or stops inside a cut of it is one of the cut. -/
theorem take_append_drop_take {bytes : List UInt8} {m k : Nat} (h : m ≤ k ∨ bytes.length ≤ k) :
    bytes.take m ++ (bytes.take k).drop m = bytes.take k := by
  have hfront : bytes.take m = (bytes.take k).take m := by
    rw [List.take_take, List.take_eq_take_iff]
    omega
  rw [hfront, List.take_append_drop]

end Octets

namespace Window

variable {n : Nat}

theorem head_append_drop (w : Window n) : w.head ++ w.tail.drop n = w.tail :=
  List.take_append_drop n w.tail

end Window

namespace Ipv4.Header

variable (h : Header)

theorem start_le_datagramEnd : h.start ≤ h.datagramEnd := by
  have hroom := h.room
  unfold datagramEnd
  split <;> omega

/-- A datagram ends behind its header, unless the frame ends before. -/
theorem payloadStart_le_datagramEnd_or :
    h.payloadStart ≤ h.datagramEnd ∨ h.datagramEnd = h.bytes.length := by
  unfold datagramEnd payloadStart
  split <;> omega

theorem headerBytes_append_payload :
    h.headerBytes ++ h.payload = (h.bytes.take h.datagramEnd).drop h.start := by
  have hcut : (h.bytes.take h.datagramEnd).drop h.start =
      h.tail.take (h.datagramEnd - h.start) := List.drop_take
  have hpayload : h.payload = (h.tail.take (h.datagramEnd - h.start)).drop h.headerLength := by
    rw [payload, payloadStart, ← List.drop_drop, hcut]
  have hreach : h.headerLength ≤ h.datagramEnd - h.start ∨
      h.tail.length ≤ h.datagramEnd - h.start := by
    have hstop := h.payloadStart_le_datagramEnd_or
    rw [Span.tail, List.length_drop]
    rw [payloadStart] at hstop
    omega
  rw [headerBytes, hpayload, hcut, Octets.take_append_drop_take hreach]

/-- A place behind the header from which the datagram's payload runs to the end of its frame. -/
structure Carries (s : Span) : Prop where
  start_eq : s.start = h.payloadStart
  bytes_eq : s.bytes = h.bytes.take h.datagramEnd
  tail_eq : s.tail = h.payload

variable {h} {n : Nat}

theorem carries_of_next {w : Window n} (hw : h.next n = .ok w) : h.Carries w.toSpan := by
  rcases Nat.lt_or_ge h.headerLength 20 with hlen | hlen
  · rw [next_of_length_lt hlen] at hw
    cases hw
  · rw [next_of_le_length hlen] at hw
    obtain ⟨hbytes, hstart⟩ := Window.place_eq_ok_iff.mp hw
    refine ⟨hstart, hbytes, ?_⟩
    rw [Span.tail, hbytes, hstart, payload]

theorem carries_of_map {α : Type} {mk : Window n → α} (span : α → Span)
    (hspan : ∀ w, span (mk w) = w.toSpan) {a : α} (ha : (h.next n).map mk = .ok a) :
    h.Carries (span a) := by
  obtain ⟨w, hw, rfl⟩ := Except.map_eq_ok_iff.mp ha
  rw [hspan]
  exact carries_of_next hw

end Ipv4.Header

namespace Icmp.Header

theorem headerBytes_append_payload (h : Header) : h.headerBytes ++ h.payload = h.message :=
  h.head_append_drop

end Icmp.Header

namespace Udp.Header

theorem headerBytes_append_payload (h : Header) : h.headerBytes ++ h.payload = h.datagram :=
  Octets.take_append_drop_take (.inl (Nat.le_max_right ..))

theorem datagram_eq_take (h : Header) :
    h.datagram = h.tail.take (min (max h.length.toNat 8) h.tail.length) := by
  rw [datagram, List.take_eq_take_iff, Nat.min_assoc, Nat.min_self]
  rfl

end Udp.Header

theorem Network.ipv4_of_ofEthernet {e : Ethernet.Header} {h : Ipv4.Header}
    (hn : ofEthernet e = .ok (.ipv4 h)) : e.ipv4 = .ok h := by
  unfold ofEthernet at hn
  cases hp : e.protocol with
  | ipv4 =>
    rw [hp] at hn
    obtain ⟨h', hh', he⟩ := Except.map_eq_ok_iff.mp hn
    rw [hh', Network.ipv4.inj he]
  | arp | rarp =>
    rw [hp] at hn
    obtain ⟨_, -, he⟩ := Except.map_eq_ok_iff.mp hn
    cases he
  | undefined =>
    rw [hp] at hn
    cases hn

theorem Transport.icmp_of_ofNetwork {n : Network} {m : Icmp.Header}
    (ht : ofNetwork n = .ok (.icmp m)) : ∃ h, n = .ipv4 h ∧ h.icmp = .ok m := by
  cases n with
  | arp | unknown => cases ht
  | ipv4 h =>
    refine ⟨h, rfl, ?_⟩
    change ofIpv4 h = _ at ht
    unfold ofIpv4 at ht
    cases hp : h.protocol with
    | icmp =>
      rw [hp] at ht
      obtain ⟨m', hm', he⟩ := Except.map_eq_ok_iff.mp ht
      rw [hm', Transport.icmp.inj he]
    | udp | tcp =>
      rw [hp] at ht
      obtain ⟨_, -, he⟩ := Except.map_eq_ok_iff.mp ht
      cases he
    | undefined =>
      rw [hp] at ht
      cases ht

namespace Ethernet.Header

variable {bytes : List UInt8}

theorem place_eq_ok {start : Nat} {e : Header} (he : place bytes start = .ok e) :
    e.bytes = bytes ∧ e.start = start := by
  obtain ⟨w, hw, rfl⟩ := Except.map_eq_ok_iff.mp he
  exact Window.place_eq_ok_iff.mp hw

theorem ipv4_eq_ok {e : Header} {h : Ipv4.Header} (hh : e.ipv4 = .ok h) :
    h.bytes = e.bytes ∧ h.start = e.start + 14 := by
  obtain ⟨w, hw, rfl⟩ := Except.map_eq_ok_iff.mp hh
  exact Window.place_eq_ok_iff.mp hw

end Ethernet.Header

theorem Dissection.append_of_icmp {bytes : List UInt8} {d : Dissection} {m : Icmp.Header}
    (hd : dissect bytes = .ok d) (hm : d.transport = .icmp m) :
    ∃ h, d.network = .ipv4 h ∧ d.ethernet.headerBytes ++ h.headerBytes ++ m.headerBytes ++
      m.payload = bytes.take h.datagramEnd := by
  obtain ⟨he, hn, ht⟩ := dissect_eq_ok_iff.mp hd
  rw [hm] at ht
  obtain ⟨h, hnetwork, hicmp⟩ := Transport.icmp_of_ofNetwork ht
  rw [hnetwork] at hn
  obtain ⟨hebytes, hestart⟩ := Ethernet.Header.place_eq_ok he
  obtain ⟨hbytes, hstart⟩ := Ethernet.Header.ipv4_eq_ok (Network.ipv4_of_ofEthernet hn)
  rw [hebytes] at hbytes
  rw [hestart, Nat.zero_add] at hstart
  have hfirst : d.ethernet.headerBytes = bytes.take 14 := by
    rw [Ethernet.Header.headerBytes, Window.head, Span.tail, hebytes, hestart, List.drop_zero]
  have hmessage : m.message = h.payload :=
    (Ipv4.Header.carries_of_map (fun m : Icmp.Header => m.toSpan) (fun _ => rfl) hicmp).tail_eq
  have hend := h.start_le_datagramEnd
  refine ⟨h, hnetwork, ?_⟩
  calc d.ethernet.headerBytes ++ h.headerBytes ++ m.headerBytes ++ m.payload
      = d.ethernet.headerBytes ++ (h.headerBytes ++ (m.headerBytes ++ m.payload)) := by
        simp only [List.append_assoc]
    _ = bytes.take 14 ++ (bytes.take h.datagramEnd).drop 14 := by
        rw [hfirst, m.headerBytes_append_payload, hmessage, h.headerBytes_append_payload, hbytes,
          hstart]
    _ = bytes.take h.datagramEnd := Octets.take_append_drop_take (.inl (by omega))

/-- Header and payload of every layer lie end to end, and each layer is the payload of the one
around it. -/
theorem layers_partition_frame :
    (∀ h : Ipv4.Header, h.start ≤ h.datagramEnd ∧ h.datagramEnd ≤ h.bytes.length ∧
      h.headerBytes ++ h.payload = (h.bytes.take h.datagramEnd).drop h.start ∧
      (∀ m, h.icmp = .ok m → h.Carries m.toSpan) ∧ (∀ u, h.udp = .ok u → h.Carries u.toSpan) ∧
      ∀ t, h.tcp = .ok t → h.Carries t.toSpan) ∧
    (∀ m : Icmp.Header, m.headerBytes ++ m.payload = m.message) ∧
    (∀ u : Udp.Header, u.headerBytes ++ u.payload = u.datagram ∧
      u.datagram = u.tail.take (min (max u.length.toNat 8) u.tail.length)) ∧
    ∀ bytes d m, dissect bytes = .ok d → d.transport = .icmp m →
      ∃ h, d.network = .ipv4 h ∧ d.ethernet.headerBytes ++ h.headerBytes ++ m.headerBytes ++
        m.payload = bytes.take h.datagramEnd := by
  refine ⟨fun h => ⟨h.start_le_datagramEnd, h.datagramEnd_le, h.headerBytes_append_payload,
    ?_, ?_, ?_⟩, Icmp.Header.headerBytes_append_payload,
    fun u => ⟨u.headerBytes_append_payload, u.datagram_eq_take⟩,
    fun _ _ _ => Dissection.append_of_icmp⟩
  · intro m hm
    exact Ipv4.Header.carries_of_map (fun m : Icmp.Header => m.toSpan) (fun _ => rfl) hm
  · intro u hu
    exact Ipv4.Header.carries_of_map (fun u : Udp.Header => u.toSpan) (fun _ => rfl) hu
  · intro t ht
    exact Ipv4.Header.carries_of_map (fun t : Tcp.Header => t.toSpan) (fun _ => rfl) ht

/-- An ICMP message behind IPv4 options, with six octets of padding behind the datagram. -/
def paddedFrame : List UInt8 :=
  List.replicate 12 0xff ++ [8, 0] ++
    [0x46, 0, 0, 48, 0, 0, 0, 0, 64, 1, 0, 0, 10, 0, 0, 1, 10, 0, 0, 2, 1, 1, 1, 0] ++
    [8, 0, 0xab, 0xcd, 0, 1, 0, 2] ++ List.replicate 16 0xee ++ List.replicate 6 0

def paddedHeader : Ipv4.Header := ⟨⟨⟨paddedFrame, 14⟩, by decide⟩⟩

theorem layers_partition_frame_of_padding :
    ∃ (d : Dissection) (m : Icmp.Header) (u : Udp.Header) (t : Tcp.Header),
      dissect paddedFrame = .ok d ∧ d.network = .ipv4 paddedHeader ∧ d.transport = .icmp m ∧
      paddedHeader.Carries m.toSpan ∧ paddedHeader.udp = .ok u ∧ paddedHeader.Carries u.toSpan ∧
      paddedHeader.tcp = .ok t ∧ paddedHeader.Carries t.toSpan ∧
      d.ethernet.headerBytes ++ paddedHeader.headerBytes ++ m.headerBytes ++ m.payload =
        paddedFrame.take 62 := by
  let d : Dissection := ⟨⟨⟨⟨paddedFrame, 0⟩, by decide⟩⟩, .ipv4 paddedHeader,
    .icmp ⟨⟨⟨paddedFrame.take 62, 38⟩, by decide⟩⟩⟩
  obtain ⟨hipv4, -, -, hall⟩ := layers_partition_frame
  obtain ⟨-, -, -, hicmp, hudp, htcp⟩ := hipv4 paddedHeader
  have hd : dissect paddedFrame = .ok d := by rfl
  have hu : paddedHeader.udp = .ok ⟨⟨⟨paddedFrame.take 62, 38⟩, by decide⟩⟩ := by rfl
  have ht : paddedHeader.tcp = .ok ⟨⟨⟨paddedFrame.take 62, 38⟩, by decide⟩⟩ := by rfl
  have hend : paddedHeader.datagramEnd = 62 := by decide
  obtain ⟨h, hh, happend⟩ := hall paddedFrame d _ hd rfl
  obtain rfl : paddedHeader = h := Network.ipv4.inj hh
  rw [hend] at happend
  exact ⟨d, _, _, _, hd, rfl, rfl, hicmp _ rfl, hu, hudp _ hu, ht, htcp _ ht, happend⟩

end PacketHeaders

import PacketHeaders.Dissection
import PacketHeaders.Proofs.Octets
import PacketHeaders.Proofs.Outcome

/-!
# Where the next header lies

The place of a window, and of the window behind an IPv4 header, in terms of the frame alone. Behind
a header length of at least 20 the end of the datagram never cuts into the fixed octets, so the
frame is cut exactly there.
-/

namespace PacketHeaders

namespace Window

theorem place_of_le {bytes : List UInt8} {start n : Nat} (h : start + n ≤ bytes.length) :
    place bytes start n = .ok ⟨⟨bytes, start⟩, h⟩ := dif_pos h

theorem place_of_lt {bytes : List UInt8} {start n : Nat} (h : bytes.length < start + n) :
    place bytes start n = .error (.bounds start n (bytes.length - start)) :=
  dif_neg (Nat.not_le_of_lt h)

theorem place_map_toSpan (bytes : List UInt8) (start n : Nat) :
    (place bytes start n).map (·.toSpan) =
      if start + n ≤ bytes.length then .ok ⟨bytes, start⟩
      else .error (.bounds start n (bytes.length - start)) := by
  by_cases h : start + n ≤ bytes.length
  · rw [place_of_le h, if_pos h]
    rfl
  · rw [place_of_lt (Nat.lt_of_not_le h), if_neg h]
    rfl

end Window

namespace Ipv4.Header

theorem lengthInWords_lt (h : Header) : h.lengthInWords.toNat < 16 := by
  rw [lengthInWords, UInt8.toNat_ofNat']
  omega

theorem headerLength_le (h : Header) : h.headerLength ≤ 60 := by
  have := h.lengthInWords_lt
  simp only [headerLength]
  omega

theorem datagramEnd_le (h : Header) : h.datagramEnd ≤ h.bytes.length := by
  unfold datagramEnd
  split
  · exact Nat.le_refl _
  · exact Nat.min_le_right ..

/-- A believable datagram holds the fixed octets of its header. -/
theorem le_datagramEnd {h : Header} (hlen : 20 ≤ h.headerLength) :
    h.start + 20 ≤ h.datagramEnd := by
  have hroom : h.start + 20 ≤ h.bytes.length := h.room
  unfold datagramEnd
  split <;> omega

theorem bytes_truncate_datagramEnd {h : Header} (hlen : 20 ≤ h.headerLength) :
    (h.truncate h.datagramEnd 20).bytes = h.bytes.take h.datagramEnd := by
  rw [Span.truncate, Nat.max_eq_left (le_datagramEnd hlen)]

theorem next_of_length_lt {h : Header} (hlen : h.headerLength < 20) (n : Nat) :
    h.next n = .error (shortLength h.headerLength) := if_pos hlen

theorem next_of_le_length {h : Header} (hlen : 20 ≤ h.headerLength) (n : Nat) :
    h.next n = Window.place (h.bytes.take h.datagramEnd) h.payloadStart n := by
  rw [next, if_neg (Nat.not_lt_of_le hlen), Span.child, bytes_truncate_datagramEnd hlen]
  rfl

/-- The window behind an IPv4 header lies in the frame cut at the end of the datagram. -/
theorem next_map_toSpan (h : Header) (n : Nat) :
    (h.next n).map (·.toSpan) =
      if h.headerLength < 20 then .error (shortLength h.headerLength)
      else if h.payloadStart + n ≤ h.datagramEnd then
        .ok ⟨h.bytes.take h.datagramEnd, h.payloadStart⟩
      else .error (.bounds h.payloadStart n (h.datagramEnd - h.payloadStart)) := by
  by_cases hlen : h.headerLength < 20
  · rw [next_of_length_lt hlen, if_pos hlen]
    rfl
  · have hcut : (h.bytes.take h.datagramEnd).length = h.datagramEnd :=
      List.length_take_of_le h.datagramEnd_le
    rw [next_of_le_length (Nat.le_of_not_lt hlen), Window.place_map_toSpan, if_neg hlen, hcut]

end Ipv4.Header

theorem Network.ofEthernet_of_ipv4 {h : Ethernet.Header} (hether : h.etherType = 0x0800) :
    ofEthernet h = h.ipv4.map .ipv4 := by
  simp only [ofEthernet, Ethernet.Header.protocol, hether]
  rfl

theorem Transport.ofNetwork_of_udp {h : Ipv4.Header} (hprotocol : h.protocolNumber = 17) :
    ofNetwork (.ipv4 h) = h.udp.map .udp := by
  simp only [ofNetwork, ofIpv4, Ipv4.Header.protocol, hprotocol]
  rfl

theorem Transport.ofNetwork_of_icmp {h : Ipv4.Header} (hprotocol : h.protocolNumber = 1) :
    ofNetwork (.ipv4 h) = h.icmp.map .icmp := by
  simp only [ofNetwork, ofIpv4, Ipv4.Header.protocol, hprotocol]
  rfl

namespace Dissection

/-- A dissection finds its layers one behind the other. -/
theorem dissect_eq_ok_iff {bytes : List UInt8} {d : Dissection} :
    dissect bytes = .ok d ↔ Ethernet.Header.place bytes 0 = .ok d.ethernet ∧
      Network.ofEthernet d.ethernet = .ok d.network ∧
      Transport.ofNetwork d.network = .ok d.transport := by
  constructor
  · intro hd
    obtain ⟨e, he, hd⟩ := Except.bind_eq_ok_iff.mp hd
    obtain ⟨n, hn, hd⟩ := Except.bind_eq_ok_iff.mp hd
    obtain ⟨t, ht, hd⟩ := Except.bind_eq_ok_iff.mp hd
    cases hd
    exact ⟨he, hn, ht⟩
  · rintro ⟨he, hn, ht⟩
    unfold dissect
    rw [he]
    change Network.ofEthernet d.ethernet >>= _ = _
    rw [hn]
    change Transport.ofNetwork d.network >>= _ = _
    rw [ht]
    rfl

end Dissection

end PacketHeaders

import PacketHeaders.Proofs.NextHeader

/-!
# The way to a message

Behind an Ethernet header at the start of a frame and an IPv4 header whose lengths are right, a
dissection comes to a window that begins where the message begins and ends where it ends.
-/

namespace PacketHeaders

/-- The way through a frame to a message. -/
structure Found (bytes : List UInt8) where
  ethernet : Ethernet.Header
  ipv4 : Ipv4.Header
  window : Window 8
  placed : Ethernet.Header.place bytes 0 = .ok ethernet
  network : Network.ofEthernet ethernet = .ok (.ipv4 ipv4)
  behind : ipv4.next 8 = .ok window

namespace Found

variable {bytes : List UInt8}

theorem dissect_of_udp (f : Found bytes) (h : f.ipv4.protocolNumber = 17) :
    dissect bytes = .ok ⟨f.ethernet, .ipv4 f.ipv4, .udp ⟨f.window⟩⟩ := by
  refine Dissection.dissect_eq_ok_iff.mpr ⟨f.placed, f.network, ?_⟩
  rw [Transport.ofNetwork_of_udp h, Ipv4.Header.udp, f.behind]
  rfl

theorem dissect_of_icmp (f : Found bytes) (h : f.ipv4.protocolNumber = 1) :
    dissect bytes = .ok ⟨f.ethernet, .ipv4 f.ipv4, .icmp ⟨f.window⟩⟩ := by
  refine Dissection.dissect_eq_ok_iff.mpr ⟨f.placed, f.network, ?_⟩
  rw [Transport.ofNetwork_of_icmp h, Ipv4.Header.icmp, f.behind]
  rfl

variable {e : Ethernet.Header} {h : Ipv4.Header} {len : Nat}

theorem datagramEnd_of_total (htotal : h.totalLength.toNat = h.headerLength + len)
    (hroom : h.payloadStart + len ≤ h.bytes.length) : h.datagramEnd = h.payloadStart + len := by
  simp only [Ipv4.Header.payloadStart] at hroom ⊢
  rw [Ipv4.Header.datagramEnd, htotal, if_neg (by omega), Nat.add_assoc]
  exact Nat.min_eq_left (by omega)

/-- The window behind the two headers holds what the total length leaves for it. -/
theorem exists_of_headers (hbytes : h.bytes = e.bytes) (he : e.start = 0) (hh : h.start = 14)
    (hether : e.etherType = 0x0800) (hlen : 20 ≤ h.headerLength) (h8 : 8 ≤ len)
    (htotal : h.totalLength.toNat = h.headerLength + len)
    (hroom : h.payloadStart + len ≤ h.bytes.length) :
    ∃ f : Found e.bytes, f.ethernet = e ∧ f.ipv4 = h ∧ f.window.start = h.payloadStart ∧
      f.window.tail = Octets.slice h.bytes h.payloadStart len := by
  have hplaced : Ethernet.Header.place e.bytes 0 = .ok e :=
    congrArg (Except.map _) (Window.place_eq_ok_iff.mpr ⟨rfl, he⟩)
  have hnetwork : Network.ofEthernet e = .ok (.ipv4 h) := by
    have hchild : e.child 14 20 = .ok h.toWindow :=
      Window.place_eq_ok_iff.mpr ⟨hbytes, by rw [hh, he]⟩
    rw [Network.ofEthernet_of_ipv4 hether, Ethernet.Header.ipv4, Ethernet.Header.headerLength,
      hchild]
    rfl
  have hend := datagramEnd_of_total htotal hroom
  have hcut : (h.bytes.take h.datagramEnd).length = h.payloadStart + len := by
    rw [hend, List.length_take_of_le hroom]
  have hfits : h.payloadStart + 8 ≤ (h.bytes.take h.datagramEnd).length := by
    rw [hcut]
    exact Nat.add_le_add_left h8 _
  have hbehind : h.next 8 = .ok ⟨⟨h.bytes.take h.datagramEnd, h.payloadStart⟩, hfits⟩ := by
    rw [Ipv4.Header.next_of_le_length hlen]
    exact Window.place_of_le hfits
  refine ⟨⟨e, h, _, hplaced, hnetwork, hbehind⟩, rfl, rfl, rfl, ?_⟩
  change (h.bytes.take h.datagramEnd).drop h.payloadStart = _
  rw [hend, List.drop_take, Nat.add_sub_cancel_left]
  rfl

end Found

end PacketHeaders

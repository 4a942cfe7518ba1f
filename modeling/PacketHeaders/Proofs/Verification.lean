import PacketHeaders.Proofs.Partition
import PacketHeaders.Proofs.StoredChecksum

/-!
# What a verification checks

A header verifies its checksum by summing up all that the checksum covers, the stored checksum
included. That comes to the same as calculating the checksum without the stored one and comparing
the two. An IPv4 header has to be believable and whole besides; a UDP header without a checksum
passes; and a stored transport checksum has to be the one that a sender computes over the datagram.
-/

namespace PacketHeaders

open Octets Checksum

namespace Window

variable {n : Nat} (w : Window n) {f : Field n}

theorem toNat_number16_tail (hwidth : f.width = 2) :
    (w.number16 f).toNat = wordAt w.tail f.pos := by
  rw [w.toNat_number16 f hwidth, Span.tail, wordAt_drop]

/-- A field of two octets is read off any front of the tail that holds the header. -/
theorem toNat_number16_take (hwidth : f.width = 2) {len : Nat} (hlen : n ≤ len) :
    (w.number16 f).toNat = wordAt (w.tail.take len) f.pos := by
  have hinside := f.inside
  rw [w.toNat_number16_tail hwidth, wordAt_take (by omega)]

end Window

namespace Ipv4.Header

theorem verifyChecksum_iff {h : Header} : h.verifyChecksum = true ↔
    20 ≤ h.headerLength ∧ h.headerBytes.length = h.headerLength ∧ internet h.headerBytes = 0 := by
  simp [verifyChecksum, and_assoc]

theorem length_headerBytes_eq_iff {h : Header} : h.headerBytes.length = h.headerLength ↔
    h.start + h.headerLength ≤ h.bytes.length := by
  have hroom : h.start + 20 ≤ h.bytes.length := h.room
  rw [headerBytes, List.length_take, Span.tail, List.length_drop]
  omega

theorem wordSum_headerBytes_lt (h : Header) : wordSum h.headerBytes < UInt32.size := by
  have hlength : h.headerBytes.length ≤ h.headerLength := List.length_take_le ..
  have hmax := h.headerLength_le
  exact wordSum_lt (by omega)

theorem verifyChecksum_iff_fits (h : Header) : h.verifyChecksum = true ↔
    20 ≤ h.headerLength ∧ h.start + h.headerLength ≤ h.bytes.length ∧
      Fits h.checksum h.calculateChecksum := by
  rw [verifyChecksum_iff, length_headerBytes_eq_iff]
  refine and_congr_right fun hlen => and_congr_right fun _ => ?_
  have hstored : h.checksum.toNat = wordAt h.headerBytes Layout.checksum.pos :=
    h.toWindow.toNat_number16_take rfl hlen
  exact internet_eq_zero_iff_fits rfl h.wordSum_headerBytes_lt hstored

end Ipv4.Header

namespace Icmp.Header

theorem verifyChecksum_iff {h : Header} : h.verifyChecksum = true ↔ internet h.message = 0 := by
  rw [verifyChecksum, beq_iff_eq]

theorem verifyChecksum_iff_fits {h : Header} (hsum : wordSum h.message < UInt32.size) :
    h.verifyChecksum = true ↔ Fits h.checksum h.calculateChecksum := by
  have hstored : h.checksum.toNat = wordAt h.message Layout.checksum.pos :=
    h.toWindow.toNat_number16_tail rfl
  rw [verifyChecksum_iff]
  exact internet_eq_zero_iff_fits rfl hsum hstored

end Icmp.Header

namespace Udp

/-- The word that a sender stores for a datagram is the only one, apart from zero, that is right. -/
theorem fits_iff_eq_transportChecksum {stored : UInt16} (hstored : stored ≠ 0)
    (datagram : List UInt8) (ends : Endpoints) :
    Fits stored (transport ends protocolNumber (withoutChecksum datagram)) ↔
      stored = transportChecksum datagram ends := by
  rw [transportChecksum, Fits]
  by_cases hzero : transport ends protocolNumber (withoutChecksum datagram) = 0
  · simp [hzero, hstored]
  · simp [hzero]

namespace Header

theorem verifyChecksum_iff {h : Header} :
    h.verifyChecksum = true ↔ h.checksum = 0 ∨ internet h.datagram = 0 := by
  simp [verifyChecksum]

theorem verifyTransportChecksum_iff {h : Header} {ends : Endpoints} :
    h.verifyTransportChecksum ends = true ↔
      h.checksum = 0 ∨ transport ends protocolNumber h.datagram = 0 := by
  simp [verifyTransportChecksum]

theorem length_datagram_le (h : Header) : h.datagram.length ≤ 65535 := by
  have hlength : h.datagram.length ≤ max h.length.toNat h.headerLength := List.length_take_le ..
  have hstated := h.length.toNat_lt
  simp only [headerLength] at hlength
  omega

theorem toNat_checksum (h : Header) :
    h.checksum.toNat = wordAt h.datagram Layout.checksum.pos :=
  h.toWindow.toNat_number16_take rfl (Nat.le_max_right ..)

theorem verifyChecksum_iff_fits (h : Header) :
    h.verifyChecksum = true ↔ h.checksum = 0 ∨ Fits h.checksum h.calculateChecksum := by
  have hlength := h.length_datagram_le
  rw [verifyChecksum_iff]
  exact or_congr_right (internet_eq_zero_iff_fits rfl (wordSum_lt (by omega)) h.toNat_checksum)

theorem verifyTransportChecksum_iff_eq (h : Header) (ends : Endpoints) :
    h.verifyTransportChecksum ends = true ↔
      h.checksum = 0 ∨ h.checksum = transportChecksum h.datagram ends := by
  have hlength := h.length_datagram_le
  rw [verifyTransportChecksum_iff]
  by_cases hnone : h.checksum = 0
  · simp [hnone]
  · rw [or_iff_right hnone, or_iff_right hnone, ← fits_iff_eq_transportChecksum hnone]
    exact transport_eq_zero_iff_fits rfl (by omega) ends protocolNumber h.toNat_checksum

theorem payload_eq_slice (h : Header) :
    h.payload = slice h.bytes (h.start + 8) (max h.length.toNat 8 - 8) := by
  rw [payload, datagram, Span.tail, headerLength, List.drop_take, List.drop_drop, slice]

/-- A draft over the same frame that is given the same payload leaves the frame as it is and covers
the same datagram. -/
theorem exists_draft (h : Header) : ∃ d₀ d : Draft, Draft.place h.bytes h.start = .ok d₀ ∧
    d₀.setPayload h.payload = .ok () d ∧ d.header = h ∧ d.toMessage.octets = h.datagram := by
  have hroom : h.start + 8 + h.payload.length ≤ h.bytes.length := by
    have hstart : h.start + 8 ≤ h.bytes.length := h.room
    rw [payload_eq_slice, slice, List.length_take, List.length_drop]
    omega
  have hwrite : h.toWindow.write 8 h.payload = h.toWindow := by
    have hsplice : splice h.bytes (h.start + 8) h.payload = h.bytes := by
      rw [payload_eq_slice, splice_slice]
    exact Window.eq_of_span_eq hsplice rfl
  let m := ((Message.ofWindow h.toWindow).copy h.payload).remember h.payload.length
    (Message.copy_room hroom)
  have hset : (Message.ofWindow h.toWindow).setPayload h.payload = .ok () m :=
    Message.setPayload_of_le hroom
  have hoctets : m.octets = h.datagram := by
    have hhead : m.head = h.headerBytes := congrArg Window.head hwrite
    have hpayload : m.payload = h.payload := slice_splice_self hroom
    rw [m.octets_eq_append, hhead, hpayload, h.headerBytes_append_payload]
  refine ⟨.ofWindow h.toWindow, ⟨m⟩, ?_, ?_, congrArg Header.mk hwrite, hoctets⟩
  · exact congrArg (Except.map _) (Window.place_eq_ok_iff.mpr ⟨rfl, rfl⟩)
  · exact congrArg (EStateM.Result.recast id Draft.mk) hset

end Header

end Udp

/-- Every header verifies its checksum by the rule that the stored checksum fits the one calculated
from the rest, an ICMP header if the register can hold the sum over its message. For a transport
checksum that is the one that a draft calculates over the same octets, which is never zero; and to
every header there is such a draft. -/
theorem verification_recalculates :
    (∀ h : Ipv4.Header, h.verifyChecksum = true ↔
      20 ≤ h.headerLength ∧ h.start + h.headerLength ≤ h.bytes.length ∧
        Fits h.checksum h.calculateChecksum) ∧
    (∀ h : Icmp.Header, wordSum h.message < UInt32.size →
      (h.verifyChecksum = true ↔ Fits h.checksum h.calculateChecksum)) ∧
    (∀ h : Udp.Header,
      h.verifyChecksum = true ↔ h.checksum = 0 ∨ Fits h.checksum h.calculateChecksum) ∧
    ∀ h : Udp.Header,
      (∃ d₀ d : Udp.Draft, Udp.Draft.place h.bytes h.start = .ok d₀ ∧
        d₀.setPayload h.payload = .ok () d ∧ d.header = h ∧ d.toMessage.octets = h.datagram) ∧
      ∀ (d : Udp.Draft) (ends : Endpoints), d.toMessage.octets = h.datagram →
        d.transportChecksum ends ≠ 0 ∧
        (h.verifyTransportChecksum ends = true ↔
          h.checksum = 0 ∨ h.checksum = d.transportChecksum ends) := by
  refine ⟨fun h => h.verifyChecksum_iff_fits, fun h => h.verifyChecksum_iff_fits,
    fun h => h.verifyChecksum_iff_fits, fun h => ⟨h.exists_draft, fun d ends hoctets => ?_⟩⟩
  rw [Udp.Draft.transportChecksum, hoctets]
  exact ⟨Udp.transportChecksum_ne_zero _ _, h.verifyTransportChecksum_iff_eq ends⟩

/-- Zero calculated, all ones stored. The ICMP message is right, and so is the datagram, whose draft
has a longer frame. -/
theorem verification_recalculates_of_all_ones :
    let h : Icmp.Header := ⟨⟨⟨[8, 0, 0xff, 0xff, 0xf7, 0xff, 0, 0], 0⟩, by decide⟩⟩
    let u : Udp.Header :=
      ⟨⟨⟨[0xf7, 0xd3, 0, 9, 0, 9, 0xff, 0xff, 1], 0⟩, by decide⟩⟩
    let d : Udp.Draft :=
      ⟨⟨⟨⟨[0xf7, 0xd3, 0, 9, 0, 9, 0xff, 0xff, 1, 7], 0⟩, by decide⟩, 1, by decide⟩⟩
    let ends : Endpoints := ⟨⟨[0, 0, 3, 0], rfl⟩, ⟨[0, 0, 4, 0], rfl⟩⟩
    (h.calculateChecksum = 0 ∧ h.verifyChecksum = true) ∧
      d.transportChecksum ends = 0xffff ∧ u.verifyTransportChecksum ends = true := by
  intro h u d ends
  obtain ⟨-, hicmp, -, hudp⟩ := verification_recalculates
  have hcalculated : h.calculateChecksum = 0 := by decide
  have hsent : d.transportChecksum ends = 0xffff := by decide
  obtain ⟨-, hverify⟩ := (hudp u).2 d ends (by decide)
  refine ⟨⟨hcalculated, (hicmp h (by decide)).mpr (.inr ⟨hcalculated, by decide⟩)⟩, hsent, ?_⟩
  exact hverify.mpr (.inr (hsent ▸ by decide))

end PacketHeaders

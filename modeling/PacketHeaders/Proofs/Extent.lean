import PacketHeaders.Proofs.Guarded.Bounds
import PacketHeaders.Proofs.Verification
import PacketHeaders.Proofs.ZeroSum

/-!
# Where drafts and headers end

A draft remembers how long its payload is. A UDP header goes by its length field and by the end of
the frame, an ICMP header by the end of the frame alone. Once both end in the same place they cover
the same octets: the header has the payload that was accepted last, both calculate one checksum, and
a checksum that is stored verifies. That is so after any run of calls, whatever the frame held before
and whatever a longer payload left behind.
-/

namespace PacketHeaders

open Octets Checksum

namespace Message

/-- The header in the frame cut right behind the payload. -/
def cut (m : Message) : Window 8 where
  bytes := m.bytes.take (m.start + 8 + m.payloadLength)
  start := m.start
  room := by
    rw [List.length_take_of_le m.holds]
    exact Nat.le_add_right ..

theorem tail_cut (m : Message) : m.cut.tail = m.octets := by
  have hlength : m.start + 8 + m.payloadLength - m.start = m.length := by
    simp only [length]
    omega
  change (m.bytes.take (m.start + 8 + m.payloadLength)).drop m.start = m.octets
  rw [List.drop_take, hlength]
  rfl

end Message

namespace Udp.Draft

variable {d : Draft}

/-- Header and draft cover the same octets when they end in the same place. -/
theorem datagram_header_eq_iff : d.header.datagram = d.toMessage.octets ↔
    min (max d.header.length.toNat 8) (d.bytes.length - d.start) = 8 + d.payloadLength := by
  have hroom : d.start + d.toMessage.length ≤ d.bytes.length := d.octets_room
  have hlength : d.toMessage.length = 8 + d.payloadLength := rfl
  have htail : d.tail.length = d.bytes.length - d.start := List.length_drop
  change d.tail.take (max d.header.length.toNat 8) = d.tail.take d.toMessage.length ↔ _
  rw [List.take_eq_take_iff, htail]
  omega

theorem payload_header (h : d.header.datagram = d.toMessage.octets) :
    d.header.payload = d.payload := by
  rw [Header.payload, h]
  exact d.drop_octets

theorem calculateChecksum_header (h : d.header.datagram = d.toMessage.octets) :
    d.header.calculateChecksum = d.defaultChecksum := by
  rw [Header.calculateChecksum, h, defaultChecksum]

theorem datagram_header_setChecksum (h : d.header.datagram = d.toMessage.octets) (value : UInt16) :
    (d.setChecksum value).header.datagram = (d.setChecksum value).toMessage.octets := by
  have hstated : (d.setChecksum value).header.length = d.header.length :=
    d.number16_put_of_apart (by decide) value.toNat
  have hframe : (d.setChecksum value).bytes.length = d.bytes.length := Window.length_put ..
  rw [datagram_header_eq_iff] at h ⊢
  rw [hstated, hframe]
  exact h

theorem payloadLength_le (h : d.header.datagram = d.toMessage.octets) :
    d.payloadLength ≤ 65535 := by
  have hlength := d.header.length_datagram_le
  rw [h, d.length_octets] at hlength
  omega

theorem verifyChecksum_store (h : d.header.datagram = d.toMessage.octets) :
    (d.setChecksum d.defaultChecksum).header.verifyChecksum = true := by
  rw [Header.verifyChecksum_iff, datagram_header_setChecksum h]
  exact .inr (internet_store (payloadLength_le h))

/-- The checksum that is stored is not the zero that would pass without being right. -/
theorem verifyTransportChecksum_store (h : d.header.datagram = d.toMessage.octets)
    (ends : Endpoints) :
    let stored := (d.setChecksum (d.transportChecksum ends)).header
    stored.checksum ≠ 0 ∧ stored.verifyTransportChecksum ends = true := by
  intro stored
  have hchecksum : stored.checksum = d.transportChecksum ends :=
    d.number16_put_self rfl (d.transportChecksum ends)
  refine ⟨hchecksum ▸ transportChecksum_ne_zero _ _, ?_⟩
  rw [Header.verifyTransportChecksum_iff, datagram_header_setChecksum h]
  exact .inr (transport_store (payloadLength_le h) ends)

end Udp.Draft

namespace Icmp.Draft

/-- The message as a header that ends where the draft does. -/
def measured (d : Draft) : Header := ⟨d.cut⟩

variable (d : Draft)

theorem place_measured :
    Header.place (d.bytes.take (d.start + 8 + d.payloadLength)) d.start = .ok d.measured := by
  have hplace : Window.place d.cut.bytes d.start 8 = .ok d.cut :=
    Window.place_eq_ok_iff.mpr ⟨rfl, rfl⟩
  exact congrArg (Except.map Header.mk) hplace

theorem message_measured : d.measured.message = d.toMessage.octets := d.tail_cut

theorem payload_measured : d.measured.payload = d.payload := Message.drop_tail d.tail_cut

theorem calculateChecksum_measured : d.measured.calculateChecksum = d.defaultChecksum := by
  rw [Header.calculateChecksum, message_measured, defaultChecksum]

theorem verifyChecksum_measured : d.withChecksum.measured.verifyChecksum = true := by
  have hroom : Layout.checksum.pos + 2 ≤ d.octets.length := Message.word_room rfl
  have hstored : d.withChecksum.octets =
      splice d.octets Layout.checksum.pos (ofNat 2 d.defaultChecksum.toNat) :=
    d.octets_put Layout.checksum d.defaultChecksum.toNat
  rw [Header.verifyChecksum_iff, message_measured, hstored]
  exact internet_splice_internet rfl hroom

end Icmp.Draft

/-- Whatever run of calls a draft comes out of, its header has the payload that was taken last and
the checksum that the draft calculates, and a checksum that the draft stores is right for its
header. For a UDP draft this is so if length field and frame let the header end with the payload,
for an ICMP draft in the frame that is cut there. -/
theorem drafts_check_what_headers_cover :
    (∀ (w : Window 8) (calls : List Udp.Call),
      let d := runCalls Udp.Draft.call (.ofWindow w) calls
      let taken := takenCalls Udp.Draft.call (.ofWindow w) calls
      min (max d.header.length.toNat 8) (d.bytes.length - d.start) = 8 + d.payloadLength →
      d.header.payload = (taken.findSomeRev? Udp.Call.payload?).getD [] ∧
        d.defaultChecksum = d.header.calculateChecksum ∧
        (d.setChecksum d.defaultChecksum).header.verifyChecksum = true ∧
        ∀ ends, let h := (d.setChecksum (d.transportChecksum ends)).header
          h.checksum ≠ 0 ∧ h.verifyTransportChecksum ends = true) ∧
    ∀ (w : Window 8) (calls : List Icmp.Call),
      let d := runCalls Icmp.Draft.call (.ofWindow w) calls
      let taken := takenCalls Icmp.Draft.call (.ofWindow w) calls
      let view (d : Icmp.Draft) :=
        Icmp.Header.place (d.bytes.take (d.start + 8 + d.payloadLength)) d.start
      (∃ v, view d = .ok v ∧ v.payload = (taken.findSomeRev? Icmp.Call.payload?).getD [] ∧
        d.defaultChecksum = v.calculateChecksum) ∧
      ∃ v, view (d.setChecksum d.defaultChecksum) = .ok v ∧ v.verifyChecksum = true := by
  constructor
  · intro w calls d taken hends
    have hdatagram : d.header.datagram = d.toMessage.octets :=
      Udp.Draft.datagram_header_eq_iff.mpr hends
    refine ⟨?_, (Udp.Draft.calculateChecksum_header hdatagram).symm,
      Udp.Draft.verifyChecksum_store hdatagram, Udp.Draft.verifyTransportChecksum_store hdatagram⟩
    exact (Udp.Draft.payload_header hdatagram).trans (read_runCalls_of_taken
      Udp.Draft.call_checksFirst (fun d => d.payload) _ Udp.Draft.payload_call _ calls)
  · intro w calls d taken view
    refine ⟨⟨d.measured, d.place_measured, ?_, d.calculateChecksum_measured.symm⟩,
      ⟨d.withChecksum.measured, d.withChecksum.place_measured, d.verifyChecksum_measured⟩⟩
    exact d.payload_measured.trans (read_runCalls_of_taken Icmp.Draft.call_checksFirst
      (fun d => d.payload) _ Icmp.Draft.payload_call _ calls)

/-- Behind a longer payload and a refused one, in a datagram whose transport checksum comes out as
zero. -/
theorem drafts_check_what_headers_cover_over_garbage :
    let w : Window 8 := ⟨⟨List.replicate 20 0xaa, 1⟩, by decide⟩
    let calls : List Udp.Call := [.edit (.sourcePort 0xf7d3), .edit (.destinationPort 9),
      .edit (.payload [7, 7, 7]), .edit (.payload [1]), .edit (.payload (List.replicate 12 7)),
      .edit (.length 9)]
    let d := runCalls Udp.Draft.call (.ofWindow w) calls
    let ends : Endpoints := ⟨⟨[0, 0, 3, 0], rfl⟩, ⟨[0, 0, 4, 0], rfl⟩⟩
    d.header.payload = [1] ∧ d.transportChecksum ends = 0xffff ∧
      (d.setChecksum (d.transportChecksum ends)).header.verifyTransportChecksum ends = true := by
  intro w calls d ends
  obtain ⟨hpayload, -, -, hstored⟩ := drafts_check_what_headers_cover.1 w calls (by decide)
  exact ⟨hpayload.trans (by decide), by decide, (hstored ends).2⟩

end PacketHeaders

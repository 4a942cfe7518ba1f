import PacketHeaders.Proofs.Verification
import PacketHeaders.Proofs.ZeroSum

/-!
# Changes that a verification notices

Two headers are compared whose covered octets differ in one aligned word. If the first verifies, the
second does only where zero and all ones, the two spellings of zero, have changed places. An ICMP
message must not have become zero octets by that. An IPv4 header cannot, since it holds its length,
nor can a datagram, since a pseudo-header stands in front of it. The second header may be the first
one in a frame where other octets were written over those that are covered.
-/

namespace PacketHeaders

open Octets Checksum

namespace Window

variable {n : Nat} (w : Window n) {new : List UInt8}

theorem length_tail_write (pos : Nat) (new : List UInt8) :
    (w.write pos new).tail.length = w.tail.length := by
  rw [Span.tail, Span.tail, List.length_drop, List.length_drop, length_write, start_write]

theorem take_tail_write {len : Nat} (h : new.length = (w.tail.take len).length) :
    (w.write 0 new).tail.take len = new := by
  have htail : w.tail.length = w.bytes.length - w.start := List.length_drop
  have hstart := w.room
  rw [List.length_take] at h
  have hroom : w.start + 0 + new.length ≤ w.bytes.length := by omega
  have hread : (w.write 0 new).tail.take new.length = new := slice_splice_self hroom
  refine (List.take_eq_take_iff.mpr ?_).trans hread
  rw [length_tail_write]
  omega

theorem tail_write (h : new.length = w.tail.length) : (w.write 0 new).tail = new := by
  have hall : (w.write 0 new).tail.length ≤ w.tail.length := Nat.le_of_eq (w.length_tail_write ..)
  rw [← List.take_of_length_le hall]
  exact w.take_tail_write (by rwa [List.take_length])

end Window

variable {pos old new : Nat}

namespace Ipv4.Header

/-- The octet with a believable header length is not zero. -/
theorem exists_ne_zero {h : Header} (hlen : 20 ≤ h.headerLength) :
    ∃ b ∈ h.headerBytes, b ≠ 0 := by
  have hroom : h.start + 20 ≤ h.bytes.length := h.room
  have hfirst : h.start < h.bytes.length := by omega
  refine ⟨h.bytes[h.start], List.mem_of_getElem? (i := 0) ?_, ?_⟩
  · rw [headerBytes, List.getElem?_take, if_pos (by omega), Span.tail, List.getElem?_drop]
    exact List.getElem?_eq_getElem hfirst
  · intro hzero
    have hnumber : h.number Layout.versionAndLength = h.bytes[h.start].toNat :=
      (h.toWindow.number_eq_octetAt _ rfl).trans (octetAt_eq_getElem hfirst)
    rw [headerLength, lengthInWords, hnumber, hzero] at hlen
    exact absurd hlen (by decide)

theorem headerBytes_write {h : Header} {other : List UInt8}
    (hother : other.length = h.headerBytes.length)
    (hlength : (Header.mk (h.write 0 other)).lengthInWords = h.lengthInWords) :
    (Header.mk (h.write 0 other)).headerBytes = other := by
  rw [headerBytes, headerLength, hlength]
  exact h.take_tail_write hother

theorem verifyChecksum_iff_respelled {h h' : Header} (hverify : h.verifyChecksum = true)
    (hword : Reworded pos old new h.headerBytes h'.headerBytes)
    (hlength : h'.lengthInWords = h.lengthInWords) :
    h'.verifyChecksum = true ↔ Respelled old new := by
  have hsame : h'.headerLength = h.headerLength := by
    rw [headerLength, hlength, headerLength]
  obtain ⟨hlen, hwhole, hzero⟩ := verifyChecksum_iff.mp hverify
  have hlen' : 20 ≤ h'.headerLength := hsame ▸ hlen
  have hwhole' : h'.headerBytes.length = h'.headerLength := by
    rw [hword.changed.length_eq, hwhole, hsame]
  rw [verifyChecksum_iff, and_iff_right hlen', and_iff_right hwhole',
    hword.internet_eq_zero_iff h.wordSum_headerBytes_lt h'.wordSum_headerBytes_lt hzero,
    and_iff_left (exists_ne_zero hlen')]

end Ipv4.Header

theorem Icmp.Header.verifyChecksum_iff_respelled {h h' : Header} (hverify : h.verifyChecksum = true)
    (hword : Reworded pos old new h.message h'.message) (hsum : wordSum h.message < UInt32.size)
    (hsum' : wordSum h'.message < UInt32.size) :
    h'.verifyChecksum = true ↔ Respelled old new ∧ ∃ b ∈ h'.message, b ≠ 0 := by
  rw [verifyChecksum_iff] at hverify ⊢
  exact hword.internet_eq_zero_iff hsum hsum' hverify

namespace Endpoints

def octets (ends : Endpoints) : List UInt8 := ends.source.octets ++ ends.destination.octets

theorem length_octets (ends : Endpoints) : ends.octets.length = 8 := by
  rw [octets, List.length_append, ends.source.length_octets, ends.destination.length_octets]

end Endpoints

namespace Udp

variable {ends ends' : Endpoints}

/-- All that the transport checksum of a datagram covers. -/
def covered (ends : Endpoints) (datagram : List UInt8) : List UInt8 :=
  pseudoHeader ends protocolNumber datagram.length ++ datagram

theorem transport_iff_respelled {datagram datagram' : List UInt8}
    (hword : Reworded pos old new (covered ends datagram) (covered ends' datagram'))
    (hlen : datagram.length ≤ 65535) (hlen' : datagram'.length ≤ 65535)
    (hzero : transport ends protocolNumber datagram = 0) :
    transport ends' protocolNumber datagram' = 0 ↔ Respelled old new := by
  have hsum (ends : Endpoints) {datagram : List UInt8} (hlen : datagram.length ≤ 65535) :
      wordSum (covered ends datagram) < UInt32.size := by
    apply wordSum_lt
    rw [covered, List.length_append, length_pseudoHeader]
    omega
  have hprotocol : ∃ b ∈ covered ends' datagram', b ≠ 0 :=
    ⟨protocolNumber, by simp [covered, pseudoHeader], by decide⟩
  rw [transport_eq_internet] at hzero ⊢
  exact (hword.internet_eq_zero_iff (hsum ends hlen) (hsum ends' hlen') hzero).trans
    (and_iff_left hprotocol)

namespace Header

theorem verifyTransportChecksum_iff_respelled_ends {h : Header} (hstored : h.checksum ≠ 0)
    (hverify : h.verifyTransportChecksum ends = true)
    (hword : Reworded pos old new ends.octets ends'.octets) :
    h.verifyTransportChecksum ends' = true ↔ Respelled old new := by
  have hpseudo (back : List UInt8) : Reworded pos old new (ends.octets ++ back)
      (ends'.octets ++ back) := hword.append_right (by rw [ends.length_octets]) back
  have hcovered : Reworded pos old new (covered ends h.datagram) (covered ends' h.datagram) := by
    refine (hpseudo _).append_right ?_ h.datagram
    exact congrArg (· % 2) (length_pseudoHeader ..)
  rw [verifyTransportChecksum_iff, or_iff_right hstored] at hverify ⊢
  exact transport_iff_respelled hcovered h.length_datagram_le h.length_datagram_le hverify

theorem datagram_write {h : Header} {other : List UInt8}
    (hother : other.length = h.datagram.length)
    (hlength : wordAt other Layout.length.pos = wordAt h.datagram Layout.length.pos) :
    (Header.mk (h.write 0 other)).datagram = other := by
  have hshort : 8 ≤ max h.length.toNat h.headerLength := Nat.le_max_right ..
  have hread : (h.write 0 other).tail.take (max h.length.toNat h.headerLength) = other :=
    h.take_tail_write hother
  have hstated : (Header.mk (h.write 0 other)).length = h.length := by
    rw [← UInt16.toNat_inj, length, (h.write 0 other).toNat_number16_take rfl hshort, hread,
      hlength]
    exact (h.toNat_number16_take rfl hshort).symm
  rw [datagram, hstated]
  exact hread

theorem verifyTransportChecksum_iff_respelled {h h' : Header} (hstored : h.checksum ≠ 0)
    (hverify : h.verifyTransportChecksum ends = true)
    (hword : Reworded pos old new h.datagram h'.datagram) (hpos : pos ≠ Layout.checksum.pos) :
    h'.verifyTransportChecksum ends = true ↔ Respelled old new := by
  have hkept : h'.checksum = h.checksum := by
    rw [← UInt16.toNat_inj, h'.toNat_checksum, h.toNat_checksum]
    exact hword.wordAt_eq rfl hpos
  have hcovered : Reworded (12 + pos) old new (covered ends h.datagram)
      (covered ends h'.datagram) := by
    rw [covered, covered, hword.changed.length_eq]
    have hfront := hword.append_left (congrArg (· % 2)
      (length_pseudoHeader ends protocolNumber h.datagram.length))
    rwa [length_pseudoHeader] at hfront
  have hstored' : h'.checksum ≠ 0 := hkept ▸ hstored
  rw [verifyTransportChecksum_iff, or_iff_right hstored] at hverify
  rw [verifyTransportChecksum_iff, or_iff_right hstored']
  exact transport_iff_respelled hcovered h.length_datagram_le h'.length_datagram_le hverify

end Header

end Udp

/-- When one aligned word that a checksum covers is replaced in the frame, a header that verified
goes on to do so only if zero is now spelled the other way: in an IPv4 header that keeps its length,
in an ICMP message that is not zero octets now, in the addresses of a datagram and in the datagram
itself, its length and checksum apart. The sums over ICMP messages are those that the register can
hold. -/
theorem unnoticed_words_spell_zero :
    (∀ (h : Ipv4.Header) (other : List UInt8), h.verifyChecksum = true →
      Reworded pos old new h.headerBytes other →
      let h' : Ipv4.Header := ⟨h.write 0 other⟩
      h'.lengthInWords = h.lengthInWords → (h'.verifyChecksum = true ↔ Respelled old new)) ∧
    (∀ (h : Icmp.Header) (other : List UInt8), h.verifyChecksum = true →
      Reworded pos old new h.message other →
      wordSum h.message < UInt32.size → wordSum other < UInt32.size →
      let h' : Icmp.Header := ⟨h.write 0 other⟩
      (h'.verifyChecksum = true ↔ Respelled old new ∧ ∃ b ∈ other, b ≠ 0)) ∧
    ∀ (h : Udp.Header) (ends : Endpoints), h.checksum ≠ 0 →
      h.verifyTransportChecksum ends = true →
      (∀ ends', Reworded pos old new ends.octets ends'.octets →
        (h.verifyTransportChecksum ends' = true ↔ Respelled old new)) ∧
      ∀ other, Reworded pos old new h.datagram other →
        pos ≠ Udp.Layout.length.pos → pos ≠ Udp.Layout.checksum.pos →
        let h' : Udp.Header := ⟨h.write 0 other⟩
        (h'.verifyTransportChecksum ends = true ↔ Respelled old new) := by
  refine ⟨?_, ?_, fun h ends hstored hverify => ⟨fun ends' => ?_, ?_⟩⟩
  · intro h other hverify hword h' hlength
    have hbytes : h'.headerBytes = other :=
      Ipv4.Header.headerBytes_write hword.changed.length_eq hlength
    exact Ipv4.Header.verifyChecksum_iff_respelled hverify (hbytes ▸ hword) hlength
  · intro h other hverify hword hsum hsum' h'
    have hmessage : h'.message = other := h.tail_write hword.changed.length_eq
    rw [← hmessage] at hword hsum' ⊢
    exact Icmp.Header.verifyChecksum_iff_respelled hverify hword hsum hsum'
  · exact Udp.Header.verifyTransportChecksum_iff_respelled_ends hstored hverify
  · intro other hword hlength hchecksum h'
    have hdatagram : h'.datagram = other :=
      Udp.Header.datagram_write hword.changed.length_eq (hword.wordAt_eq rfl hlength)
    exact Udp.Header.verifyTransportChecksum_iff_respelled hstored hverify (hdatagram ▸ hword)
      hchecksum

/-- All ones for zero go unnoticed in the identification of an IPv4 header and in an address or the
payload of a datagram. Zero for all ones does not in a message that holds nothing else. -/
theorem unnoticed_words_spell_zero_in_every_layer :
    let ip : Ipv4.Header :=
      ⟨⟨⟨[0x45, 0, 0, 0, 0, 0, 0, 0, 0, 0, 0xba, 0xff, 0, 0, 0, 0, 0, 0, 0, 0], 0⟩, by decide⟩⟩
    let icmp : Icmp.Header := ⟨⟨⟨[0, 0, 0xff, 0xff, 0, 0, 0, 0], 0⟩, by decide⟩⟩
    let udp : Udp.Header :=
      ⟨⟨⟨[0xf7, 0xcf, 0, 9, 0, 11, 0xff, 0xff, 0, 0, 1], 0⟩, by decide⟩⟩
    let ends : Endpoints := ⟨⟨[0, 0, 3, 0], rfl⟩, ⟨[0, 0, 4, 0], rfl⟩⟩
    (Ipv4.Header.mk (ip.write 0 (splice ip.headerBytes 4 [0xff, 0xff]))).verifyChecksum = true ∧
      (Icmp.Header.mk (icmp.write 0 (splice icmp.message 2 [0, 0]))).verifyChecksum ≠ true ∧
      udp.verifyTransportChecksum ⟨⟨[0xff, 0xff, 3, 0], rfl⟩, ends.destination⟩ = true ∧
      (Udp.Header.mk (udp.write 0 (splice udp.datagram 8 [0xff, 0xff]))).verifyTransportChecksum
        ends = true := by
  intro ip icmp udp ends
  have hones : Respelled 0 65535 := .inl ⟨rfl, rfl⟩
  have hheader := (@unnoticed_words_spell_zero 4 0 65535).1 ip _ (by decide)
    ⟨rfl, .splice _ _ [0xff, 0xff], by decide, by decide, by decide⟩ (by decide)
  have hmessage := (@unnoticed_words_spell_zero 2 65535 0).2.1 icmp _ (by decide)
    ⟨rfl, .splice _ _ [0, 0], by decide, by decide, by decide⟩ (by decide) (by decide)
  have hgone : splice icmp.message 2 [0, 0] = List.replicate 8 0 := by decide
  have hends := ((@unnoticed_words_spell_zero 0 0 65535).2.2 udp ends (by decide) (by decide)).1
    ⟨⟨[0xff, 0xff, 3, 0], rfl⟩, ends.destination⟩
    ⟨rfl, .splice ends.octets 0 [0xff, 0xff], by decide, by decide, by decide⟩
  have hdatagram := ((@unnoticed_words_spell_zero 8 0 65535).2.2 udp ends (by decide) (by decide)).2
    _ ⟨rfl, .splice _ _ [0xff, 0xff], by decide, by decide, by decide⟩ (by decide) (by decide)
  refine ⟨hheader.mpr hones, fun hverify => ?_, hends.mpr hones, hdatagram.mpr hones⟩
  obtain ⟨-, b, hb, hne⟩ := hmessage.mp hverify
  exact hne (List.eq_of_mem_replicate (hgone ▸ hb))

end PacketHeaders

import PacketHeaders.Proofs.InternetChecksum
import PacketHeaders.Proofs.NextHeader
import PacketHeaders.Proofs.Records.Ipv4
import PacketHeaders.Proofs.Records.Message

/-!
# Checksums that were stored

A checksum that is stored where it belongs verifies. The checksum of an IPv4 header covers the
header as long as it says it is, that of a message its header and its payload. A header calculates
the same checksum whatever is stored in it.
-/

namespace PacketHeaders

open Checksum

/-- A field that is blanked shows nothing of what was written into it, however much is covered. -/
theorem Window.blank_put {n : Nat} (w : Window n) {f : Field n} (hwidth : f.width = 2)
    (value len : Nat) : Octets.splice ((w.put f value).tail.take len) f.pos [0, 0] =
      Octets.splice (w.tail.take len) f.pos [0, 0] := by
  have hwritten : (w.put f value).tail.take len =
      Octets.splice (w.tail.take len) f.pos (Octets.ofNat f.width value) :=
    Octets.slice_splice_within ..
  have hlength : (Octets.ofNat f.width value).length = [(0 : UInt8), 0].length :=
    (Octets.length_ofNat ..).trans hwidth
  rw [hwritten, Octets.splice_splice_self hlength]

namespace Message

variable (m : Message)

/-- Writing a header field of a message writes into its octets. -/
theorem octets_put (f : Field 8) (value : Nat) :
    (m.put f value).octets = Octets.splice m.octets f.pos (Octets.ofNat f.width value) :=
  Octets.slice_splice_within ..

variable {m} {f : Field 8}

theorem word_room (hwidth : f.width = 2) : f.pos + 2 ≤ m.octets.length := by
  have hinside := f.inside
  have hoctets := m.length_octets
  omega

theorem internet_put_eq_zero_iff (hwidth : f.width = 2) (heven : f.pos % 2 = 0)
    (hlen : m.payloadLength ≤ 65535) (stored : UInt16) :
    internet (m.put f stored.toNat).octets = 0 ↔
      Fits stored (internet (Octets.splice m.octets f.pos [0, 0])) := by
  have hoctets := m.length_octets
  rw [octets_put, hwidth]
  exact internet_splice_eq_zero_iff heven (word_room hwidth) (by omega) stored

theorem transport_put_eq_zero_iff (hwidth : f.width = 2) (heven : f.pos % 2 = 0)
    (hlen : m.payloadLength ≤ 65535) (ends : Endpoints) (protocol : UInt8) (stored : UInt16) :
    transport ends protocol (m.put f stored.toNat).octets = 0 ↔
      Fits stored (transport ends protocol (Octets.splice m.octets f.pos [0, 0])) := by
  have hoctets := m.length_octets
  rw [octets_put, hwidth]
  exact transport_splice_eq_zero_iff heven (word_room hwidth) (by omega) ends protocol stored

end Message

namespace Ipv4.Header

variable (h : Header) (value : Nat)

theorem headerLength_put :
    (Header.mk (h.put Layout.checksum value)).headerLength = h.headerLength := by
  simp (disch := decide) [headerLength, lengthInWords]

/-- A header that ends ahead of its checksum does not cover it in the first place. -/
theorem calculateChecksum_put :
    (Header.mk (h.put Layout.checksum value)).calculateChecksum = h.calculateChecksum := by
  rw [calculateChecksum, headerBytes, headerLength_put]
  exact congrArg internet (h.blank_put rfl value h.headerLength)

end Ipv4.Header

theorem Icmp.Header.calculateChecksum_put (h : Header) (value : Nat) :
    (Header.mk (h.put Layout.checksum value)).calculateChecksum = h.calculateChecksum := by
  have hall (w : Window 8) (hw : w.bytes.length = h.bytes.length) :
      w.tail.take h.bytes.length = w.tail := by
    apply List.take_of_length_le
    rw [Span.tail, List.length_drop, hw]
    exact Nat.sub_le ..
  have hblank := h.blank_put (f := Layout.checksum) rfl value h.bytes.length
  rw [hall _ (Window.length_put ..), hall _ rfl] at hblank
  exact congrArg internet hblank

theorem Udp.Header.calculateChecksum_put (h : Header) (value : Nat) :
    (Header.mk (h.put Layout.checksum value)).calculateChecksum = h.calculateChecksum := by
  have hlength : (Header.mk (h.put Layout.checksum value)).length = h.length :=
    h.number16_put_of_apart (by decide) value
  rw [calculateChecksum, datagram, hlength]
  exact congrArg internet (h.blank_put rfl value (max h.length.toNat 8))

namespace Ipv4.Draft

theorem headerLength_setChecksum (d : Draft) (value : UInt16) :
    (d.setChecksum value).header.headerLength = d.header.headerLength :=
  d.header.headerLength_put value.toNat

theorem defaultChecksum_setChecksum (d : Draft) (value : UInt16) :
    (d.setChecksum value).defaultChecksum = d.defaultChecksum :=
  d.header.calculateChecksum_put value.toNat

theorem headerBytes_setChecksum (d : Draft) (value : UInt16) :
    (d.setChecksum value).header.headerBytes =
      Octets.splice d.header.headerBytes Layout.checksum.pos (Octets.ofNat 2 value.toNat) := by
  rw [Header.headerBytes, headerLength_setChecksum]
  exact Octets.slice_splice_within ..

variable {d : Draft}

theorem verifyChecksum_store (hlen : 20 ≤ d.header.headerLength)
    (hroom : d.start + d.header.headerLength ≤ d.bytes.length) :
    (d.setChecksum d.defaultChecksum).header.verifyChecksum = true := by
  have hbytes : d.header.headerBytes.length = d.header.headerLength := Octets.length_slice hroom
  have hmax := d.header.headerLength_le
  have hpos : Layout.checksum.pos + 2 ≤ d.header.headerBytes.length := by
    rw [hbytes]
    exact Nat.le_trans (by decide) hlen
  have hzero : internet (d.setChecksum d.defaultChecksum).header.headerBytes = 0 := by
    rw [headerBytes_setChecksum, internet_splice_eq_zero_iff (by decide) hpos (by omega)]
    exact .inl rfl
  have hwhole : (d.setChecksum d.defaultChecksum).header.headerBytes.length =
      d.header.headerLength := by
    rw [headerBytes_setChecksum, Octets.length_splice, hbytes]
  simp [Header.verifyChecksum, headerLength_setChecksum, hzero, hwhole, hlen]

/-- The same draft in a new frame, with its checksum stored. -/
def resealed (d : Draft) (bytes : List UInt8) : Draft :=
  let d' : Draft := ⟨d.toWindow.adopt bytes⟩
  d'.setChecksum d'.defaultChecksum

variable {bytes : List UInt8}

theorem fields_adopt (h : bytes.length = d.bytes.length)
    (hhead : Octets.slice bytes d.start 20 = Octets.slice d.bytes d.start 20) :
    (Draft.mk (d.toWindow.adopt bytes)).header.fields = d.header.fields := by
  apply Header.fields_congr
  change Octets.slice (d.toWindow.adopt bytes).bytes (d.toWindow.adopt bytes).start 20 = _
  rw [Window.bytes_adopt h, Window.start_adopt, hhead]
  rfl

theorem changed_resealed (h : bytes.length = d.bytes.length) :
    Octets.ChangedWithin d.start (d.start + 20) bytes (d.resealed bytes).bytes := by
  have hwritten := Window.Rewritten.put (d.toWindow.adopt bytes) Layout.checksum
    (Draft.mk (d.toWindow.adopt bytes)).defaultChecksum.toNat
  have hchanged := hwritten.changed
  rwa [Window.bytes_adopt h, Window.start_adopt] at hchanged

theorem start_resealed : (d.resealed bytes).start = d.start := Window.start_adopt ..

theorem fields_resealed (h : bytes.length = d.bytes.length)
    (hhead : Octets.slice bytes d.start 20 = Octets.slice d.bytes d.start 20) :
    (d.resealed bytes).header.fields =
      { d.header.fields with checksum := (d.resealed bytes).header.checksum } := by
  let d' : Draft := ⟨d.toWindow.adopt bytes⟩
  obtain ⟨hok, -⟩ := (agrees_edit d' (.checksum d'.defaultChecksum)).of_ok
  have hfields : (d.resealed bytes).header.fields =
      { d'.header.fields with checksum := d'.defaultChecksum } := (Except.ok.inj hok).symm
  have hchecksum : (d.resealed bytes).header.checksum = d'.defaultChecksum :=
    congrArg Fields.checksum hfields
  rw [hchecksum, hfields, fields_adopt h hhead]

theorem verifyChecksum_resealed (h : bytes.length = d.bytes.length)
    (hhead : Octets.slice bytes d.start 20 = Octets.slice d.bytes d.start 20)
    (hlen : 20 ≤ d.header.headerLength) (hroom : d.start + d.header.headerLength ≤ bytes.length) :
    (d.resealed bytes).header.verifyChecksum = true := by
  have hsame : (Draft.mk (d.toWindow.adopt bytes)).header.headerLength = d.header.headerLength :=
    congrArg Fields.headerLength (fields_adopt h hhead)
  apply verifyChecksum_store
  · rwa [hsame]
  · rwa [hsame, Window.start_adopt, Window.bytes_adopt h]

end Ipv4.Draft

namespace Icmp.Draft

/-- The draft with its checksum stored. -/
def withChecksum (d : Draft) : Draft := d.setChecksum d.defaultChecksum

theorem internet_withChecksum {d : Draft} (hlen : d.payloadLength ≤ 65535) :
    internet d.withChecksum.octets = 0 :=
  (Message.internet_put_eq_zero_iff (f := Layout.checksum) rfl rfl hlen _).mpr (.inl rfl)

end Icmp.Draft

namespace Udp

theorem transportChecksum_ne_zero (datagram : List UInt8) (ends : Endpoints) :
    transportChecksum datagram ends ≠ 0 := by
  simp only [transportChecksum]
  split
  · decide
  · assumption

theorem fits_transportChecksum (datagram : List UInt8) (ends : Endpoints) :
    Fits (transportChecksum datagram ends)
      (transport ends protocolNumber (withoutChecksum datagram)) := by
  simp only [transportChecksum]
  split
  · exact .inr ⟨‹_›, rfl⟩
  · exact .inl rfl

namespace Draft

variable {d : Draft}

theorem internet_store (hlen : d.payloadLength ≤ 65535) :
    internet (d.setChecksum d.defaultChecksum).octets = 0 :=
  (Message.internet_put_eq_zero_iff (f := Layout.checksum) rfl rfl hlen _).mpr (.inl rfl)

theorem transport_store (hlen : d.payloadLength ≤ 65535) (ends : Endpoints) :
    transport ends protocolNumber (d.setChecksum (d.transportChecksum ends)).octets = 0 :=
  (Message.transport_put_eq_zero_iff (f := Layout.checksum) rfl rfl hlen ends _ _).mpr
    (fits_transportChecksum ..)

end Draft

end Udp

end PacketHeaders

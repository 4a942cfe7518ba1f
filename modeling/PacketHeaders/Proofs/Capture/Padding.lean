import PacketHeaders.Proofs.Capture.Longer
import PacketHeaders.Proofs.Forecast

/-!
# Octets behind a datagram

In a frame that holds an IPv4 datagram to its end, octets behind the datagram do not matter: the
same fault is met, or the same datagram is seen, and the transport header lies in the same cut of
the frame, so that no payload and no checksum depends on the padding.
-/

namespace PacketHeaders

open Octets

namespace Ipv4.Header

/-- A datagram that the frame holds as far as its total length says, its header included. -/
structure Whole (h : Header) : Prop where
  length_le : h.headerLength ≤ h.totalLength.toNat
  stop_le : h.start + h.totalLength.toNat ≤ h.bytes.length

/-- Headers of equal datagrams, whatever lies behind. -/
structure SameDatagram (h h' : Header) : Prop where
  start_eq : h'.start = h.start
  fields_eq : h'.fields = h.fields
  headerBytes_eq : h'.headerBytes = h.headerBytes
  datagramEnd_eq : h'.datagramEnd = h.datagramEnd
  payload_eq : h'.payload = h.payload
  calculateChecksum_eq : h'.calculateChecksum = h.calculateChecksum
  verifyChecksum_eq : h'.verifyChecksum = h.verifyChecksum

namespace Whole

variable {h h' : Header} (hw : h.Whole)

include hw

theorem datagramEnd_eq : h.datagramEnd = h.start + h.totalLength.toNat := by
  rw [datagramEnd, if_neg (Nat.not_lt_of_le hw.length_le), Nat.min_eq_left hw.stop_le]

variable (hc : h.toSpan.ContinuesIn h'.toSpan)

include hc

theorem of_continuesIn : h'.Whole where
  length_le := by
    rw [headerLength_of_continuesIn hc, totalLength_of_continuesIn hc]
    exact hw.length_le
  stop_le := by
    rw [hc.start_eq, totalLength_of_continuesIn hc]
    exact Nat.le_trans hw.stop_le hc.front.length_le

theorem datagramEnd_of_continuesIn : h'.datagramEnd = h.datagramEnd := by
  rw [(hw.of_continuesIn hc).datagramEnd_eq, hw.datagramEnd_eq, hc.start_eq,
    totalLength_of_continuesIn hc]

theorem take_datagramEnd_of_continuesIn :
    h'.bytes.take h'.datagramEnd = h.bytes.take h.datagramEnd := by
  obtain ⟨rest, hrest⟩ := hc.front
  rw [hw.datagramEnd_of_continuesIn hc, ← hrest, List.take_append_of_le_length h.datagramEnd_le]

theorem next_of_continuesIn (n : Nat) : h'.next n = h.next n := by
  have hlength := headerLength_of_continuesIn hc
  rcases Nat.lt_or_ge h.headerLength 20 with hlen | hlen
  · rw [next_of_length_lt hlen, next_of_length_lt (hlength ▸ hlen), hlength]
  · rw [next_of_le_length hlen, next_of_le_length (hlength ▸ hlen),
      hw.take_datagramEnd_of_continuesIn hc, payloadStart_of_continuesIn hc]

theorem headerBytes_of_continuesIn : h'.headerBytes = h.headerBytes := by
  obtain ⟨rest, hrest⟩ := hc.tail
  have hroom : h.headerLength ≤ h.tail.length := by
    have hlength := hw.length_le
    have hstop := hw.stop_le
    rw [Span.tail, List.length_drop]
    omega
  rw [headerBytes, headerBytes, headerLength_of_continuesIn hc, ← hrest,
    List.take_append_of_le_length hroom]

theorem sameDatagram : h.SameDatagram h' := by
  have hheader := hw.headerBytes_of_continuesIn hc
  refine ⟨hc.start_eq, fields_of_continuesIn hc, hheader, hw.datagramEnd_of_continuesIn hc, ?_, ?_,
    ?_⟩
  · rw [payload, payload, hw.take_datagramEnd_of_continuesIn hc, payloadStart_of_continuesIn hc]
  · rw [calculateChecksum, calculateChecksum, hheader]
  · rw [verifyChecksum, verifyChecksum, hheader, headerLength_of_continuesIn hc]

end Whole

end Ipv4.Header

theorem Transport.ofIpv4_of_whole {h h' : Ipv4.Header} (hw : h.Whole)
    (hc : h.toSpan.ContinuesIn h'.toSpan) : ofIpv4 h' = ofIpv4 h := by
  have hnumber : h'.protocolNumber = h.protocolNumber :=
    congrArg Ipv4.Fields.protocolNumber (Ipv4.Header.fields_of_continuesIn hc)
  have hnext := hw.next_of_continuesIn hc
  rw [ofIpv4, ofIpv4, Ipv4.Header.protocol, Ipv4.Header.protocol, hnumber, Ipv4.Header.icmp,
    Ipv4.Header.icmp, Ipv4.Header.udp, Ipv4.Header.udp, Ipv4.Header.tcp, Ipv4.Header.tcp, hnext,
    hnext]

def Ethernet.Header.first {bytes : List UInt8} (h : 14 ≤ bytes.length) : Ethernet.Header :=
  ⟨⟨⟨bytes, 0⟩, h⟩⟩

/-- A frame that holds an IPv4 datagram to its end. -/
structure HoldsDatagram (bytes : List UInt8) : Prop where
  room : 34 ≤ bytes.length
  ipv4 : wordAt bytes 12 = 0x0800
  length_le : 4 * (octetAt bytes 14 % 16) ≤ wordAt bytes 16
  stop_le : 14 + wordAt bytes 16 ≤ bytes.length

/-- Dissections of a frame and of one that goes on, which agree on the datagram and all within. -/
structure Dissection.SameDatagram (d d' : Dissection) : Prop where
  network : ∃ h h', d.network = .ipv4 h ∧ d'.network = .ipv4 h' ∧ h.SameDatagram h'
  transport : d'.transport = d.transport

namespace HoldsDatagram

variable {bytes : List UInt8} (hb : HoldsDatagram bytes)

include hb

theorem whole : (Ipv4.Header.first hb.room).Whole := by
  have htotal : (Ipv4.Header.first hb.room).totalLength.toNat = wordAt bytes 16 :=
    Window.toNat_number16 _ _ rfl
  refine ⟨?_, ?_⟩
  · rw [headerLength_first, htotal]
    exact hb.length_le
  · rw [htotal]
    exact hb.stop_le

theorem dissect_eq : dissect bytes = (Transport.ofIpv4 (Ipv4.Header.first hb.room)).map fun t =>
    ⟨.first (Nat.le_trans (by decide) hb.room), .ipv4 (Ipv4.Header.first hb.room), t⟩ := by
  have hroom : 14 ≤ bytes.length := Nat.le_trans (by decide) hb.room
  have hether : (Ethernet.Header.first hroom).etherType = 0x0800 :=
    UInt16.toNat_inj.mp ((Window.toNat_number16 _ _ rfl).trans hb.ipv4)
  have hipv4 : (Ethernet.Header.first hroom).ipv4 = .ok (.first hb.room) :=
    congrArg (Except.map Ipv4.Header.mk) (Window.place_of_le hb.room)
  have hnetwork : Network.ofEthernet (.first hroom) = .ok (.ipv4 (.first hb.room)) := by
    rw [Network.ofEthernet_of_ipv4 hether, hipv4]
    rfl
  have hplace : Ethernet.Header.place bytes 0 = .ok (.first hroom) :=
    congrArg (Except.map Ethernet.Header.mk) (Window.place_of_le hroom)
  rw [dissect, hplace]
  change Network.ofEthernet (.first hroom) >>= _ = _
  rw [hnetwork]
  change Transport.ofIpv4 (.first hb.room) >>= _ = _
  cases Transport.ofIpv4 (.first hb.room) <;> rfl

theorem append (padding : List UInt8) : HoldsDatagram (bytes ++ padding) := by
  have hroom := hb.room
  have hstop := hb.stop_le
  have hlength : bytes.length ≤ (bytes ++ padding).length := (List.prefix_append ..).length_le
  refine ⟨by omega, ?_, ?_, ?_⟩
  · rw [wordAt_append (by omega)]
    exact hb.ipv4
  · rw [octetAt_append (by omega), wordAt_append (by omega)]
    exact hb.length_le
  · rw [wordAt_append (by omega)]
    omega

theorem same_append (padding : List UInt8) :
    (∀ fault, dissect (bytes ++ padding) = .error fault ↔ dissect bytes = .error fault) ∧
      ∀ d d', dissect bytes = .ok d → dissect (bytes ++ padding) = .ok d' → d.SameDatagram d' := by
  have hc : (Ipv4.Header.first hb.room).toSpan.ContinuesIn
      (Ipv4.Header.first (hb.append padding).room).toSpan := ⟨rfl, List.prefix_append ..⟩
  rw [hb.dissect_eq, (hb.append padding).dissect_eq, Transport.ofIpv4_of_whole hb.whole hc]
  cases Transport.ofIpv4 (Ipv4.Header.first hb.room) with
  | error fault => exact ⟨fun _ => Iff.rfl, fun _ _ h => nomatch h⟩
  | ok t =>
    refine ⟨fun _ => ⟨nofun, nofun⟩, ?_⟩
    rintro _ _ ⟨⟩ ⟨⟩
    exact ⟨⟨_, _, rfl, rfl, hb.whole.sameDatagram hc⟩, rfl⟩

end HoldsDatagram

/-- More octets never hurt, and octets behind a whole datagram do not matter. -/
theorem dissect_append (bytes padding : List UInt8) :
    (∀ d, dissect bytes = .ok d →
      ∃ d', dissect (bytes ++ padding) = .ok d' ∧ d.ContinuesIn d') ∧
    (HoldsDatagram bytes →
      (∀ fault, dissect (bytes ++ padding) = .error fault ↔ dissect bytes = .error fault) ∧
      ∀ d d', dissect bytes = .ok d → dissect (bytes ++ padding) = .ok d' →
        d.SameDatagram d') := by
  constructor
  · intro d hd
    exact Dissection.exists_of_isPrefix (List.prefix_append ..) hd
  · intro hb
    exact hb.same_append padding

/-- A UDP datagram of twelve octets, in an IPv4 datagram of the length that is stated. -/
def statedFrame (total : UInt8) : List UInt8 :=
  List.replicate 12 0xff ++ [8, 0] ++
    [0x45, 0, 0, total, 0, 0, 0, 0, 64, 17, 0, 0, 10, 0, 0, 1, 10, 0, 0, 2] ++
    [0, 7, 0, 9, 0xff, 0xff, 0xab, 0xcd, 1, 2, 3, 4]

/-- The length field of the datagram does not reach into the padding, and a datagram that ends
inside the UDP header does not borrow from what follows. -/
theorem dissect_append_of_stated_length :
    (∃ d d', dissect (statedFrame 32) = .ok d ∧
      dissect (statedFrame 32 ++ [0xde, 0xad]) = .ok d' ∧ d.ContinuesIn d' ∧
      HoldsDatagram (statedFrame 32) ∧ d.SameDatagram d') ∧
    HoldsDatagram (statedFrame 24) ∧
      dissect (statedFrame 24) = .error (.bounds 34 8 4) ∧
      dissect (statedFrame 24 ++ [0xde, 0xad]) = .error (.bounds 34 8 4) := by
  let d : Dissection := ⟨⟨⟨⟨statedFrame 32, 0⟩, by decide⟩⟩,
    .ipv4 ⟨⟨⟨statedFrame 32, 14⟩, by decide⟩⟩,
    .udp ⟨⟨⟨(statedFrame 32).take 46, 34⟩, by decide⟩⟩⟩
  have hd : dissect (statedFrame 32) = .ok d := by rfl
  have hwhole : HoldsDatagram (statedFrame 32) := by constructor <;> decide
  have hcut : HoldsDatagram (statedFrame 24) := by constructor <;> decide
  have hfault : dissect (statedFrame 24) = .error (.bounds 34 8 4) := by rfl
  obtain ⟨hfound, hsame⟩ := dissect_append (statedFrame 32) [0xde, 0xad]
  obtain ⟨d', hd', hcontinues⟩ := hfound d hd
  refine ⟨⟨d, d', hd, hd', hcontinues, hwhole, (hsame hwhole).2 d d' hd hd'⟩, hcut, hfault, ?_⟩
  exact (((dissect_append (statedFrame 24) [0xde, 0xad]).2 hcut).1 _).mpr hfault

end PacketHeaders

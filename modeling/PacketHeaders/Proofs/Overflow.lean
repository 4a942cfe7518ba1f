import PacketHeaders.Proofs.PseudoHeader
import PacketHeaders.Proofs.Verification

/-!
# Sums that fit the register

Nothing in a checksum guards its register against an overflow. What keeps the sums small is the
format of the headers: a header length has four bits, the length of a datagram has 16, and a message
behind an IPv4 header ends with the datagram if the header says where that is. So no sum on the way
to one of these checksums overflows, however long the frame is and whatever it holds. A message that
is given no end can be as long as the frame, and then there is one that overflows.
-/

namespace PacketHeaders

open Octets

namespace Checksum

variable {bytes : List UInt8}

theorem unwrapped?_of_length_le (h : bytes.length ≤ 131074) :
    unwrapped? bytes = some (internet bytes) := unwrapped?_of_lt (wordSum_lt h)

theorem unwrapped?_of_le (h : UInt32.size ≤ wordSum bytes) : unwrapped? bytes = none := by
  have hsum : UInt32.size ≤ (0 : UInt32).toNat + wordSum bytes := by
    rwa [UInt32.toNat_zero, Nat.zero_add]
  rw [unwrapped?, accumulate?_of_le hsum, Option.map_none]

/-- The last two octets of a pseudo-header spell the length that it was given, up to 65535. -/
theorem toNat_drop_pseudoHeader {length : Nat} (h : length ≤ 65535) (ends : Endpoints)
    (protocol : UInt8) : toNat ((pseudoHeader ends protocol length).drop 10) = length := by
  have hfront : (ends.source.octets ++ ends.destination.octets ++ [0, protocol]).length = 10 := by
    rw [List.length_append, List.length_append, ends.source.length_octets,
      ends.destination.length_octets]
    rfl
  have hlimit : limit 2 = 65536 := rfl
  rw [pseudoHeader_eq, ← hfront, List.drop_left, toNat_ofNat, hlimit]
  omega

end Checksum

open Checksum

namespace Ipv4.Header

/-- What is summed up for the checksum of a header: as much of it as goes into 60 octets, with zero
in place of the checksum. -/
def scratch (h : Header) : List UInt8 :=
  splice (h.headerBytes.take 60) Layout.checksum.pos [0, 0]

def unwrappedChecksum? (h : Header) : Option UInt16 := unwrapped? h.scratch

/-- Only a believable header that is whole is summed up. -/
def unwrappedVerify? (h : Header) : Option Bool :=
  if 20 ≤ h.headerLength && h.headerBytes.length == h.headerLength then
    (unwrapped? h.headerBytes).map (· == 0)
  else some false

variable (h : Header)

theorem length_headerBytes_le : h.headerBytes.length ≤ 60 :=
  Nat.le_trans (List.length_take_le ..) h.headerLength_le

theorem take_headerBytes : h.headerBytes.take 60 = h.headerBytes :=
  List.take_of_length_le h.length_headerBytes_le

theorem unwrappedChecksum?_eq : h.unwrappedChecksum? = some h.calculateChecksum := by
  have hlength := h.length_headerBytes_le
  rw [unwrappedChecksum?, scratch, take_headerBytes]
  exact unwrapped?_of_length_le (by rw [length_splice]; omega)

theorem unwrappedVerify?_eq : h.unwrappedVerify? = some h.verifyChecksum := by
  have hlength := h.length_headerBytes_le
  rw [unwrappedVerify?, verifyChecksum, unwrapped?_of_length_le (by omega)]
  cases 20 ≤ h.headerLength && h.headerBytes.length == h.headerLength <;> rfl

variable {h}

/-- A total length that covers the header leaves the rest of it to the payload. -/
theorem length_payload_le (hlen : h.headerLength ≤ h.totalLength.toNat) :
    h.payload.length ≤ h.totalLength.toNat - h.headerLength := by
  have hend : h.datagramEnd ≤ h.start + h.totalLength.toNat := by
    rw [datagramEnd, if_neg (Nat.not_lt_of_le hlen)]
    exact Nat.min_le_left ..
  rw [payload, payloadStart, List.length_drop, List.length_take]
  omega

end Ipv4.Header

namespace Udp.Header

def unwrappedChecksum? (h : Header) : Option UInt16 := unwrapped? (withoutChecksum h.datagram)

/-- A datagram without a checksum is not summed up. -/
def unwrappedVerify? (h : Header) : Option Bool :=
  if h.checksum == 0 then some true else (unwrapped? h.datagram).map (· == 0)

def unwrappedVerifyTransport? (h : Header) (ends : Endpoints) : Option Bool :=
  if h.checksum == 0 then some true
  else (unwrappedTransport? ends protocolNumber h.datagram).map (· == 0)

variable (h : Header)

theorem unwrappedChecksum?_eq : h.unwrappedChecksum? = some h.calculateChecksum := by
  have hlength := h.length_datagram_le
  exact unwrapped?_of_length_le (by rw [withoutChecksum, length_splice]; omega)

theorem unwrappedVerify?_eq : h.unwrappedVerify? = some h.verifyChecksum := by
  have hlength := h.length_datagram_le
  rw [unwrappedVerify?, verifyChecksum, unwrapped?_of_length_le (by omega)]
  cases h.checksum == 0 <;> rfl

theorem unwrappedVerifyTransport?_eq (ends : Endpoints) :
    h.unwrappedVerifyTransport? ends = some (h.verifyTransportChecksum ends) := by
  have hlength := h.length_datagram_le
  have hsum : transportSum ends protocolNumber h.datagram < UInt32.size :=
    transportSum_lt (by omega) ends protocolNumber
  rw [unwrappedVerifyTransport?, verifyTransportChecksum, unwrappedTransport?_of_lt hsum]
  cases h.checksum == 0 <;> rfl

end Udp.Header

namespace Icmp.Header

def unwrappedChecksum? (h : Header) : Option UInt16 :=
  unwrapped? (splice h.message Layout.checksum.pos [0, 0])

def unwrappedVerify? (h : Header) : Option Bool := (unwrapped? h.message).map (· == 0)

variable {h : Header}

theorem unwrappedChecksum?_eq (hlen : h.message.length ≤ 131074) :
    h.unwrappedChecksum? = some h.calculateChecksum :=
  unwrapped?_of_length_le (by rwa [length_splice])

theorem unwrappedVerify?_eq (hlen : h.message.length ≤ 131074) :
    h.unwrappedVerify? = some h.verifyChecksum := by
  rw [unwrappedVerify?, unwrapped?_of_length_le hlen]
  rfl

/-- A message behind an IPv4 header that says where the datagram ends ends there. -/
theorem length_message_le {outer : Ipv4.Header}
    (hlen : outer.headerLength ≤ outer.totalLength.toNat) (hicmp : outer.icmp = .ok h) :
    h.message.length ≤ 65535 := by
  have hcarries := Ipv4.Header.carries_of_map (fun h : Header => h.toSpan) (fun _ => rfl) hicmp
  have hpayload := Ipv4.Header.length_payload_le hlen
  have htotal := outer.totalLength.toNat_lt
  rw [message, hcarries.tail_eq]
  omega

/-- All ones behind a header of 20 octets that states a total length of zero. -/
def endless (n : Nat) : List UInt8 :=
  [0x45, 0, 0, 0, 0, 0, 0, 0, 64, 1, 0, 0, 10, 0, 0, 1, 10, 0, 0, 2] ++ List.replicate n 0xff

/-- Without a stated end the message is as long as the frame, and its sum need not fit. -/
theorem exists_overflow {n : Nat} (hn : 131074 < n) : ∃ (outer : Ipv4.Header) (h : Header),
    outer.totalLength.toNat < outer.headerLength ∧ outer.icmp = .ok h ∧ h.message.length = n ∧
      h.unwrappedVerify? = none := by
  have hlength : (endless n).length = 20 + n := by
    rw [endless, List.length_append, List.length_replicate]
    rfl
  have hfirst : 0 + 20 ≤ (endless n).length := by omega
  have hbehind : 20 + 8 ≤ (endless n).length := by omega
  let outer : Ipv4.Header := ⟨⟨⟨endless n, 0⟩, hfirst⟩⟩
  let h : Header := ⟨⟨⟨endless n, 20⟩, hbehind⟩⟩
  have htotal : outer.totalLength = 0 := rfl
  have hheader : outer.headerLength = 20 := by
    have hoctet : outer.number Ipv4.Layout.versionAndLength = 0x45 := rfl
    rw [Ipv4.Header.headerLength, Ipv4.Header.lengthInWords, hoctet]
    rfl
  have hpayload : outer.payloadStart = 20 := congrArg (0 + ·) hheader
  have hshort : outer.totalLength.toNat < outer.headerLength := by
    rw [htotal, hheader]
    decide
  -- A stated end inside the header counts for nothing, and the datagram ends with the frame.
  have hend : outer.datagramEnd = (endless n).length := if_pos hshort
  have hnext : outer.next 8 = .ok h.toWindow := by
    rw [Ipv4.Header.next_of_le_length (Nat.le_of_eq hheader.symm), hend, List.take_length, hpayload]
    exact Window.place_of_le hbehind
  have hicmp : outer.icmp = .ok h := congrArg (Except.map Header.mk) hnext
  have hmessage : h.message = List.replicate n 0xff := rfl
  refine ⟨outer, h, hshort, hicmp, ?_, ?_⟩
  · rw [hmessage, List.length_replicate]
  · have hsum : UInt32.size ≤ wordSum (List.replicate n 0xff) := by
      rw [wordSum_ones, UInt32.size]
      omega
    rw [unwrappedVerify?, hmessage, unwrapped?_of_le hsum, Option.map_none]

end Icmp.Header

/-- No sum overflows on the way to the checksum of an IPv4 header, written or found, or of a UDP
datagram, nor to that of an ICMP message behind a header that says where the datagram ends; nothing
of a header is left out of its sum, and the pseudo-header has the true length of the datagram. For a
message of more than 131074 octets without a stated end this is not so. -/
theorem checksums_fit_register :
    (∀ h : Ipv4.Header, h.headerBytes.take 60 = h.headerBytes ∧
      h.unwrappedChecksum? = some h.calculateChecksum ∧
      h.unwrappedVerify? = some h.verifyChecksum) ∧
    (∀ d : Ipv4.Draft, d.header.unwrappedChecksum? = some d.defaultChecksum ∧
      d.header.unwrappedVerify? = some d.header.verifyChecksum) ∧
    (∀ h : Udp.Header, h.unwrappedChecksum? = some h.calculateChecksum ∧
      h.unwrappedVerify? = some h.verifyChecksum ∧
      ∀ ends, h.unwrappedVerifyTransport? ends = some (h.verifyTransportChecksum ends) ∧
        toNat ((pseudoHeader ends Udp.protocolNumber h.datagram.length).drop 10) =
          h.datagram.length) ∧
    (∀ (outer : Ipv4.Header) (h : Icmp.Header), outer.headerLength ≤ outer.totalLength.toNat →
      outer.icmp = .ok h → h.unwrappedChecksum? = some h.calculateChecksum ∧
        h.unwrappedVerify? = some h.verifyChecksum) ∧
    ∀ n, 131074 < n → ∃ (outer : Ipv4.Header) (h : Icmp.Header),
      outer.totalLength.toNat < outer.headerLength ∧ outer.icmp = .ok h ∧ h.message.length = n ∧
        h.unwrappedVerify? = none := by
  refine ⟨fun h => ?_, fun d => ?_, fun h => ?_, fun outer h hlen hicmp => ?_,
    fun n => Icmp.Header.exists_overflow⟩
  · exact ⟨h.take_headerBytes, h.unwrappedChecksum?_eq, h.unwrappedVerify?_eq⟩
  · exact ⟨d.header.unwrappedChecksum?_eq, d.header.unwrappedVerify?_eq⟩
  · refine ⟨h.unwrappedChecksum?_eq, h.unwrappedVerify?_eq, fun ends => ?_⟩
    exact ⟨h.unwrappedVerifyTransport?_eq ends,
      toNat_drop_pseudoHeader h.length_datagram_le ends Udp.protocolNumber⟩
  · have hlength := Icmp.Header.length_message_le hlen hicmp
    exact ⟨Icmp.Header.unwrappedChecksum?_eq (by omega), Icmp.Header.unwrappedVerify?_eq (by omega)⟩

/-- Behind options and in front of padding, and in a frame of ones that is one octet too long. -/
theorem checksums_fit_register_up_to_the_padding :
    let frame := [0x46, 0, 0, 35, 0, 0, 0, 0, 64, 1, 0, 0, 10, 0, 0, 1, 10, 0, 0, 2, 1, 1, 1, 0] ++
      [8, 0, 0xe9, 0xf5, 0, 1, 0, 2, 7, 7, 7] ++ List.replicate 20 0xee
    let outer : Ipv4.Header := ⟨⟨⟨frame, 0⟩, by decide⟩⟩
    let h : Icmp.Header := ⟨⟨⟨frame.take 35, 24⟩, by decide⟩⟩
    (outer.headerLength ≤ outer.totalLength.toNat ∧ outer.icmp = .ok h ∧
      h.unwrappedChecksum? = some 0xe9f5 ∧ h.unwrappedVerify? = some true) ∧
    ∃ (outer : Ipv4.Header) (h : Icmp.Header), outer.icmp = .ok h ∧
      h.message.length = 131075 ∧ h.unwrappedVerify? = none := by
  intro frame outer h
  obtain ⟨-, -, -, hicmp, hendless⟩ := checksums_fit_register
  have hlen : outer.headerLength ≤ outer.totalLength.toNat := by decide
  have hend : outer.datagramEnd = 35 := by decide
  have hpayload : outer.payloadStart = 24 := by decide
  have hnext : outer.next 8 = .ok h.toWindow := by
    rw [Ipv4.Header.next_of_le_length (by decide), hend, hpayload]
    exact Window.place_of_le (by decide)
  have hfound : outer.icmp = .ok h := congrArg (Except.map Icmp.Header.mk) hnext
  obtain ⟨hchecksum, hverify⟩ := hicmp outer h hlen hfound
  have hcalculated : h.calculateChecksum = 0xe9f5 := by decide
  have hverified : h.verifyChecksum = true := by decide
  obtain ⟨outer', h', -, hfound', hlength', hnone⟩ := hendless 131075 (by decide)
  refine ⟨⟨hlen, hfound, ?_, ?_⟩, outer', h', hfound', hlength', hnone⟩
  · rw [hchecksum, hcalculated]
  · rw [hverify, hverified]

end PacketHeaders

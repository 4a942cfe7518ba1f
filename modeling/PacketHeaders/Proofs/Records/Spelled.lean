import Mathlib.Data.Nat.Bitwise
import PacketHeaders.Proofs.NextHeader
import PacketHeaders.Proofs.Records.Tiling

/-!
# Headers spelled out

Nothing here writes an ARP or a TCP header, so nothing that is written can vouch for where its
fields are read. What vouches for that is the order of the fields: the octets of one field after the
other, each number with its most significant octet first, and no position named anywhere. A header
that is spelled out like this says at its place in a frame what went into it, whatever stands in
front of it and behind it.
-/

namespace PacketHeaders

open Octets

namespace Window

variable {n : Nat} {w : Window n} {f : Field n}

/-- When a header is one string after the other, as wide as its fields are, each field holds its
own. -/
theorem octets_of_head (entries : List (Field n × List UInt8)) {pos : Nat}
    (htile : Field.Tile pos (entries.map Prod.fst))
    (hwidth : ∀ e ∈ entries, e.2.length = e.1.width)
    (hhead : w.head.drop pos = entries.flatMap Prod.snd) : ∀ e ∈ entries, w.octets e.1 = e.2 := by
  induction entries generalizing pos with
  | nil => nofun
  | cons first rest ih =>
    obtain ⟨f, string⟩ := first
    obtain ⟨rfl, hrest⟩ := htile
    obtain ⟨hfirst, hwidths⟩ := List.forall_mem_cons.mp hwidth
    have hfirst : string.length = f.width := hfirst
    have hbehind : w.head.drop (f.pos + f.width) = rest.flatMap Prod.snd := by
      rw [← List.drop_drop, hhead, List.flatMap_cons, ← hfirst, List.drop_left]
    refine List.forall_mem_cons.mpr ⟨?_, ih hrest hwidths hbehind⟩
    rw [octets_eq_slice_head, slice, hhead, List.flatMap_cons, ← hfirst, List.take_left]

theorem number_of_octet {value : UInt8} (h : w.octets f = [value]) : w.number f = value.toNat := by
  rw [number, h]
  exact Nat.mul_one value.toNat

theorem number8_of_octet {value : UInt8} (h : w.octets f = [value]) : w.number8 f = value := by
  rw [number8, number_of_octet h, UInt8.ofNat_toNat]

theorem number16_of_octets {value : UInt16} (h : w.octets f = ofNat 2 value.toNat) :
    w.number16 f = value := by
  have hlt : value.toNat < limit 2 := value.toNat_lt
  rw [number16, number, h, toNat_ofNat, Nat.mod_eq_of_lt hlt, UInt16.ofNat_toNat]

theorem number32_of_octets {value : UInt32} (h : w.octets f = ofNat 4 value.toNat) :
    w.number32 f = value := by
  have hlt : value.toNat < limit 4 := value.toNat_lt
  rw [number32, number, h, toNat_ofNat, Nat.mod_eq_of_lt hlt, UInt32.ofNat_toNat]

/-- Whatever is made of a window can be made wherever there is room for the window. -/
theorem exists_map_place_iff {α : Type} (mk : Window n → α) (bytes : List UInt8) (start : Nat) :
    (∃ a, (place bytes start n).map mk = .ok a) ↔ start + n ≤ bytes.length := by
  constructor
  · rintro ⟨a, ha⟩
    obtain ⟨w, hw, -⟩ := Except.map_eq_ok_iff.mp ha
    obtain ⟨rfl, rfl⟩ := place_eq_ok_iff.mp hw
    exact w.room
  · intro hroom
    rw [place_of_le hroom]
    exact ⟨_, rfl⟩

/-- A window over a string in the middle of a frame has that string for its head. -/
theorem exists_place_between {octets : List UInt8} (hlen : octets.length = n)
    (front back : List UInt8) : ∃ w : Window n,
      place (front ++ octets ++ back) front.length n = .ok w ∧ w.start = front.length ∧
        w.head = octets := by
  have hroom : front.length + n ≤ (front ++ octets ++ back).length := by
    simp only [List.length_append]
    omega
  have htail : (front ++ octets ++ back).drop front.length = octets ++ back := by
    rw [List.append_assoc, List.drop_left]
  refine ⟨⟨⟨front ++ octets ++ back, front.length⟩, hroom⟩, place_eq_ok_iff.mpr ⟨rfl, rfl⟩, rfl, ?_⟩
  rw [head, Span.tail, htail, ← hlen, List.take_left]

end Window

theorem MacAddress.eq_of_octets {a b : MacAddress} (h : a.octets = b.octets) : a = b :=
  (mk.injEq ..).mpr h

theorem Ipv4Address.eq_of_octets {a b : Ipv4Address} (h : a.octets = b.octets) : a = b :=
  (mk.injEq ..).mpr h

namespace Arp

theorem Layout.tile : Field.Tile 0 [hardwareType, protocolType, hardwareLength, protocolLength,
    operation, senderMac, senderIp, targetMac, targetIp] :=
  ⟨rfl, rfl, rfl, rfl, rfl, rfl, rfl, rfl, rfl, rfl⟩

/-- What goes into a header: numbers where a reader has names. -/
structure Contents where
  hardwareType : UInt16
  protocolType : UInt16
  hardwareLength : UInt8
  protocolLength : UInt8
  operation : UInt16
  senderMac : MacAddress
  senderIp : Ipv4Address
  targetMac : MacAddress
  targetIp : Ipv4Address

namespace Contents

variable (c : Contents)

def octets : List UInt8 :=
  ofNat 2 c.hardwareType.toNat ++ ofNat 2 c.protocolType.toNat ++ [c.hardwareLength] ++
    [c.protocolLength] ++ ofNat 2 c.operation.toNat ++ c.senderMac.octets ++ c.senderIp.octets ++
    c.targetMac.octets ++ c.targetIp.octets

/-- The strings that `octets` puts together, each with the field that should hold it. -/
def entries : List (Field 28 × List UInt8) := [
  (Layout.hardwareType, ofNat 2 c.hardwareType.toNat),
  (Layout.protocolType, ofNat 2 c.protocolType.toNat),
  (Layout.hardwareLength, [c.hardwareLength]),
  (Layout.protocolLength, [c.protocolLength]),
  (Layout.operation, ofNat 2 c.operation.toNat),
  (Layout.senderMac, c.senderMac.octets),
  (Layout.senderIp, c.senderIp.octets),
  (Layout.targetMac, c.targetMac.octets),
  (Layout.targetIp, c.targetIp.octets)]

theorem flatMap_entries : c.entries.flatMap Prod.snd = c.octets := by
  simp only [entries, octets, List.flatMap_cons, List.flatMap_nil, List.append_nil,
    List.append_assoc]

theorem length_of_mem_entries : ∀ e ∈ c.entries, e.2.length = e.1.width := by
  simp only [entries, List.forall_mem_cons]
  exact ⟨length_ofNat .., length_ofNat .., rfl, rfl, length_ofNat .., c.senderMac.length_octets,
    c.senderIp.length_octets, c.targetMac.length_octets, c.targetIp.length_octets, nofun⟩

theorem length_octets : c.octets.length = 28 := by
  simp only [octets, List.length_append, length_ofNat, List.length_singleton,
    c.senderMac.length_octets, c.senderIp.length_octets, c.targetMac.length_octets,
    c.targetIp.length_octets]

end Contents

/-- All that a header says is what went into it, and it lies at the given place. -/
structure Header.Says (h : Header) (c : Contents) (pos : Nat) : Prop where
  hardwareType : h.hardwareType = .ofNumber c.hardwareType
  protocolType : h.protocolType = c.protocolType
  protocol : h.protocol = .ofNumber c.protocolType
  hardwareLength : h.hardwareLength = c.hardwareLength
  protocolLength : h.protocolLength = c.protocolLength
  operation : h.operation = .ofNumber c.operation
  senderMac : h.senderMac = c.senderMac
  senderIp : h.senderIp = c.senderIp
  targetMac : h.targetMac = c.targetMac
  targetIp : h.targetIp = c.targetIp
  headerBytes : h.headerBytes = c.octets
  start : h.start = pos
  headerLength : h.headerLength = 28
  payloadStart : h.payloadStart = pos + 28

theorem Header.says_of_head {h : Header} {c : Contents} (hhead : h.head = c.octets) :
    h.Says c h.start := by
  have hstrings : h.head.drop 0 = c.entries.flatMap Prod.snd := by
    rw [List.drop_zero, hhead, c.flatMap_entries]
  have hread := Window.octets_of_head c.entries Layout.tile c.length_of_mem_entries hstrings
  simp only [Contents.entries, List.forall_mem_cons] at hread
  obtain ⟨htype, hprotocol, hhlen, hplen, hop, hsmac, hsip, htmac, htip, -⟩ := hread
  have hprotocolType : h.protocolType = c.protocolType := Window.number16_of_octets hprotocol
  exact {
    hardwareType := congrArg HardwareType.ofNumber (Window.number16_of_octets htype)
    protocolType := hprotocolType
    protocol := congrArg EtherType.ofNumber hprotocolType
    hardwareLength := Window.number8_of_octet hhlen
    protocolLength := Window.number8_of_octet hplen
    operation := congrArg ArpOperation.ofNumber (Window.number16_of_octets hop)
    senderMac := MacAddress.eq_of_octets hsmac
    senderIp := Ipv4Address.eq_of_octets hsip
    targetMac := MacAddress.eq_of_octets htmac
    targetIp := Ipv4Address.eq_of_octets htip
    headerBytes := hhead
    start := rfl
    headerLength := rfl
    payloadStart := rfl }

end Arp

namespace TcpFlags

/-- What a mask of one bit leaves of an octet. -/
theorem toNat_and_bit {mask : UInt8} {i : Nat} (hmask : mask.toNat = 2 ^ i) (bits : UInt8) :
    (bits &&& mask).toNat = (bits.toNat.testBit i).toNat * 2 ^ i := by
  rw [UInt8.toNat_and, hmask, Nat.and_two_pow]

theorem decide_and_bit {mask : UInt8} {i : Nat} (hmask : mask.toNat = 2 ^ i) (bits : UInt8) :
    decide (bits &&& mask ≠ 0) = bits.toNat.testBit i := by
  have hnat := toNat_and_bit hmask bits
  rw [Bool.eq_iff_iff, decide_eq_true_iff, ne_eq, ← UInt8.toNat_inj, hnat, UInt8.toNat_zero]
  cases bits.toNat.testBit i <;> simp

/-- A bit that is set where it was found puts back what the mask left. -/
theorem ite_testBit (bits mask : UInt8) (i : Nat) (hmask : mask.toNat = 2 ^ i) :
    (if bits.toNat.testBit i then mask else 0) = bits &&& mask := by
  rw [← UInt8.toNat_inj, toNat_and_bit hmask]
  cases bits.toNat.testBit i <;> simp [hmask]

/-- The flags of a segment are the bits of their octet, from the lowest up. -/
theorem ofBits_eq (bits : UInt8) : ofBits bits = {
    fin := bits.toNat.testBit 0
    syn := bits.toNat.testBit 1
    rst := bits.toNat.testBit 2
    psh := bits.toNat.testBit 3
    ack := bits.toNat.testBit 4
    urg := bits.toNat.testBit 5 } :=
  (mk.injEq ..).mpr ⟨decide_and_bit rfl bits, decide_and_bit rfl bits, decide_and_bit rfl bits,
    decide_and_bit rfl bits, decide_and_bit rfl bits, decide_and_bit rfl bits⟩

theorem and_or (a b c : UInt8) : a &&& (b ||| c) = a &&& b ||| a &&& c :=
  UInt8.eq_of_toBitVec_eq BitVec.and_or_distrib_left

/-- Six bits of an octet are kept by the flags that they stand for. -/
theorem bits_ofBits (bits : UInt8) : (ofBits bits).bits = bits &&& 0x3f := by
  have hmask : (0x3f : UInt8) = 1 ||| 2 ||| 4 ||| 8 ||| 16 ||| 32 := rfl
  rw [hmask, and_or, and_or, and_or, and_or, and_or, ofBits_eq]
  simp only [TcpFlags.bits, ite_testBit bits 1 0 rfl, ite_testBit bits 2 1 rfl,
    ite_testBit bits 4 2 rfl, ite_testBit bits 8 3 rfl, ite_testBit bits 16 4 rfl,
    ite_testBit bits 32 5 rfl]

end TcpFlags

namespace Tcp

theorem Layout.tile : Field.Tile 0 [sourcePort, destinationPort, sequenceNumber,
    acknowledgmentNumber, dataOffset, flags, windowSize, checksum, urgentPointer] :=
  ⟨rfl, rfl, rfl, rfl, rfl, rfl, rfl, rfl, rfl, rfl⟩

/-- What goes into the fixed part of a header. The octet of the data offset has a low half without a
meaning, and that of the flags two bits without one. -/
structure Contents where
  sourcePort : UInt16
  destinationPort : UInt16
  sequenceNumber : UInt32
  acknowledgmentNumber : UInt32
  dataOffset : Fin 16
  reserved : Fin 16
  flags : UInt8
  windowSize : UInt16
  checksum : UInt16
  urgentPointer : UInt16

namespace Contents

variable (c : Contents)

def dataOffsetOctet : UInt8 := .ofNat (16 * c.dataOffset + c.reserved)

def octets : List UInt8 :=
  ofNat 2 c.sourcePort.toNat ++ ofNat 2 c.destinationPort.toNat ++
    ofNat 4 c.sequenceNumber.toNat ++ ofNat 4 c.acknowledgmentNumber.toNat ++
    [c.dataOffsetOctet] ++ [c.flags] ++ ofNat 2 c.windowSize.toNat ++
    ofNat 2 c.checksum.toNat ++ ofNat 2 c.urgentPointer.toNat

/-- The strings that `octets` puts together, each with the field that should hold it. -/
def entries : List (Field 20 × List UInt8) := [
  (Layout.sourcePort, ofNat 2 c.sourcePort.toNat),
  (Layout.destinationPort, ofNat 2 c.destinationPort.toNat),
  (Layout.sequenceNumber, ofNat 4 c.sequenceNumber.toNat),
  (Layout.acknowledgmentNumber, ofNat 4 c.acknowledgmentNumber.toNat),
  (Layout.dataOffset, [c.dataOffsetOctet]),
  (Layout.flags, [c.flags]),
  (Layout.windowSize, ofNat 2 c.windowSize.toNat),
  (Layout.checksum, ofNat 2 c.checksum.toNat),
  (Layout.urgentPointer, ofNat 2 c.urgentPointer.toNat)]

theorem flatMap_entries : c.entries.flatMap Prod.snd = c.octets := by
  simp only [entries, octets, List.flatMap_cons, List.flatMap_nil, List.append_nil,
    List.append_assoc]

theorem length_of_mem_entries : ∀ e ∈ c.entries, e.2.length = e.1.width := by
  simp only [entries, List.forall_mem_cons]
  exact ⟨length_ofNat .., length_ofNat .., length_ofNat .., length_ofNat .., rfl, rfl,
    length_ofNat .., length_ofNat .., length_ofNat .., nofun⟩

theorem length_octets : c.octets.length = 20 := by
  simp only [octets, List.length_append, length_ofNat, List.length_singleton]

theorem toNat_dataOffsetOctet : c.dataOffsetOctet.toNat = 16 * c.dataOffset + c.reserved := by
  have hoffset := c.dataOffset.isLt
  have hreserved := c.reserved.isLt
  rw [dataOffsetOctet, UInt8.toNat_ofNat']
  omega

end Contents

/-- All that a header says is what went into it, and it lies at the given place. -/
structure Header.Says (h : Header) (c : Contents) (pos : Nat) : Prop where
  sourcePort : h.sourcePort = c.sourcePort
  destinationPort : h.destinationPort = c.destinationPort
  sequenceNumber : h.sequenceNumber = c.sequenceNumber
  acknowledgmentNumber : h.acknowledgmentNumber = c.acknowledgmentNumber
  dataOffset : h.dataOffset.toNat = c.dataOffset
  flags : h.flags = {
    fin := c.flags.toNat.testBit 0
    syn := c.flags.toNat.testBit 1
    rst := c.flags.toNat.testBit 2
    psh := c.flags.toNat.testBit 3
    ack := c.flags.toNat.testBit 4
    urg := c.flags.toNat.testBit 5 }
  bits : h.flags.bits = c.flags &&& 0x3f
  windowSize : h.windowSize = c.windowSize
  checksum : h.checksum = c.checksum
  urgentPointer : h.urgentPointer = c.urgentPointer
  headerBytes : h.headerBytes = c.octets
  start : h.start = pos
  headerLength : h.headerLength = 4 * c.dataOffset
  payloadStart : h.payloadStart = pos + 4 * c.dataOffset

theorem Header.says_of_head {h : Header} {c : Contents} (hhead : h.head = c.octets) :
    h.Says c h.start := by
  have hstrings : h.head.drop 0 = c.entries.flatMap Prod.snd := by
    rw [List.drop_zero, hhead, c.flatMap_entries]
  have hread := Window.octets_of_head c.entries Layout.tile c.length_of_mem_entries hstrings
  simp only [Contents.entries, List.forall_mem_cons] at hread
  obtain ⟨hsource, hdestination, hsequence, hack, hoffset, hflags, hwindow, hsum, hurgent, -⟩ :=
    hread
  have hdataOffset : h.dataOffset.toNat = c.dataOffset := by
    have hlt := c.dataOffset.isLt
    have hreserved := c.reserved.isLt
    rw [dataOffset, Window.number_of_octet hoffset, c.toNat_dataOffsetOctet, UInt8.toNat_ofNat']
    omega
  have hbits : h.flags = .ofBits c.flags := congrArg TcpFlags.ofBits (Window.number8_of_octet hflags)
  have hlength : h.headerLength = 4 * c.dataOffset := congrArg (4 * ·) hdataOffset
  exact {
    sourcePort := Window.number16_of_octets hsource
    destinationPort := Window.number16_of_octets hdestination
    sequenceNumber := Window.number32_of_octets hsequence
    acknowledgmentNumber := Window.number32_of_octets hack
    dataOffset := hdataOffset
    flags := hbits.trans (TcpFlags.ofBits_eq _)
    bits := by rw [hbits, TcpFlags.bits_ofBits]
    windowSize := Window.number16_of_octets hwindow
    checksum := Window.number16_of_octets hsum
    urgentPointer := Window.number16_of_octets hurgent
    headerBytes := hhead
    start := rfl
    headerLength := hlength
    payloadStart := congrArg (h.start + ·) hlength }

end Tcp

/-- ARP and TCP headers that are spelled out field by field are found where they stand and say what
went into them; and there is such a header wherever the frame has room for it. -/
theorem spelled_headers_read_back :
    (∀ (front back : List UInt8) (c : Arp.Contents), ∃ h : Arp.Header,
      Arp.Header.place (front ++ c.octets ++ back) front.length = .ok h ∧
        h.Says c front.length) ∧
    (∀ (front back : List UInt8) (c : Tcp.Contents), ∃ h : Tcp.Header,
      Tcp.Header.place (front ++ c.octets ++ back) front.length = .ok h ∧
        h.Says c front.length) ∧
    ∀ (bytes : List UInt8) (start : Nat),
      ((∃ h, Arp.Header.place bytes start = .ok h) ↔ start + 28 ≤ bytes.length) ∧
      ((∃ h, Tcp.Header.place bytes start = .ok h) ↔ start + 20 ≤ bytes.length) := by
  refine ⟨fun front back c => ?_, fun front back c => ?_, fun bytes start => ⟨?_, ?_⟩⟩
  · obtain ⟨w, hplace, hstart, hhead⟩ := Window.exists_place_between c.length_octets front back
    exact ⟨⟨w⟩, congrArg (Except.map _) hplace, hstart ▸ Arp.Header.says_of_head hhead⟩
  · obtain ⟨w, hplace, hstart, hhead⟩ := Window.exists_place_between c.length_octets front back
    exact ⟨⟨w⟩, congrArg (Except.map _) hplace, hstart ▸ Tcp.Header.says_of_head hhead⟩
  · exact Window.exists_map_place_iff Arp.Header.mk bytes start
  · exact Window.exists_map_place_iff Tcp.Header.mk bytes start

example : Tcp.Contents.octets ⟨49152, 80, 0x12345678, 0, 5, 0, 2, 64240, 0xabcd, 0⟩ =
    [0xc0, 0, 0, 0x50, 0x12, 0x34, 0x56, 0x78, 0, 0, 0, 0, 0x50, 2, 0xfa, 0xf0, 0xab, 0xcd, 0, 0] := by
  decide

end PacketHeaders

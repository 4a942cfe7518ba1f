import PacketHeaders.Header.Ethernet
import PacketHeaders.Proofs.Guarded.Access

/-!
# Guarded readings of headers

Everything that can be asked of a header, asked of a bare span: each octet is fetched on its own,
ranges, clamps and copies are made in the order in which the header is searched for them, and any of
them may fail. `Readable` says of a header of a layer that none of them does and that they give what
the header itself gives.
-/

namespace PacketHeaders

namespace Checksum

/-- The transport checksum over a pseudo-header that is written piece by piece into 12 octets. -/
def transport? (ends : Endpoints) (protocol : UInt8) (segment : List UInt8) : Option UInt16 := do
  let pseudo ← Octets.overwrite? (List.replicate 12 0) 0 4 ends.source.octets
  let pseudo ← Octets.overwrite? pseudo 4 8 ends.destination.octets
  let pseudo ← Octets.overwrite? pseudo 9 10 [protocol]
  let pseudo ← Octets.overwrite? pseudo 10 12 (Octets.ofNat 2 (min segment.length 65535))
  return ofSum (accumulate (accumulate 0 pseudo) segment)

theorem transport?_eq (ends : Endpoints) (protocol : UInt8) (segment : List UInt8) :
    transport? ends protocol segment = some (transport ends protocol segment) := by
  obtain ⟨⟨source, hs⟩, ⟨destination, hd⟩⟩ := ends
  match source, hs, destination, hd with
  | [_, _, _, _], _, [_, _, _, _], _ => rfl

end Checksum

namespace Ethernet.Guarded

variable (s : Span)

def fields? : Option Fields := do
  let destination ← s.octets? Layout.destination
  let source ← s.octets? Layout.source
  let etherType ← s.number? Layout.etherType
  return {
    destination := ⟨destination.val, destination.property⟩
    source := ⟨source.val, source.property⟩
    etherType := .ofNat etherType }

structure Readable (h : Header) : Prop where
  fields : fields? h.toSpan = some h.fields
  headerBytes : h.head? 14 = some h.headerBytes
  text : (fields? h.toSpan).map (·.listing.text) = some h.listing.text

theorem fields?_eq (h : Header) : fields? h.toSpan = some h.fields := by
  simp only [fields?, Window.octets?_eq, Window.number?_eq, Option.bind_eq_bind, Option.bind_some]
  rfl

theorem readable (h : Header) : Readable h where
  fields := fields?_eq h
  headerBytes := h.head?_eq
  text := by rw [fields?_eq]; rfl

end Ethernet.Guarded

namespace Arp.Guarded

variable (s : Span)

def fields? : Option Fields := do
  let hardwareType ← s.number? Layout.hardwareType
  let protocolType ← s.number? Layout.protocolType
  let hardwareLength ← s.number? Layout.hardwareLength
  let protocolLength ← s.number? Layout.protocolLength
  let operation ← s.number? Layout.operation
  let senderMac ← s.octets? Layout.senderMac
  let senderIp ← s.octets? Layout.senderIp
  let targetMac ← s.octets? Layout.targetMac
  let targetIp ← s.octets? Layout.targetIp
  return {
    hardwareType := .ofNumber (.ofNat hardwareType)
    protocolType := .ofNat protocolType
    hardwareLength := .ofNat hardwareLength
    protocolLength := .ofNat protocolLength
    operation := .ofNumber (.ofNat operation)
    senderMac := ⟨senderMac.val, senderMac.property⟩
    senderIp := ⟨senderIp.val, senderIp.property⟩
    targetMac := ⟨targetMac.val, targetMac.property⟩
    targetIp := ⟨targetIp.val, targetIp.property⟩ }

structure Readable (h : Header) : Prop where
  fields : fields? h.toSpan = some h.fields
  headerBytes : h.head? 28 = some h.headerBytes
  text : (fields? h.toSpan).map (·.listing.text) = some h.listing.text

theorem fields?_eq (h : Header) : fields? h.toSpan = some h.fields := by
  simp only [fields?, Window.octets?_eq, Window.number?_eq, Option.bind_eq_bind, Option.bind_some]
  rfl

theorem readable (h : Header) : Readable h where
  fields := fields?_eq h
  headerBytes := h.head?_eq
  text := by rw [fields?_eq]; rfl

end Arp.Guarded

namespace Tcp.Guarded

variable (s : Span)

def fields? : Option Fields := do
  let sourcePort ← s.number? Layout.sourcePort
  let destinationPort ← s.number? Layout.destinationPort
  let sequenceNumber ← s.number? Layout.sequenceNumber
  let acknowledgmentNumber ← s.number? Layout.acknowledgmentNumber
  let dataOffset ← s.number? Layout.dataOffset
  let flags ← s.number? Layout.flags
  let windowSize ← s.number? Layout.windowSize
  let checksum ← s.number? Layout.checksum
  let urgentPointer ← s.number? Layout.urgentPointer
  return {
    sourcePort := .ofNat sourcePort
    destinationPort := .ofNat destinationPort
    sequenceNumber := .ofNat sequenceNumber
    acknowledgmentNumber := .ofNat acknowledgmentNumber
    dataOffset := .ofNat (dataOffset / 16)
    flags := .ofBits (.ofNat flags)
    windowSize := .ofNat windowSize
    checksum := .ofNat checksum
    urgentPointer := .ofNat urgentPointer }

def headerLength? : Option Nat := do return (← fields? s).headerLength

structure Readable (h : Header) : Prop where
  fields : fields? h.toSpan = some h.fields
  headerLength : headerLength? h.toSpan = some h.headerLength
  headerBytes : h.head? 20 = some h.headerBytes
  text : (fields? h.toSpan).map (·.listing.text) = some h.listing.text

theorem fields?_eq (h : Header) : fields? h.toSpan = some h.fields := by
  simp only [fields?, Window.number?_eq, Option.bind_eq_bind, Option.bind_some]
  rfl

theorem readable (h : Header) : Readable h where
  fields := fields?_eq h
  headerLength := by rw [headerLength?, fields?_eq]; rfl
  headerBytes := h.head?_eq
  text := by rw [fields?_eq]; rfl

end Tcp.Guarded

namespace Icmp.Guarded

variable (s : Span)

def fields? : Option Fields := do
  let type ← s.number? Layout.type
  let code ← s.number? Layout.code
  let checksum ← s.number? Layout.checksum
  let id ← s.number? Layout.id
  let sequenceNumber ← s.number? Layout.sequenceNumber
  return {
    typeNumber := .ofNat type
    codeNumber := .ofNat code
    checksum := .ofNat checksum
    id := .ofNat id
    sequenceNumber := .ofNat sequenceNumber }

def message? : Option (List UInt8) := s.tail?

def payload? : Option (List UInt8) := do
  let message ← message? s
  Octets.range? message 8 message.length

def checksumOf? (message : List UInt8) : Option UInt16 := do
  return Checksum.internet (← Octets.overwrite? message 2 4 [0, 0])

def calculateChecksum? : Option UInt16 := do checksumOf? (← message? s)

def verifyChecksum? : Option Bool := do return Checksum.internet (← message? s) == 0

structure Readable (h : Header) : Prop where
  fields : fields? h.toSpan = some h.fields
  headerBytes : h.head? 8 = some h.headerBytes
  message : message? h.toSpan = some h.message
  payload : payload? h.toSpan = some h.payload
  calculateChecksum : calculateChecksum? h.toSpan = some h.calculateChecksum
  verifyChecksum : verifyChecksum? h.toSpan = some h.verifyChecksum
  text : (fields? h.toSpan).map (·.listing.text) = some h.listing.text

theorem fields?_eq (h : Header) : fields? h.toSpan = some h.fields := by
  simp only [fields?, Window.number?_eq, Option.bind_eq_bind, Option.bind_some]
  rfl

theorem message?_eq (h : Header) : message? h.toSpan = some h.message := h.tail?_eq

theorem checksumOf?_eq {message : List UInt8} (h : 8 ≤ message.length) :
    checksumOf? message = some (checksumOf message) := by
  rw [checksumOf?, Octets.overwrite?_zeros (show 2 + 2 ≤ message.length by omega)]
  rfl

theorem readable (h : Header) : Readable h where
  fields := fields?_eq h
  headerBytes := h.head?_eq
  message := message?_eq h
  payload := by
    rw [payload?, message?_eq]
    exact Octets.range?_length h.le_length_tail
  calculateChecksum := by
    rw [calculateChecksum?, message?_eq]
    exact checksumOf?_eq h.le_length_tail
  verifyChecksum := by rw [verifyChecksum?, message?_eq]; rfl
  text := by rw [fields?_eq]; rfl

end Icmp.Guarded

namespace Udp.Guarded

variable (s : Span)

def fields? : Option Fields := do
  let sourcePort ← s.number? Layout.sourcePort
  let destinationPort ← s.number? Layout.destinationPort
  let length ← s.number? Layout.length
  let checksum ← s.number? Layout.checksum
  return {
    sourcePort := .ofNat sourcePort
    destinationPort := .ofNat destinationPort
    length := .ofNat length
    checksum := .ofNat checksum }

def datagram? : Option (List UInt8) := do
  let tail ← s.tail?
  let length ← clamp? (← fields? s).length.toNat 8 tail.length
  Octets.range? tail 0 length

def payload? : Option (List UInt8) := do
  let datagram ← datagram? s
  Octets.range? datagram 8 datagram.length

def calculateChecksum? : Option UInt16 := do
  return Checksum.internet (← Octets.overwrite? (← datagram? s) 6 8 [0, 0])

def verifyChecksum? : Option Bool := do
  return (← fields? s).checksum == 0 || Checksum.internet (← datagram? s) == 0

def verifyTransportChecksum? (ends : Endpoints) : Option Bool := do
  return (← fields? s).checksum == 0 ||
    (← Checksum.transport? ends protocolNumber (← datagram? s)) == 0

structure Readable (h : Header) : Prop where
  fields : fields? h.toSpan = some h.fields
  headerBytes : h.head? 8 = some h.headerBytes
  datagram : datagram? h.toSpan = some h.datagram
  payload : payload? h.toSpan = some h.payload
  calculateChecksum : calculateChecksum? h.toSpan = some h.calculateChecksum
  verifyChecksum : verifyChecksum? h.toSpan = some h.verifyChecksum
  verifyTransportChecksum : ∀ ends,
    verifyTransportChecksum? h.toSpan ends = some (h.verifyTransportChecksum ends)
  text : (fields? h.toSpan).map (·.listing.text) = some h.listing.text

theorem fields?_eq (h : Header) : fields? h.toSpan = some h.fields := by
  simp only [fields?, Window.number?_eq, Option.bind_eq_bind, Option.bind_some]
  rfl

/-- The clamp of the length field to the tail, which a window keeps from crossing its bounds. -/
theorem datagram?_eq (h : Header) : datagram? h.toSpan = some h.datagram := by
  have htail : 8 ≤ h.tail.length := h.le_length_tail
  rw [datagram?, h.tail?_eq, fields?_eq]
  simp only [Option.bind_eq_bind, Option.bind_some, clamp?_of_le htail]
  rw [Octets.range?_zero (Nat.min_le_right ..), ← List.take_eq_take_min]
  rfl

/-- Without the room of a window the clamp has its bounds the wrong way round. -/
example : datagram? ⟨List.replicate 7 0, 0⟩ = none := by decide

theorem length_datagram (h : Header) : 8 ≤ h.datagram.length := by
  have htail : 8 ≤ h.tail.length := h.le_length_tail
  rw [Header.datagram, List.length_take]
  exact Nat.le_min.mpr ⟨Nat.le_max_right .., htail⟩

theorem readable (h : Header) : Readable h where
  fields := fields?_eq h
  headerBytes := h.head?_eq
  datagram := datagram?_eq h
  payload := by
    rw [payload?, datagram?_eq]
    exact Octets.range?_length (length_datagram h)
  calculateChecksum := by
    rw [calculateChecksum?, datagram?_eq]
    simp only [Option.bind_eq_bind, Option.bind_some,
      Octets.overwrite?_zeros (show 6 + 2 ≤ h.datagram.length from length_datagram h)]
    rfl
  verifyChecksum := by rw [verifyChecksum?, fields?_eq, datagram?_eq]; rfl
  verifyTransportChecksum ends := by
    rw [verifyTransportChecksum?, fields?_eq, datagram?_eq]
    simp only [Option.bind_eq_bind, Option.bind_some, Checksum.transport?_eq]
    rfl
  text := by rw [fields?_eq]; rfl

end Udp.Guarded

end PacketHeaders

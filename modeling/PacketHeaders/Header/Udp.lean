import PacketHeaders.Checksum
import PacketHeaders.Field
import PacketHeaders.Header.Listing

/-!
# UDP headers

The length field says where a datagram ends, but no datagram is shorter than its header or longer
than what is left of the frame. A stored checksum of zero says that the sender computed none, so
it is always right. The checksum of the datagram alone and the one with the pseudo-header are kept
apart.
-/

namespace PacketHeaders.Udp

namespace Layout

def sourcePort : Field 8 := { pos := 0, width := 2 }
def destinationPort : Field 8 := { pos := 2, width := 2 }
def length : Field 8 := { pos := 4, width := 2 }
def checksum : Field 8 := { pos := 6, width := 2 }

end Layout

def protocolNumber : UInt8 := 17

/-- A datagram with zero in its checksum field. -/
def withoutChecksum (datagram : List UInt8) : List UInt8 :=
  Octets.splice datagram Layout.checksum.pos [0, 0]

/-- What a UDP header says. -/
structure Fields where
  sourcePort : UInt16
  destinationPort : UInt16
  length : UInt16
  checksum : UInt16
deriving DecidableEq, Repr

namespace Fields

def listing (f : Fields) : Listing where
  title := "UDP"
  lines := [
    ("source-port", toString f.sourcePort.toNat),
    ("destination-port", toString f.destinationPort.toNat),
    ("length", toString f.length.toNat),
    ("check-sum", Hex.ofWord f.checksum)]

end Fields

structure Header extends Window 8

namespace Header

def place (bytes : List UInt8) (start : Nat) : Except Fault Header :=
  (Window.place bytes start 8).map mk

def headerLength (_ : Header) : Nat := 8

def payloadStart (h : Header) : Nat := h.start + h.headerLength

def headerBytes (h : Header) : List UInt8 := h.head

def sourcePort (h : Header) : UInt16 := h.number16 Layout.sourcePort

def destinationPort (h : Header) : UInt16 := h.number16 Layout.destinationPort

def length (h : Header) : UInt16 := h.number16 Layout.length

def checksum (h : Header) : UInt16 := h.number16 Layout.checksum

def datagram (h : Header) : List UInt8 := h.tail.take (max h.length.toNat h.headerLength)

def payload (h : Header) : List UInt8 := h.datagram.drop h.headerLength

def calculateChecksum (h : Header) : UInt16 := Checksum.internet (withoutChecksum h.datagram)

def verifyChecksum (h : Header) : Bool := h.checksum == 0 || Checksum.internet h.datagram == 0

def verifyTransportChecksum (h : Header) (ends : Endpoints) : Bool :=
  h.checksum == 0 || Checksum.transport ends protocolNumber h.datagram == 0

def fields (h : Header) : Fields where
  sourcePort := h.sourcePort
  destinationPort := h.destinationPort
  length := h.length
  checksum := h.checksum

def listing (h : Header) : Listing := h.fields.listing

end Header

end PacketHeaders.Udp

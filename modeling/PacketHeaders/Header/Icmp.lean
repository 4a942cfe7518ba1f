import PacketHeaders.Assigned.Icmp
import PacketHeaders.Checksum
import PacketHeaders.Field
import PacketHeaders.Header.Listing

/-!
# ICMP headers

A message runs from its header to the end of the frame; behind an IPv4 header the frame has been cut
at the end of the datagram. The checksum covers the whole message.
-/

namespace PacketHeaders.Icmp

namespace Layout

def type : Field 8 := { pos := 0, width := 1 }
def code : Field 8 := { pos := 1, width := 1 }
def checksum : Field 8 := { pos := 2, width := 2 }
def id : Field 8 := { pos := 4, width := 2 }
def sequenceNumber : Field 8 := { pos := 6, width := 2 }

end Layout

/-- The checksum of a message whose own checksum field counts as zero. -/
def checksumOf (message : List UInt8) : UInt16 :=
  Checksum.internet (Octets.splice message Layout.checksum.pos [0, 0])

/-- What an ICMP header says. -/
structure Fields where
  typeNumber : UInt8
  codeNumber : UInt8
  checksum : UInt16
  id : UInt16
  sequenceNumber : UInt16
deriving DecidableEq, Repr

namespace Fields

def type (f : Fields) : IcmpType := .ofNumber f.typeNumber

def code (f : Fields) : IcmpCode := .ofNumber f.type f.codeNumber

def listing (f : Fields) : Listing where
  title := "ICMP"
  lines := [
    ("type", f.type.text),
    ("code", f.code.text),
    ("check-sum", Hex.ofWord f.checksum)] ++
    if f.type.isEcho then [
      ("id", toString f.id.toNat),
      ("sequence-number", toString f.sequenceNumber.toNat)]
    else []

end Fields

structure Header extends Window 8

namespace Header

def place (bytes : List UInt8) (start : Nat) : Except Fault Header :=
  (Window.place bytes start 8).map mk

def headerLength (_ : Header) : Nat := 8

def payloadStart (h : Header) : Nat := h.start + h.headerLength

def headerBytes (h : Header) : List UInt8 := h.head

def typeNumber (h : Header) : UInt8 := h.number8 Layout.type

def type (h : Header) : IcmpType := .ofNumber h.typeNumber

def codeNumber (h : Header) : UInt8 := h.number8 Layout.code

def code (h : Header) : IcmpCode := .ofNumber h.type h.codeNumber

def checksum (h : Header) : UInt16 := h.number16 Layout.checksum

def id (h : Header) : UInt16 := h.number16 Layout.id

def sequenceNumber (h : Header) : UInt16 := h.number16 Layout.sequenceNumber

def message (h : Header) : List UInt8 := h.tail

def payload (h : Header) : List UInt8 := h.message.drop h.headerLength

def calculateChecksum (h : Header) : UInt16 := checksumOf h.message

def verifyChecksum (h : Header) : Bool := Checksum.internet h.message == 0

def fields (h : Header) : Fields where
  typeNumber := h.typeNumber
  codeNumber := h.codeNumber
  checksum := h.checksum
  id := h.id
  sequenceNumber := h.sequenceNumber

def listing (h : Header) : Listing := h.fields.listing

end Header

end PacketHeaders.Icmp

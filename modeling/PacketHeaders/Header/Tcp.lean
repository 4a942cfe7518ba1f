import PacketHeaders.Field
import PacketHeaders.Flags
import PacketHeaders.Header.Listing
import PacketHeaders.Text.Digit

/-!
# TCP headers

The fixed 20 octets. The data offset counts words of four octets and is shown as the sender claims
it; the options behind the fixed part are not read.
-/

namespace PacketHeaders.Tcp

namespace Layout

def sourcePort : Field 20 := { pos := 0, width := 2 }
def destinationPort : Field 20 := { pos := 2, width := 2 }
def sequenceNumber : Field 20 := { pos := 4, width := 4 }
def acknowledgmentNumber : Field 20 := { pos := 8, width := 4 }
def dataOffset : Field 20 := { pos := 12, width := 1 }
def flags : Field 20 := { pos := 13, width := 1 }
def windowSize : Field 20 := { pos := 14, width := 2 }
def checksum : Field 20 := { pos := 16, width := 2 }
def urgentPointer : Field 20 := { pos := 18, width := 2 }

end Layout

/-- What the fixed part of a TCP header says. -/
structure Fields where
  sourcePort : UInt16
  destinationPort : UInt16
  sequenceNumber : UInt32
  acknowledgmentNumber : UInt32
  dataOffset : UInt8
  flags : TcpFlags
  windowSize : UInt16
  checksum : UInt16
  urgentPointer : UInt16
deriving DecidableEq, Repr

namespace Fields

def headerLength (f : Fields) : Nat := 4 * f.dataOffset.toNat

def listing (f : Fields) : Listing where
  title := "TCP"
  lines := [
    ("source-port", toString f.sourcePort.toNat),
    ("destination-port", toString f.destinationPort.toNat),
    ("sequence-number", toString f.sequenceNumber.toNat),
    ("acknowledgment-number", toString f.acknowledgmentNumber.toNat),
    ("header-length", toString f.headerLength),
    ("urg", toString f.flags.urg),
    ("ack", toString f.flags.ack),
    ("psh", toString f.flags.psh),
    ("rst", toString f.flags.rst),
    ("syn", toString f.flags.syn),
    ("fin", toString f.flags.fin),
    ("window-size", toString f.windowSize.toNat),
    ("check-sum", Hex.ofWord f.checksum),
    ("urgent-pointer", toString f.urgentPointer.toNat)]

end Fields

structure Header extends Window 20

namespace Header

def place (bytes : List UInt8) (start : Nat) : Except Fault Header :=
  (Window.place bytes start 20).map mk

def sourcePort (h : Header) : UInt16 := h.number16 Layout.sourcePort

def destinationPort (h : Header) : UInt16 := h.number16 Layout.destinationPort

def sequenceNumber (h : Header) : UInt32 := h.number32 Layout.sequenceNumber

def acknowledgmentNumber (h : Header) : UInt32 := h.number32 Layout.acknowledgmentNumber

/-- The high half of its octet; the low half is reserved. -/
def dataOffset (h : Header) : UInt8 := .ofNat (h.number Layout.dataOffset / 16)

def flags (h : Header) : TcpFlags := .ofBits (h.number8 Layout.flags)

def windowSize (h : Header) : UInt16 := h.number16 Layout.windowSize

def checksum (h : Header) : UInt16 := h.number16 Layout.checksum

def urgentPointer (h : Header) : UInt16 := h.number16 Layout.urgentPointer

def headerLength (h : Header) : Nat := 4 * h.dataOffset.toNat

def payloadStart (h : Header) : Nat := h.start + h.headerLength

def headerBytes (h : Header) : List UInt8 := h.head

def fields (h : Header) : Fields where
  sourcePort := h.sourcePort
  destinationPort := h.destinationPort
  sequenceNumber := h.sequenceNumber
  acknowledgmentNumber := h.acknowledgmentNumber
  dataOffset := h.dataOffset
  flags := h.flags
  windowSize := h.windowSize
  checksum := h.checksum
  urgentPointer := h.urgentPointer

def listing (h : Header) : Listing := h.fields.listing

end Header

end PacketHeaders.Tcp

import PacketHeaders.Assigned.IpProtocol
import PacketHeaders.Header.Icmp
import PacketHeaders.Header.Tcp
import PacketHeaders.Header.Udp

/-!
# IPv4 headers

A window guarantees the fixed 20 octets only. The header length and the total length are what the
sender claims: the header, the payload and the end of the datagram are cut to what the frame holds,
and a total length shorter than the header says nothing about where the datagram ends. The next
header is looked for behind a believable header length and inside the datagram.
-/

namespace PacketHeaders.Ipv4

namespace Layout

def versionAndLength : Field 20 := { pos := 0, width := 1 }
def typeOfService : Field 20 := { pos := 1, width := 1 }
def totalLength : Field 20 := { pos := 2, width := 2 }
def id : Field 20 := { pos := 4, width := 2 }
def fragment : Field 20 := { pos := 6, width := 2 }
def ttl : Field 20 := { pos := 8, width := 1 }
def protocol : Field 20 := { pos := 9, width := 1 }
def checksum : Field 20 := { pos := 10, width := 2 }
def source : Field 20 := { pos := 12, width := 4 }
def destination : Field 20 := { pos := 16, width := 4 }

end Layout

/-- The checksum of a header whose own checksum field counts as zero. -/
def checksumOf (header : List UInt8) : UInt16 :=
  Checksum.internet (Octets.splice header Layout.checksum.pos [0, 0])

/-- The fault of a header length that cannot hold the fixed octets. -/
def shortLength (length : Nat) : Fault := .headerLength "IP" length

/-- What the fixed part of an IPv4 header says. -/
structure Fields where
  version : UInt8
  lengthInWords : UInt8
  typeOfService : UInt8
  totalLength : UInt16
  id : UInt16
  flags : Ipv4Flags
  fragmentOffset : UInt16
  ttl : UInt8
  protocolNumber : UInt8
  checksum : UInt16
  source : Ipv4Address
  destination : Ipv4Address
deriving DecidableEq, Repr

namespace Fields

def protocol (f : Fields) : IpProtocol := .ofNumber f.protocolNumber

def headerLength (f : Fields) : Nat := 4 * f.lengthInWords.toNat

def listing (f : Fields) : Listing where
  title := "IP"
  lines := [
    ("version", toString f.version.toNat),
    ("protocol", f.protocol.text),
    ("id", toString f.id.toNat),
    ("flags", "[DF=" ++ toString f.flags.dontFragment.toNat ++
      ", MF=" ++ toString f.flags.moreFragments.toNat ++ "]"),
    ("fragment-offset", toString f.fragmentOffset.toNat),
    ("source-ip-address", f.source.text),
    ("destination-ip-address", f.destination.text),
    ("ttl", toString f.ttl.toNat),
    ("check-sum", Hex.ofWord f.checksum),
    ("type-of-service", toString f.typeOfService.toNat),
    ("total-length", toString f.totalLength.toNat),
    ("header-length", toString f.headerLength)]

end Fields

structure Header extends Window 20

namespace Header

def place (bytes : List UInt8) (start : Nat) : Except Fault Header :=
  (Window.place bytes start 20).map mk

def version (h : Header) : UInt8 := .ofNat (h.number Layout.versionAndLength / 16)

/-- The header length in words of four octets. -/
def lengthInWords (h : Header) : UInt8 := .ofNat (h.number Layout.versionAndLength % 16)

def typeOfService (h : Header) : UInt8 := h.number8 Layout.typeOfService

def totalLength (h : Header) : UInt16 := h.number16 Layout.totalLength

def id (h : Header) : UInt16 := h.number16 Layout.id

def flags (h : Header) : Ipv4Flags := .ofBits (.ofNat (h.number Layout.fragment / 8192))

def fragmentOffset (h : Header) : UInt16 := .ofNat (h.number Layout.fragment % 8192)

def ttl (h : Header) : UInt8 := h.number8 Layout.ttl

def protocolNumber (h : Header) : UInt8 := h.number8 Layout.protocol

def protocol (h : Header) : IpProtocol := .ofNumber h.protocolNumber

def checksum (h : Header) : UInt16 := h.number16 Layout.checksum

def source (h : Header) : Ipv4Address := ⟨h.octets Layout.source, h.length_octets _⟩

def destination (h : Header) : Ipv4Address := ⟨h.octets Layout.destination, h.length_octets _⟩

def ends (h : Header) : Endpoints := ⟨h.source, h.destination⟩

def headerLength (h : Header) : Nat := 4 * h.lengthInWords.toNat

def payloadStart (h : Header) : Nat := h.start + h.headerLength

/-- The header as far as the frame holds it. -/
def headerBytes (h : Header) : List UInt8 := h.tail.take h.headerLength

/-- The position in the frame behind the last octet of the datagram. -/
def datagramEnd (h : Header) : Nat :=
  if h.totalLength.toNat < h.headerLength then h.bytes.length
  else min (h.start + h.totalLength.toNat) h.bytes.length

def payload (h : Header) : List UInt8 := (h.bytes.take h.datagramEnd).drop h.payloadStart

def calculateChecksum (h : Header) : UInt16 := checksumOf h.headerBytes

def verifyChecksum (h : Header) : Bool :=
  20 ≤ h.headerLength && h.headerBytes.length == h.headerLength &&
    Checksum.internet h.headerBytes == 0

/-- The window of `n` octets behind the header, inside the datagram. -/
def next (h : Header) (n : Nat) : Except Fault (Window n) :=
  if h.headerLength < 20 then .error (shortLength h.headerLength)
  else (h.truncate h.datagramEnd 20).child h.headerLength n

def icmp (h : Header) : Except Fault Icmp.Header := (h.next 8).map .mk

def udp (h : Header) : Except Fault Udp.Header := (h.next 8).map .mk

def tcp (h : Header) : Except Fault Tcp.Header := (h.next 20).map .mk

def fields (h : Header) : Fields where
  version := h.version
  lengthInWords := h.lengthInWords
  typeOfService := h.typeOfService
  totalLength := h.totalLength
  id := h.id
  flags := h.flags
  fragmentOffset := h.fragmentOffset
  ttl := h.ttl
  protocolNumber := h.protocolNumber
  checksum := h.checksum
  source := h.source
  destination := h.destination

def listing (h : Header) : Listing := h.fields.listing

end Header

end PacketHeaders.Ipv4

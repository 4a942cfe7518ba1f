import PacketHeaders.Address.Ipv4
import PacketHeaders.Address.Mac
import PacketHeaders.Assigned.Arp
import PacketHeaders.Assigned.EtherType
import PacketHeaders.Field
import PacketHeaders.Header.Listing

/-!
# ARP headers

ARP and reverse ARP share one layout of 28 octets. Only MAC and IPv4 addresses have room in it,
whatever lengths the header claims for them.
-/

namespace PacketHeaders.Arp

namespace Layout

def hardwareType : Field 28 := { pos := 0, width := 2 }
def protocolType : Field 28 := { pos := 2, width := 2 }
def hardwareLength : Field 28 := { pos := 4, width := 1 }
def protocolLength : Field 28 := { pos := 5, width := 1 }
def operation : Field 28 := { pos := 6, width := 2 }
def senderMac : Field 28 := { pos := 8, width := 6 }
def senderIp : Field 28 := { pos := 14, width := 4 }
def targetMac : Field 28 := { pos := 18, width := 6 }
def targetIp : Field 28 := { pos := 24, width := 4 }

end Layout

/-- What an ARP header says. -/
structure Fields where
  hardwareType : HardwareType
  protocolType : UInt16
  hardwareLength : UInt8
  protocolLength : UInt8
  operation : ArpOperation
  senderMac : MacAddress
  senderIp : Ipv4Address
  targetMac : MacAddress
  targetIp : Ipv4Address
deriving DecidableEq, Repr

namespace Fields

def protocol (f : Fields) : EtherType := .ofNumber f.protocolType

def listing (f : Fields) : Listing where
  title := "ARP"
  lines := [
    ("hardware-type", f.hardwareType.text),
    ("protocol-type", f.protocol.text),
    ("hardware-length", toString f.hardwareLength.toNat),
    ("protocol-length", toString f.protocolLength.toNat),
    ("opcode", f.operation.text),
    ("sender-mac-address", f.senderMac.text),
    ("sender-ip-address", f.senderIp.text),
    ("target-mac-address", f.targetMac.text),
    ("target-ip-address", f.targetIp.text)]

end Fields

structure Header extends Window 28

namespace Header

def place (bytes : List UInt8) (start : Nat) : Except Fault Header :=
  (Window.place bytes start 28).map mk

def headerLength (_ : Header) : Nat := 28

def payloadStart (h : Header) : Nat := h.start + h.headerLength

def headerBytes (h : Header) : List UInt8 := h.head

def hardwareType (h : Header) : HardwareType := .ofNumber (h.number16 Layout.hardwareType)

def protocolType (h : Header) : UInt16 := h.number16 Layout.protocolType

def protocol (h : Header) : EtherType := .ofNumber h.protocolType

def hardwareLength (h : Header) : UInt8 := h.number8 Layout.hardwareLength

def protocolLength (h : Header) : UInt8 := h.number8 Layout.protocolLength

def operation (h : Header) : ArpOperation := .ofNumber (h.number16 Layout.operation)

def senderMac (h : Header) : MacAddress := ⟨h.octets Layout.senderMac, h.length_octets _⟩

def senderIp (h : Header) : Ipv4Address := ⟨h.octets Layout.senderIp, h.length_octets _⟩

def targetMac (h : Header) : MacAddress := ⟨h.octets Layout.targetMac, h.length_octets _⟩

def targetIp (h : Header) : Ipv4Address := ⟨h.octets Layout.targetIp, h.length_octets _⟩

def fields (h : Header) : Fields where
  hardwareType := h.hardwareType
  protocolType := h.protocolType
  hardwareLength := h.hardwareLength
  protocolLength := h.protocolLength
  operation := h.operation
  senderMac := h.senderMac
  senderIp := h.senderIp
  targetMac := h.targetMac
  targetIp := h.targetIp

def listing (h : Header) : Listing := h.fields.listing

end Header

end PacketHeaders.Arp

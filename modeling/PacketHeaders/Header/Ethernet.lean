import PacketHeaders.Header.Arp
import PacketHeaders.Header.Ipv4

/-!
# Ethernet headers

Two MAC addresses and the ethertype of what follows. The next header begins right behind and is
looked for whatever the ethertype says.
-/

namespace PacketHeaders.Ethernet

namespace Layout

def destination : Field 14 := { pos := 0, width := 6 }
def source : Field 14 := { pos := 6, width := 6 }
def etherType : Field 14 := { pos := 12, width := 2 }

end Layout

/-- What an Ethernet header says. -/
structure Fields where
  destination : MacAddress
  source : MacAddress
  etherType : UInt16
deriving DecidableEq, Repr

namespace Fields

def protocol (f : Fields) : EtherType := .ofNumber f.etherType

def listing (f : Fields) : Listing where
  title := "Ethernet"
  lines := [
    ("destination-mac-address", f.destination.text),
    ("source-mac-address", f.source.text),
    ("protocol", f.protocol.text)]

end Fields

structure Header extends Window 14

namespace Header

def place (bytes : List UInt8) (start : Nat) : Except Fault Header :=
  (Window.place bytes start 14).map mk

def headerLength (_ : Header) : Nat := 14

def payloadStart (h : Header) : Nat := h.start + h.headerLength

def headerBytes (h : Header) : List UInt8 := h.head

def destination (h : Header) : MacAddress := ⟨h.octets Layout.destination, h.length_octets _⟩

def source (h : Header) : MacAddress := ⟨h.octets Layout.source, h.length_octets _⟩

def etherType (h : Header) : UInt16 := h.number16 Layout.etherType

def protocol (h : Header) : EtherType := .ofNumber h.etherType

def ipv4 (h : Header) : Except Fault Ipv4.Header := (h.child h.headerLength 20).map .mk

def arp (h : Header) : Except Fault Arp.Header := (h.child h.headerLength 28).map .mk

def fields (h : Header) : Fields where
  destination := h.destination
  source := h.source
  etherType := h.etherType

def listing (h : Header) : Listing := h.fields.listing

end Header

end PacketHeaders.Ethernet

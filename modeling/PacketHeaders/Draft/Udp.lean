import PacketHeaders.Draft.Message
import PacketHeaders.Header.Udp

/-!
# Writing UDP datagrams

The length and the checksum are fields like any other: nothing fills them in but the caller. A
transport checksum that comes out as zero is sent as all ones, since zero would say that there is
none.
-/

namespace PacketHeaders.Udp

structure Draft extends Message

/-- The writing calls. -/
inductive Edit
  | sourcePort (value : UInt16)
  | destinationPort (value : UInt16)
  | length (value : UInt16)
  | checksum (value : UInt16)
  | payload (bytes : List UInt8)
deriving DecidableEq, Repr

/-- The transport checksum that a sender stores for a datagram. -/
def transportChecksum (datagram : List UInt8) (ends : Endpoints) : UInt16 :=
  let sum := Checksum.transport ends protocolNumber (withoutChecksum datagram)
  if sum = 0 then 0xffff else sum

namespace Draft

def ofWindow (w : Window 8) : Draft := ⟨.ofWindow w⟩

def place (bytes : List UInt8) (start : Nat) : Except Fault Draft :=
  (Window.place bytes start 8).map ofWindow

/-- What has been written so far, up to the end of the frame. -/
def header (d : Draft) : Header := ⟨d.toWindow⟩

def setSourcePort (d : Draft) (value : UInt16) : Draft := ⟨d.put Layout.sourcePort value.toNat⟩

def setDestinationPort (d : Draft) (value : UInt16) : Draft :=
  ⟨d.put Layout.destinationPort value.toNat⟩

def setLength (d : Draft) (value : UInt16) : Draft := ⟨d.put Layout.length value.toNat⟩

def setChecksum (d : Draft) (value : UInt16) : Draft := ⟨d.put Layout.checksum value.toNat⟩

def setPayload (payload : List UInt8) : Writing Draft Unit :=
  fun d => (Message.setPayload payload d.toMessage).recast id mk

def edit : Edit → Writing Draft Unit
  | .sourcePort value => modify (·.setSourcePort value)
  | .destinationPort value => modify (·.setDestinationPort value)
  | .length value => modify (·.setLength value)
  | .checksum value => modify (·.setChecksum value)
  | .payload bytes => setPayload bytes

/-- What the length field should say. -/
def datagramLength (d : Draft) : Nat := d.toMessage.length

/-- The checksum of the header and the payload written so far. -/
def defaultChecksum (d : Draft) : UInt16 :=
  Checksum.internet (withoutChecksum d.toMessage.octets)

def transportChecksum (d : Draft) (ends : Endpoints) : UInt16 :=
  Udp.transportChecksum d.toMessage.octets ends

end Draft

end PacketHeaders.Udp

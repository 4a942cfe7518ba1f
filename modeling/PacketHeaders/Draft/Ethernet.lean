import PacketHeaders.Draft.Ipv4
import PacketHeaders.Header.Ethernet

/-!
# Writing Ethernet headers

A draft is a header that is being written into its frame. What a call needs is looked up before
anything is written.
-/

namespace PacketHeaders.Ethernet

structure Draft extends Window 14

/-- The writing calls. -/
inductive Edit
  | destination (address : MacAddress)
  | source (address : MacAddress)
  | destinationText (text : String)
  | sourceText (text : String)
  | protocol (protocol : EtherType)
deriving DecidableEq, Repr

/-- The fault of a text that is no MAC address, for the field it was given for. -/
def badAddress (field text : String) : Fault :=
  .format s!"could not convert {field} mac-address \"{text}\", expected XX:XX:XX:XX:XX:XX"

namespace Draft

def place (bytes : List UInt8) (start : Nat) : Except Fault Draft :=
  (Window.place bytes start 14).map mk

/-- What has been written so far. -/
def header (d : Draft) : Header := ⟨d.toWindow⟩

/-- Overwrites one of the two addresses. -/
def setAddress (d : Draft) (f : Field 14) (address : MacAddress) : Draft :=
  ⟨d.write f.pos address.octets⟩

def setDestination (d : Draft) (address : MacAddress) : Draft :=
  d.setAddress Layout.destination address

def setSource (d : Draft) (address : MacAddress) : Draft := d.setAddress Layout.source address

def setAddressText (f : Field 14) (field text : String) : Writing Draft Unit := do
  let address ← .demand (MacAddress.ofText? text) (badAddress field text)
  modify (·.setAddress f address)

def setDestinationText (text : String) : Writing Draft Unit :=
  setAddressText Layout.destination "destination" text

def setSourceText (text : String) : Writing Draft Unit :=
  setAddressText Layout.source "source" text

def setProtocol (protocol : EtherType) : Writing Draft Unit := do
  let n ← .demand protocol.number?
    (.unsupported "Undefined ethernet protocol has no ethertype")
  modify fun d => ⟨d.put Layout.etherType n.toNat⟩

theorem setAddressText_eq (d : Draft) (f : Field 14) (field text : String) :
    d.setAddressText f field text =
      match MacAddress.ofText? text with
      | some address => .ok () (d.setAddress f address)
      | none => .error (badAddress field text) d := by
  rw [setAddressText, Writing.demand_bind]
  cases MacAddress.ofText? text <;> rfl

theorem setProtocol_eq (d : Draft) (protocol : EtherType) :
    d.setProtocol protocol =
      match protocol.number? with
      | some n => .ok () ⟨d.put Layout.etherType n.toNat⟩
      | none => .error (.unsupported "Undefined ethernet protocol has no ethertype") d := by
  rw [setProtocol, Writing.demand_bind]
  cases protocol.number? <;> rfl

def edit : Edit → Writing Draft Unit
  | .destination address => modify (·.setDestination address)
  | .source address => modify (·.setSource address)
  | .destinationText text => setDestinationText text
  | .sourceText text => setSourceText text
  | .protocol protocol => setProtocol protocol

/-- The draft of the IPv4 header right behind this one. -/
def ipv4 (d : Draft) : Except Fault Ipv4.Draft := (d.child 14 20).map .mk

end Draft

end PacketHeaders.Ethernet

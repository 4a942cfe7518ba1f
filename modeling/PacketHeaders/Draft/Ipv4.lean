import PacketHeaders.Draft.Icmp
import PacketHeaders.Draft.Udp
import PacketHeaders.Header.Ipv4

/-!
# Writing IPv4 headers

Version and header length share an octet, flags and fragment offset a word; writing one of the first
two keeps the other. The next draft begins behind the header length written so far and may use the
frame to its end.
-/

namespace PacketHeaders.Ipv4

structure Draft extends Window 20

/-- The writing calls. -/
inductive Edit
  | defaults
  | version (value : UInt8)
  | headerLength (length : Nat)
  | typeOfService (value : UInt8)
  | totalLength (value : UInt16)
  | id (value : UInt16)
  | fragment (flags : Ipv4Flags) (offset : UInt16)
  | ttl (value : UInt8)
  | protocol (protocol : IpProtocol)
  | checksum (value : UInt16)
  | source (address : Ipv4Address)
  | destination (address : Ipv4Address)
  | sourceText (text : String)
  | destinationText (text : String)
deriving DecidableEq, Repr

/-- The fault of a text that is no IPv4 address, for the field it was given for. -/
def badAddress (field text : String) : Fault :=
  .format s!"could not set {field} ip-address \"{text}\", invalid ip-address"

namespace Draft

def place (bytes : List UInt8) (start : Nat) : Except Fault Draft :=
  (Window.place bytes start 20).map mk

/-- What has been written so far. -/
def header (d : Draft) : Header := ⟨d.toWindow⟩

/-- Version 4, a header without options, no service class, no identification, not to be fragmented,
64 hops. -/
def applyDefaults (d : Draft) : Draft :=
  ⟨((((d.put Layout.versionAndLength 0x45).put Layout.typeOfService 0).put Layout.id 0).put
    Layout.fragment (8192 * Ipv4Flags.dontFragmentOnly.bits.toNat)).put Layout.ttl 64⟩

def setVersion (value : UInt8) : Writing Draft Unit := do
  if value ≤ 15 then
    let length := (← get).number Layout.versionAndLength % 16
    modify fun d => ⟨d.put Layout.versionAndLength (16 * value.toNat + length)⟩
  else throw (.range "version" value.toUInt32 15)

/-- A header length is a multiple of four from 20 to 60, and the frame holds that many octets. -/
def setHeaderLength (length : Nat) : Writing Draft Unit := do
  if length % 4 = 0 ∧ 20 ≤ length ∧ length ≤ 60 then
    let d ← get
    if d.start + length ≤ d.bytes.length then
      let version := d.number Layout.versionAndLength / 16
      modify fun d => ⟨d.put Layout.versionAndLength (16 * version + length / 4)⟩
    else throw (.bounds d.start length (d.bytes.length - d.start))
  else throw (.range "header length" (.ofNat length) 60)

def setTypeOfService (d : Draft) (value : UInt8) : Draft :=
  ⟨d.put Layout.typeOfService value.toNat⟩

def setTotalLength (d : Draft) (value : UInt16) : Draft := ⟨d.put Layout.totalLength value.toNat⟩

def setId (d : Draft) (value : UInt16) : Draft := ⟨d.put Layout.id value.toNat⟩

def setFragment (flags : Ipv4Flags) (offset : UInt16) : Writing Draft Unit := do
  if offset ≤ 8191 then
    modify fun d => ⟨d.put Layout.fragment (8192 * flags.bits.toNat + offset.toNat)⟩
  else throw (.range "fragment offset" offset.toUInt32 8191)

def setTtl (d : Draft) (value : UInt8) : Draft := ⟨d.put Layout.ttl value.toNat⟩

def setProtocol (protocol : IpProtocol) : Writing Draft Unit := do
  let n ← .demand protocol.number?
    (.unsupported "Undefined ip protocol has no protocol number")
  modify fun d => ⟨d.put Layout.protocol n.toNat⟩

def setChecksum (d : Draft) (value : UInt16) : Draft := ⟨d.put Layout.checksum value.toNat⟩

/-- Overwrites one of the two addresses. -/
def setAddress (d : Draft) (f : Field 20) (address : Ipv4Address) : Draft :=
  ⟨d.write f.pos address.octets⟩

def setSource (d : Draft) (address : Ipv4Address) : Draft := d.setAddress Layout.source address

def setDestination (d : Draft) (address : Ipv4Address) : Draft :=
  d.setAddress Layout.destination address

def setAddressText (f : Field 20) (field text : String) : Writing Draft Unit := do
  let address ← .demand (Ipv4Address.ofText? text) (badAddress field text)
  modify (·.setAddress f address)

def setSourceText (text : String) : Writing Draft Unit :=
  setAddressText Layout.source "source" text

def setDestinationText (text : String) : Writing Draft Unit :=
  setAddressText Layout.destination "destination" text

theorem setVersion_eq (d : Draft) (value : UInt8) :
    d.setVersion value =
      if value ≤ 15 then
        .ok () ⟨d.put Layout.versionAndLength
          (16 * value.toNat + d.number Layout.versionAndLength % 16)⟩
      else .error (.range "version" value.toUInt32 15) d := by
  unfold setVersion
  split <;> rfl

theorem setHeaderLength_eq (d : Draft) (length : Nat) :
    d.setHeaderLength length =
      if length % 4 = 0 ∧ 20 ≤ length ∧ length ≤ 60 then
        if d.start + length ≤ d.bytes.length then
          .ok () ⟨d.put Layout.versionAndLength
            (16 * (d.number Layout.versionAndLength / 16) + length / 4)⟩
        else .error (.bounds d.start length (d.bytes.length - d.start)) d
      else .error (.range "header length" (.ofNat length) 60) d := by
  unfold setHeaderLength
  split
  · change (ite (d.start + length ≤ d.bytes.length) _ _ : Writing Draft Unit) d = _
    split <;> rfl
  · rfl

theorem setFragment_eq (d : Draft) (flags : Ipv4Flags) (offset : UInt16) :
    d.setFragment flags offset =
      if offset ≤ 8191 then
        .ok () ⟨d.put Layout.fragment (8192 * flags.bits.toNat + offset.toNat)⟩
      else .error (.range "fragment offset" offset.toUInt32 8191) d := by
  unfold setFragment
  split <;> rfl

theorem setProtocol_eq (d : Draft) (protocol : IpProtocol) :
    d.setProtocol protocol =
      match protocol.number? with
      | some n => .ok () ⟨d.put Layout.protocol n.toNat⟩
      | none => .error (.unsupported "Undefined ip protocol has no protocol number") d := by
  rw [setProtocol, Writing.demand_bind]
  cases protocol.number? <;> rfl

theorem setAddressText_eq (d : Draft) (f : Field 20) (field text : String) :
    d.setAddressText f field text =
      match Ipv4Address.ofText? text with
      | some address => .ok () (d.setAddress f address)
      | none => .error (badAddress field text) d := by
  rw [setAddressText, Writing.demand_bind]
  cases Ipv4Address.ofText? text <;> rfl

def edit : Edit → Writing Draft Unit
  | .defaults => modify applyDefaults
  | .version value => setVersion value
  | .headerLength length => setHeaderLength length
  | .typeOfService value => modify (·.setTypeOfService value)
  | .totalLength value => modify (·.setTotalLength value)
  | .id value => modify (·.setId value)
  | .fragment flags offset => setFragment flags offset
  | .ttl value => modify (·.setTtl value)
  | .protocol protocol => setProtocol protocol
  | .checksum value => modify (·.setChecksum value)
  | .source address => modify (·.setSource address)
  | .destination address => modify (·.setDestination address)
  | .sourceText text => setSourceText text
  | .destinationText text => setDestinationText text

/-- The checksum of the header as written so far. -/
def defaultChecksum (d : Draft) : UInt16 := d.header.calculateChecksum

/-- The window of eight octets behind the header length written so far. -/
def next (d : Draft) : Except Fault (Window 8) :=
  if d.header.headerLength < 20 then .error (shortLength d.header.headerLength)
  else d.child d.header.headerLength 8

def icmp (d : Draft) : Except Fault Icmp.Draft := d.next.map .ofWindow

def udp (d : Draft) : Except Fault Udp.Draft := d.next.map .ofWindow

end Draft

end PacketHeaders.Ipv4

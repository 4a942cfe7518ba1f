import PacketHeaders.Draft.Call
import PacketHeaders.Draft.Ethernet
import PacketHeaders.Header
import PacketHeaders.Proofs.Guarded.Headers
import PacketHeaders.Proofs.Guarded.Ipv4
import PacketHeaders.Proofs.Records.Icmp

/-!
# Guarded calls to drafts

A bare draft is a place in a frame and the length of the payload that was written last, and nothing
is known about them. Every call is made on bare drafts: octets are overwritten one range at a time,
differences are taken, the octets under a checksum are looked up by the remembered length, and each
of these may fail. On what a draft is in truth none of them does, and the call comes to what it comes
to on the draft.
-/

namespace PacketHeaders

/-- The difference of two numbers, if the second is not the greater. -/
def subtract? (a b : Nat) : Option Nat := if b ≤ a then some (a - b) else none

/-- A guarded call that is accepted unless it fails. -/
def accept {α : Type} (x : Option α) : Option (Except Fault α) := x.map .ok

/-- A guarded call that is refused before it can fail. -/
def refuse {α : Type} (fault : Fault) : Option (Except Fault α) := some (.error fault)

structure Bare extends Span where
  payloadLength : Nat

namespace Bare

variable (b : Bare)

def write? (pos : Nat) (new : List UInt8) : Option Bare := do
  let bytes ← Octets.overwrite? b.bytes (b.start + pos) (b.start + pos + new.length) new
  return { b with bytes }

def put? {n : Nat} (f : Field n) (value : Nat) : Option Bare :=
  b.write? f.pos (Octets.ofNat f.width value)

/-- How many octets the frame has from the start of the draft on. -/
def room? : Option Nat := subtract? b.bytes.length b.start

/-- Header and payload of a message. -/
def octets? : Option (List UInt8) := b.head? (8 + b.payloadLength)

def setPayload? (payload : List UInt8) : Option (Except Fault Bare) :=
  let required := b.start + 8 + payload.length
  if required ≤ b.bytes.length then
    accept ((b.write? 8 payload).map ({ · with payloadLength := payload.length }))
  else refuse (.overflow required b.bytes.length)

end Bare

namespace Window

variable {n : Nat} (w : Window n)

/-- The place of a window, with a payload of `k` octets. -/
def bare (k : Nat) : Bare := ⟨w.toSpan, k⟩

variable (k : Nat)

theorem write?_bare {pos : Nat} {new : List UInt8}
    (h : w.start + pos + new.length ≤ w.bytes.length) :
    (w.bare k).write? pos new = some ((w.write pos new).bare k) := by
  have hwrite := Octets.overwrite?_of_le h
  simp only [bare, Bare.write?, hwrite]
  rfl

theorem write?_field {f : Field n} {new : List UInt8} (h : new.length = f.width) :
    (w.bare k).write? f.pos new = some ((w.write f.pos new).bare k) :=
  w.write?_bare k (by rw [h]; exact w.field_room f)

theorem put?_bare (f : Field n) (value : Nat) :
    (w.bare k).put? f value = some ((w.put f value).bare k) :=
  w.write?_field k (Octets.length_ofNat ..)

theorem room?_bare : (w.bare k).room? = some (w.bytes.length - w.start) :=
  if_pos (Nat.le_trans (Nat.le_add_right ..) w.room)

end Window

namespace Message

variable (m : Message)

def bare : Bare := m.toWindow.bare m.payloadLength

theorem octets?_bare : m.bare.octets? = some m.octets := by
  have hroom : 8 + m.payloadLength ≤ m.tail.length := by
    have := m.holds
    rw [m.length_tail]
    omega
  exact m.head?_eq_take hroom

/-- A remembered length that the frame does not bear out makes the checksums fail. -/
example : (Bare.mk ⟨List.replicate 8 0, 0⟩ 1).octets? = none := by decide

theorem length_octets_le : 8 ≤ m.octets.length := by
  rw [length_octets]
  exact Nat.le_add_right ..

theorem setPayload?_bare (payload : List UInt8) :
    m.bare.setPayload? payload = some ((m.setPayload payload).accepted fun _ => bare) := by
  by_cases h : m.start + 8 + payload.length ≤ m.bytes.length
  · rw [setPayload_of_le h]
    refine (if_pos h).trans ?_
    rw [bare, m.write?_bare _ h]
    rfl
  · rw [setPayload_of_lt (Nat.lt_of_not_le h)]
    exact if_neg h

end Message

namespace Ethernet

def Draft.bare (d : Draft) : Bare := d.toWindow.bare 0

namespace Guarded

variable (b : Bare)

def setAddressText? (f : Field 14) (field text : String) : Option (Except Fault Bare) :=
  match MacAddress.ofText? text with
  | some address => accept (b.write? f.pos address.octets)
  | none => refuse (badAddress field text)

def edit? : Edit → Option (Except Fault Bare)
  | .destination address => accept (b.write? Layout.destination.pos address.octets)
  | .source address => accept (b.write? Layout.source.pos address.octets)
  | .destinationText text => setAddressText? b Layout.destination "destination" text
  | .sourceText text => setAddressText? b Layout.source "source" text
  | .protocol protocol =>
    match protocol.number? with
    | some n => accept (b.put? Layout.etherType n.toNat)
    | none => refuse (.unsupported "Undefined ethernet protocol has no ethertype")

def call? (e : Edit) : Option (Except Fault (Bare × Reply)) :=
  (edit? b e).map (·.map (·, .nothing))

def summary? : Option Summary := do
  let fields ← fields? b.toSpan
  return ⟨b.start, 14, ← b.head? 14, fields.listing.text⟩

theorem write?_address (d : Draft) {f : Field 14} (hwidth : f.width = 6) (address : MacAddress) :
    d.bare.write? f.pos address.octets = some (d.setAddress f address).bare :=
  d.write?_field 0 (address.length_octets.trans hwidth.symm)

theorem setAddressText?_bare (d : Draft) {f : Field 14} (hwidth : f.width = 6)
    (field text : String) : setAddressText? d.bare f field text =
      some ((d.setAddressText f field text).accepted fun _ => Draft.bare) := by
  simp only [setAddressText?, Draft.setAddressText_eq, write?_address d hwidth]
  cases MacAddress.ofText? text <;> rfl

theorem edit?_bare (d : Draft) (e : Edit) :
    edit? d.bare e = some ((d.edit e).accepted fun _ => Draft.bare) := by
  cases e with
  | destination address =>
    rw [edit?, write?_address d rfl]
    rfl
  | source address =>
    rw [edit?, write?_address d rfl]
    rfl
  | destinationText text => exact setAddressText?_bare d rfl _ text
  | sourceText text => exact setAddressText?_bare d rfl _ text
  | protocol protocol =>
    simp only [edit?, Draft.edit, Draft.setProtocol_eq, Draft.bare, d.put?_bare]
    cases protocol.number? <;> rfl

theorem call?_bare (d : Draft) (e : Edit) : call? d.bare e =
    some ((answered (Draft.edit e) d).accepted fun reply d' => (d'.bare, reply)) := by
  rw [call?, edit?_bare, answered_eq]
  cases d.edit e <;> rfl

theorem summary?_bare (d : Draft) : summary? d.bare = some (Header.ethernet d.header).summary := by
  have hfields : fields? d.bare.toSpan = some d.header.fields := fields?_eq d.header
  have hbytes : d.bare.head? 14 = some d.header.headerBytes := d.head?_eq
  rw [summary?, hfields, hbytes]
  rfl

end Guarded

end Ethernet

namespace Ipv4

def Draft.bare (d : Draft) : Bare := d.toWindow.bare 0

namespace Guarded

variable (b : Bare)

def applyDefaults? : Option Bare := do
  let b ← b.put? Layout.versionAndLength 0x45
  let b ← b.put? Layout.typeOfService 0
  let b ← b.put? Layout.id 0
  let b ← b.put? Layout.fragment (8192 * Ipv4Flags.dontFragmentOnly.bits.toNat)
  b.put? Layout.ttl 64

def setVersion? (value : UInt8) : Option (Except Fault Bare) :=
  if value ≤ 15 then
    accept do
      let old ← b.number? Layout.versionAndLength
      b.put? Layout.versionAndLength (16 * value.toNat + old % 16)
  else refuse (.range "version" value.toUInt32 15)

def setHeaderLength? (length : Nat) : Option (Except Fault Bare) :=
  if length % 4 = 0 ∧ 20 ≤ length ∧ length ≤ 60 then do
    let available ← b.room?
    if length ≤ available then
      accept do
        let old ← b.number? Layout.versionAndLength
        b.put? Layout.versionAndLength (16 * (old / 16) + length / 4)
    else refuse (.bounds b.start length available)
  else refuse (.range "header length" (.ofNat length) 60)

def setAddressText? (f : Field 20) (field text : String) : Option (Except Fault Bare) :=
  match Ipv4Address.ofText? text with
  | some address => accept (b.write? f.pos address.octets)
  | none => refuse (badAddress field text)

def edit? : Edit → Option (Except Fault Bare)
  | .defaults => accept (applyDefaults? b)
  | .version value => setVersion? b value
  | .headerLength length => setHeaderLength? b length
  | .typeOfService value => accept (b.put? Layout.typeOfService value.toNat)
  | .totalLength value => accept (b.put? Layout.totalLength value.toNat)
  | .id value => accept (b.put? Layout.id value.toNat)
  | .fragment flags offset =>
    if offset ≤ 8191 then
      accept (b.put? Layout.fragment (8192 * flags.bits.toNat + offset.toNat))
    else refuse (.range "fragment offset" offset.toUInt32 8191)
  | .ttl value => accept (b.put? Layout.ttl value.toNat)
  | .protocol protocol =>
    match protocol.number? with
    | some n => accept (b.put? Layout.protocol n.toNat)
    | none => refuse (.unsupported "Undefined ip protocol has no protocol number")
  | .checksum value => accept (b.put? Layout.checksum value.toNat)
  | .source address => accept (b.write? Layout.source.pos address.octets)
  | .destination address => accept (b.write? Layout.destination.pos address.octets)
  | .sourceText text => setAddressText? b Layout.source "source" text
  | .destinationText text => setAddressText? b Layout.destination "destination" text

/-- The header as far as the frame holds it, measured by what is left of the frame. -/
def writtenBytes? : Option (List UInt8) := do
  let length ← headerLength? b.toSpan
  b.head? (min length (← b.room?))

def summary? : Option Summary := do
  let fields ← fields? b.toSpan
  return ⟨b.start, fields.headerLength, ← writtenBytes? b, fields.listing.text⟩

def call? : Call → Option (Except Fault (Bare × Reply))
  | .edit e => (edit? b e).map (·.map (·, .nothing))
  | .defaultChecksum => accept do
    return (b, .number (← calculateChecksum? b.toSpan).toNat)
  | .verifyChecksum => accept do
    return (b, .truth (← verifyChecksum? b.toSpan))
  | .storeChecksum => accept do
    let checksum ← calculateChecksum? b.toSpan
    return (← b.put? Layout.checksum checksum.toNat, .number checksum.toNat)

/-- The place of a message behind the header length written so far. -/
def nextDraft? : Option (Except Fault Span) := do
  let length ← headerLength? b.toSpan
  if length < 20 then refuse (shortLength length)
  else some ((b.child length 8).map (·.toSpan))

theorem put?_bare (d : Draft) (f : Field 20) (value : Nat) :
    d.bare.put? f value = some (Draft.mk (d.put f value)).bare :=
  d.toWindow.put?_bare 0 f value

theorem applyDefaults?_bare (d : Draft) : applyDefaults? d.bare = some d.applyDefaults.bare := by
  simp only [applyDefaults?, put?_bare, Option.bind_eq_bind, Option.bind_some]
  rfl

theorem setVersion?_bare (d : Draft) (value : UInt8) :
    setVersion? d.bare value = some ((d.setVersion value).accepted fun _ => Draft.bare) := by
  have hold : d.bare.number? Layout.versionAndLength = some (d.number Layout.versionAndLength) :=
    d.number?_eq _
  rw [setVersion?, Draft.setVersion_eq]
  split
  · simp only [hold, Option.bind_eq_bind, Option.bind_some, put?_bare]
    rfl
  · rfl

theorem setHeaderLength?_bare (d : Draft) (length : Nat) :
    setHeaderLength? d.bare length =
      some ((d.setHeaderLength length).accepted fun _ => Draft.bare) := by
  have hold : d.bare.number? Layout.versionAndLength = some (d.number Layout.versionAndLength) :=
    d.number?_eq _
  have hroom : d.start + 20 ≤ d.bytes.length := d.room
  have havailable : d.bare.room? = some (d.bytes.length - d.start) := d.room?_bare 0
  rw [setHeaderLength?, Draft.setHeaderLength_eq]
  by_cases hvalid : length % 4 = 0 ∧ 20 ≤ length ∧ length ≤ 60
  · rw [if_pos hvalid, if_pos hvalid, havailable, Option.bind_eq_bind, Option.bind_some]
    by_cases hfits : d.start + length ≤ d.bytes.length
    · rw [if_pos hfits, if_pos (by omega), hold, Option.bind_eq_bind, Option.bind_some, put?_bare]
      rfl
    · rw [if_neg hfits, if_neg (by omega)]
      rfl
  · rw [if_neg hvalid, if_neg hvalid]
    rfl

theorem write?_address (d : Draft) {f : Field 20} (hwidth : f.width = 4) (address : Ipv4Address) :
    d.bare.write? f.pos address.octets = some (d.setAddress f address).bare :=
  d.write?_field 0 (address.length_octets.trans hwidth.symm)

theorem setAddressText?_bare (d : Draft) {f : Field 20} (hwidth : f.width = 4)
    (field text : String) : setAddressText? d.bare f field text =
      some ((d.setAddressText f field text).accepted fun _ => Draft.bare) := by
  simp only [setAddressText?, Draft.setAddressText_eq, write?_address d hwidth]
  cases Ipv4Address.ofText? text <;> rfl

theorem edit?_bare (d : Draft) (e : Edit) :
    edit? d.bare e = some ((d.edit e).accepted fun _ => Draft.bare) := by
  cases e with
  | defaults =>
    rw [edit?, applyDefaults?_bare]
    rfl
  | version value => exact setVersion?_bare d value
  | headerLength length => exact setHeaderLength?_bare d length
  | typeOfService | totalLength | id | ttl | checksum =>
    rw [edit?, put?_bare]
    rfl
  | fragment flags offset =>
    simp only [edit?, Draft.edit, Draft.setFragment_eq, put?_bare]
    split <;> rfl
  | protocol protocol =>
    simp only [edit?, Draft.edit, Draft.setProtocol_eq, put?_bare]
    cases protocol.number? <;> rfl
  | source address =>
    rw [edit?, write?_address d rfl]
    rfl
  | destination address =>
    rw [edit?, write?_address d rfl]
    rfl
  | sourceText text => exact setAddressText?_bare d rfl _ text
  | destinationText text => exact setAddressText?_bare d rfl _ text

theorem writtenBytes?_bare (d : Draft) : writtenBytes? d.bare = some d.header.headerBytes := by
  have hlength : headerLength? d.bare.toSpan = some d.header.headerLength := headerLength?_eq d.header
  have hroom : d.bare.room? = some d.tail.length := by
    rw [d.length_tail]
    exact d.room?_bare 0
  rw [writtenBytes?, hlength, hroom]
  simp only [Option.bind_eq_bind, Option.bind_some]
  rw [Header.headerBytes, List.take_eq_take_min]
  exact d.head?_eq_take (Nat.min_le_right ..)

theorem summary?_bare (d : Draft) : summary? d.bare = some (Header.ipv4 d.header).summary := by
  have hfields : fields? d.bare.toSpan = some d.header.fields := fields?_eq d.header
  rw [summary?, hfields, writtenBytes?_bare]
  rfl

theorem call?_bare (d : Draft) (c : Call) :
    call? d.bare c = some ((d.call c).accepted fun reply d' => (d'.bare, reply)) := by
  have hchecksum : calculateChecksum? d.bare.toSpan = some d.defaultChecksum :=
    calculateChecksum?_eq d.header
  have hverify : verifyChecksum? d.bare.toSpan = some d.header.verifyChecksum :=
    (readable d.header).verifyChecksum
  cases c with
  | edit e =>
    rw [call?, edit?_bare, Draft.call, answered_eq]
    cases d.edit e <;> rfl
  | defaultChecksum => rw [call?, hchecksum]; rfl
  | verifyChecksum => rw [call?, hverify]; rfl
  | storeChecksum =>
    rw [call?, hchecksum]
    simp only [Option.bind_eq_bind, Option.bind_some, put?_bare]
    rfl

theorem nextDraft?_bare (d : Draft) : nextDraft? d.bare = some ((d.next).map (·.toSpan)) := by
  have hlength : headerLength? d.bare.toSpan = some d.header.headerLength := headerLength?_eq d.header
  rw [nextDraft?, hlength, Option.bind_eq_bind, Option.bind_some, Draft.next]
  split <;> rfl

end Guarded

end Ipv4

namespace Icmp

def Draft.bare (d : Draft) : Bare := d.toMessage.bare

namespace Guarded

variable (b : Bare)

def setType? (type : IcmpType) : Option (Except Fault Bare) :=
  match type.number? with
  | none => refuse (.unsupported "Undefined icmp type has no type number")
  | some n => do
    let fields ← fields? b.toSpan
    match fields.carriedCode? type with
    | some code =>
      accept do
        let b ← b.put? Layout.type n.toNat
        b.put? Layout.code code.toNat
    | none => refuse (foreignCode fields.code type ", change the code first")

def setCode? (code : IcmpCode) : Option (Except Fault Bare) := do
  let fields ← fields? b.toSpan
  match code.number? fields.type with
  | some n => accept (b.put? Layout.code n.toNat)
  | none => refuse (foreignCode code fields.type "")

def edit? : Edit → Option (Except Fault Bare)
  | .type type => setType? b type
  | .code code => setCode? b code
  | .checksum value => accept (b.put? Layout.checksum value.toNat)
  | .id value => accept (b.put? Layout.id value.toNat)
  | .sequenceNumber value => accept (b.put? Layout.sequenceNumber value.toNat)
  | .payload bytes => b.setPayload? bytes

def defaultChecksum? : Option UInt16 := do checksumOf? (← b.octets?)

def summary? : Option Summary := do
  let fields ← fields? b.toSpan
  return ⟨b.start, 8, ← b.head? 8, fields.listing.text⟩

def call? : Call → Option (Except Fault (Bare × Reply))
  | .edit e => (edit? b e).map (·.map (·, .nothing))
  | .defaultChecksum => accept do
    return (b, .number (← defaultChecksum? b).toNat)
  | .storeChecksum => accept do
    let checksum ← defaultChecksum? b
    return (← b.put? Layout.checksum checksum.toNat, .number checksum.toNat)

theorem put?_bare (d : Draft) (f : Field 8) (value : Nat) :
    d.bare.put? f value = some (Draft.mk (d.toMessage.put f value)).bare :=
  d.toWindow.put?_bare d.payloadLength f value

theorem fields?_bare (d : Draft) : fields? d.bare.toSpan = some d.header.fields :=
  fields?_eq d.header

theorem setType?_bare (d : Draft) (type : IcmpType) :
    setType? d.bare type = some ((d.setType type).accepted fun _ => Draft.bare) := by
  have hcarried : d.header.fields.carriedCode? type = d.carriedCode? type := rfl
  rw [setType?, Draft.setType_eq]
  cases type.number? with
  | none => rfl
  | some n =>
    simp only [fields?_bare, Option.bind_eq_bind, Option.bind_some, hcarried, put?_bare]
    cases d.carriedCode? type <;> rfl

theorem setCode?_bare (d : Draft) (code : IcmpCode) :
    setCode? d.bare code = some ((d.setCode code).accepted fun _ => Draft.bare) := by
  have htype : d.header.fields.type = d.header.type := rfl
  simp only [setCode?, Draft.setCode_eq, fields?_bare, Option.bind_eq_bind, Option.bind_some, htype,
    put?_bare]
  cases code.number? d.header.type <;> rfl

theorem edit?_bare (d : Draft) (e : Edit) :
    edit? d.bare e = some ((d.edit e).accepted fun _ => Draft.bare) := by
  cases e with
  | type type => exact setType?_bare d type
  | code code => exact setCode?_bare d code
  | checksum | id | sequenceNumber => rw [edit?, put?_bare]; rfl
  | payload bytes =>
    rw [edit?, Draft.bare, Message.setPayload?_bare, Draft.edit, Draft.setPayload]
    cases d.toMessage.setPayload bytes <;> rfl

theorem defaultChecksum?_bare (d : Draft) : defaultChecksum? d.bare = some d.defaultChecksum := by
  rw [defaultChecksum?, Draft.bare, Message.octets?_bare]
  exact checksumOf?_eq d.length_octets_le

theorem summary?_bare (d : Draft) : summary? d.bare = some (Header.icmp d.header).summary := by
  have hfields : fields? d.bare.toSpan = some d.header.fields := fields?_eq d.header
  have hbytes : d.bare.head? 8 = some d.header.headerBytes := d.head?_eq
  rw [summary?, hfields, hbytes]
  rfl

theorem call?_bare (d : Draft) (c : Call) :
    call? d.bare c = some ((d.call c).accepted fun reply d' => (d'.bare, reply)) := by
  cases c with
  | edit e =>
    rw [call?, edit?_bare, Draft.call, answered_eq]
    cases d.edit e <;> rfl
  | defaultChecksum => rw [call?, defaultChecksum?_bare]; rfl
  | storeChecksum =>
    rw [call?, defaultChecksum?_bare]
    simp only [Option.bind_eq_bind, Option.bind_some, put?_bare]
    rfl

end Guarded

end Icmp

namespace Udp

def Draft.bare (d : Draft) : Bare := d.toMessage.bare

namespace Guarded

variable (b : Bare)

def edit? : Edit → Option (Except Fault Bare)
  | .sourcePort value => accept (b.put? Layout.sourcePort value.toNat)
  | .destinationPort value => accept (b.put? Layout.destinationPort value.toNat)
  | .length value => accept (b.put? Layout.length value.toNat)
  | .checksum value => accept (b.put? Layout.checksum value.toNat)
  | .payload bytes => b.setPayload? bytes

/-- Header and payload with zero for the checksum. -/
def withoutChecksum? : Option (List UInt8) := do
  Octets.overwrite? (← b.octets?) 6 8 [0, 0]

def defaultChecksum? : Option UInt16 := do return Checksum.internet (← withoutChecksum? b)

def transportChecksum? (ends : Endpoints) : Option UInt16 := do
  let sum ← Checksum.transport? ends protocolNumber (← withoutChecksum? b)
  return if sum = 0 then 0xffff else sum

/-- Stores a checksum and replies with it. -/
def store? (checksum? : Option UInt16) : Option (Except Fault (Bare × Reply)) :=
  accept do
    let checksum ← checksum?
    return (← b.put? Layout.checksum checksum.toNat, .number checksum.toNat)

def summary? : Option Summary := do
  let fields ← fields? b.toSpan
  return ⟨b.start, 8, ← b.head? 8, fields.listing.text⟩

def call? : Call → Option (Except Fault (Bare × Reply))
  | .edit e => (edit? b e).map (·.map (·, .nothing))
  | .datagramLength => accept (some (b, .number (8 + b.payloadLength)))
  | .defaultChecksum => accept do
    return (b, .number (← defaultChecksum? b).toNat)
  | .transportChecksum ends => accept do
    return (b, .number (← transportChecksum? b ends).toNat)
  | .storeChecksum => store? b (defaultChecksum? b)
  | .storeTransportChecksum ends => store? b (transportChecksum? b ends)

theorem put?_bare (d : Draft) (f : Field 8) (value : Nat) :
    d.bare.put? f value = some (Draft.mk (d.toMessage.put f value)).bare :=
  d.toWindow.put?_bare d.payloadLength f value

theorem edit?_bare (d : Draft) (e : Edit) :
    edit? d.bare e = some ((d.edit e).accepted fun _ => Draft.bare) := by
  cases e with
  | sourcePort | destinationPort | length | checksum => rw [edit?, put?_bare]; rfl
  | payload bytes =>
    rw [edit?, Draft.bare, Message.setPayload?_bare, Draft.edit, Draft.setPayload]
    cases d.toMessage.setPayload bytes <;> rfl

theorem withoutChecksum?_bare (d : Draft) :
    withoutChecksum? d.bare = some (withoutChecksum d.toMessage.octets) := by
  rw [withoutChecksum?, Draft.bare, Message.octets?_bare]
  exact Octets.overwrite?_zeros (show 6 + 2 ≤ d.octets.length from d.length_octets_le)

theorem defaultChecksum?_bare (d : Draft) : defaultChecksum? d.bare = some d.defaultChecksum := by
  rw [defaultChecksum?, withoutChecksum?_bare]
  rfl

theorem transportChecksum?_bare (d : Draft) (ends : Endpoints) :
    transportChecksum? d.bare ends = some (d.transportChecksum ends) := by
  rw [transportChecksum?, withoutChecksum?_bare]
  simp only [Option.bind_eq_bind, Option.bind_some, Checksum.transport?_eq]
  rfl

theorem store?_bare (d : Draft) (checksum : UInt16) :
    store? d.bare (some checksum) =
      some (.ok ((d.setChecksum checksum).bare, .number checksum.toNat)) := by
  simp only [store?, Option.bind_eq_bind, Option.bind_some, put?_bare]
  rfl

theorem summary?_bare (d : Draft) : summary? d.bare = some (Header.udp d.header).summary := by
  have hfields : fields? d.bare.toSpan = some d.header.fields := fields?_eq d.header
  have hbytes : d.bare.head? 8 = some d.header.headerBytes := d.head?_eq
  rw [summary?, hfields, hbytes]
  rfl

theorem call?_bare (d : Draft) (c : Call) :
    call? d.bare c = some ((d.call c).accepted fun reply d' => (d'.bare, reply)) := by
  cases c with
  | edit e =>
    rw [call?, edit?_bare, Draft.call, answered_eq]
    cases d.edit e <;> rfl
  | datagramLength => rfl
  | defaultChecksum => rw [call?, defaultChecksum?_bare]; rfl
  | transportChecksum ends => rw [call?, transportChecksum?_bare]; rfl
  | storeChecksum => rw [call?, defaultChecksum?_bare, store?_bare]; rfl
  | storeTransportChecksum ends => rw [call?, transportChecksum?_bare, store?_bare]; rfl

end Guarded

end Udp

end PacketHeaders

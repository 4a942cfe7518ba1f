import PacketHeaders.Draft
import PacketHeaders.Proofs.Outcome

/-!
# Which calls are refused

For each call of a draft, and for each draft that may be begun behind another, the one fault that it
is refused with, or none. A call that only asks is never refused. Of two faults that a header length
may meet the range comes first, and an IPv4 header length that is too short is refused before there
is any talk of room. A call that is refused leaves the draft that it found: whatever it has to check
it checks before it writes, also where it writes twice.
-/

namespace EStateM.Result

variable {ε ε' σ σ' α : Type} {s s' : σ} {refusal? : Option ε} {x : Result ε σ α} {e : ε}

/-- What a program comes to in the state `s` is decided by its refusal: with one it stops and leaves
`s`, with none it comes to its end. -/
inductive Decided (s : σ) : Option ε → Result ε σ α → Prop
  | refused (e : ε) : Decided s (some e) (.error e s)
  | accepted (a : α) (s' : σ) : Decided s none (.ok a s')

namespace Decided

theorem error?_eq (h : Decided s refusal? x) : x.answer.error? = refusal? := by
  cases h <;> rfl

theorem unchanged (h : Decided s refusal? x) (hx : x = .error e s') : s' = s := by
  subst hx
  cases h
  rfl

theorem accepts_iff {x : Result ε σ Unit} (h : Decided s refusal? x) :
    (∃ s', x = .ok () s') ↔ refusal? = none := by
  cases h <;> simp

theorem recast (h : Decided s refusal? x) (error' : ε → ε') (state' : σ → σ') :
    Decided (state' s) (refusal?.map error') (x.recast error' state') := by
  cases h with
  | refused e => exact .refused _
  | accepted a s' => exact .accepted _ _

end Decided

end EStateM.Result

namespace PacketHeaders

open EStateM.Result (Decided)

theorem decided_answered {σ : Type} {s : σ} {refusal? : Option Fault} {edit : Writing σ Unit}
    (h : Decided s refusal? (edit s)) : Decided s refusal? (answered edit s) := by
  rw [answered_eq]
  generalize edit s = result at h
  cases h with
  | refused fault => exact .refused fault
  | accepted _ s' => exact .accepted _ s'

namespace Window

/-- Why the `n` octets from a place on do not lie inside a frame. -/
def bounds? (size start n : Nat) : Option Fault :=
  if size < start + n then some (.bounds start n (size - start)) else none

theorem error?_place (bytes : List UInt8) (start n : Nat) :
    (place bytes start n).error? = bounds? bytes.length start n := by
  unfold place bounds?
  split
  · rw [if_neg (by omega)]
    rfl
  · rw [if_pos (by omega)]
    rfl

end Window

namespace Ethernet

def Edit.refusal? : Edit → Option Fault
  | .destinationText text =>
    if MacAddress.ofText? text = none then some (badAddress "destination" text) else none
  | .sourceText text =>
    if MacAddress.ofText? text = none then some (badAddress "source" text) else none
  | .protocol value =>
    if value = .undefined then
      some (.unsupported "Undefined ethernet protocol has no ethertype")
    else none
  | .destination _ | .source _ => none

namespace Draft

variable (d : Draft)

theorem decided_setAddressText (f : Field 14) (field text : String) :
    Decided d (if MacAddress.ofText? text = none then some (badAddress field text) else none)
      (d.setAddressText f field text) := by
  rw [setAddressText_eq]
  cases MacAddress.ofText? text with
  | none => exact .refused _
  | some address => exact .accepted ..

theorem decided_edit (e : Edit) : Decided d e.refusal? (d.edit e) := by
  cases e with
  | destination | source => exact .accepted ..
  | destinationText text => exact d.decided_setAddressText Layout.destination "destination" text
  | sourceText text => exact d.decided_setAddressText Layout.source "source" text
  | protocol protocol =>
    rw [edit, setProtocol_eq]
    cases protocol with
    | undefined => exact .refused _
    | ipv4 | arp | rarp => exact .accepted ..

/-- Why no IPv4 header can be begun behind this one. -/
def ipv4Refusal? : Option Fault := Window.bounds? d.bytes.length (d.start + 14) 20

theorem error?_ipv4 : d.ipv4.error? = d.ipv4Refusal? := by
  rw [ipv4, Except.error?_map]
  exact Window.error?_place ..

end Draft

end Ethernet

namespace Ipv4

def Edit.refusal? (start size : Nat) : Edit → Option Fault
  | .version value => if 15 < value then some (.range "version" value.toUInt32 15) else none
  | .headerLength length =>
    if length % 4 = 0 ∧ 20 ≤ length ∧ length ≤ 60 then Window.bounds? size start length
    else some (.range "header length" (.ofNat length) 60)
  | .fragment _ offset =>
    if 8191 < offset then some (.range "fragment offset" offset.toUInt32 8191) else none
  | .protocol value =>
    if value = .undefined then
      some (.unsupported "Undefined ip protocol has no protocol number")
    else none
  | .sourceText text =>
    if Ipv4Address.ofText? text = none then some (badAddress "source" text) else none
  | .destinationText text =>
    if Ipv4Address.ofText? text = none then some (badAddress "destination" text) else none
  | .defaults | .typeOfService _ | .totalLength _ | .id _ | .ttl _ | .checksum _ | .source _
  | .destination _ => none

def Call.refusal? (start size : Nat) : Call → Option Fault
  | .edit e => e.refusal? start size
  | .defaultChecksum | .verifyChecksum | .storeChecksum => none

namespace Draft

variable (d : Draft)

theorem decided_setHeaderLength (length : Nat) :
    Decided d ((Edit.headerLength length).refusal? d.start d.bytes.length)
      (d.setHeaderLength length) := by
  rw [setHeaderLength_eq, Edit.refusal?, Window.bounds?]
  split
  · by_cases hfits : d.start + length ≤ d.bytes.length
    · rw [if_pos hfits, if_neg (Nat.not_lt_of_le hfits)]
      exact .accepted ..
    · rw [if_neg hfits, if_pos (Nat.lt_of_not_le hfits)]
      exact .refused _
  · exact .refused _

theorem decided_setAddressText (f : Field 20) (field text : String) :
    Decided d (if Ipv4Address.ofText? text = none then some (badAddress field text) else none)
      (d.setAddressText f field text) := by
  rw [setAddressText_eq]
  cases Ipv4Address.ofText? text with
  | none => exact .refused _
  | some address => exact .accepted ..

theorem decided_edit (e : Edit) : Decided d (e.refusal? d.start d.bytes.length) (d.edit e) := by
  cases e with
  | defaults | typeOfService | totalLength | id | ttl | checksum | source | destination =>
    exact .accepted ..
  | version value =>
    simp only [edit, setVersion_eq, Edit.refusal?, ← UInt8.not_le, ite_not]
    split
    · exact .accepted ..
    · exact .refused _
  | headerLength length => exact d.decided_setHeaderLength length
  | fragment flags offset =>
    simp only [edit, setFragment_eq, Edit.refusal?, ← UInt16.not_le, ite_not]
    split
    · exact .accepted ..
    · exact .refused _
  | protocol protocol =>
    rw [edit, setProtocol_eq]
    cases protocol with
    | undefined => exact .refused _
    | tcp | udp | icmp => exact .accepted ..
  | sourceText text => exact d.decided_setAddressText Layout.source "source" text
  | destinationText text => exact d.decided_setAddressText Layout.destination "destination" text

theorem decided_call (c : Call) : Decided d (c.refusal? d.start d.bytes.length) (d.call c) := by
  cases c with
  | edit e => exact decided_answered (d.decided_edit e)
  | defaultChecksum | verifyChecksum | storeChecksum => exact .accepted ..

/-- Why no message can be begun behind this header. -/
def nextRefusal? : Option Fault :=
  if d.header.lengthInWords < 5 then some (.headerLength "IP" (4 * d.header.lengthInWords.toNat))
  else Window.bounds? d.bytes.length d.header.payloadStart 8

theorem error?_next : d.next.error? = d.nextRefusal? := by
  have hshort : d.header.headerLength < 20 ↔ d.header.lengthInWords < 5 := by
    rw [Header.headerLength, UInt8.lt_iff_toNat_lt]
    change _ ↔ _ < 5
    omega
  simp only [next, nextRefusal?, hshort]
  split
  · rfl
  · exact Window.error?_place ..

end Draft

end Ipv4

/-- Why a payload cannot be written behind a header of eight octets. -/
def Message.overflow? (start size : Nat) (payload : List UInt8) : Option Fault :=
  if size < start + 8 + payload.length then some (.overflow (start + 8 + payload.length) size)
  else none

/-- A payload that does not fit leaves the octets and the remembered length alone. -/
theorem Message.decided_setPayload (m : Message) (payload : List UInt8) :
    Decided m (overflow? m.start m.bytes.length payload) (m.setPayload payload) := by
  rw [overflow?]
  split
  · next hlt =>
    rw [setPayload_of_lt hlt]
    exact .refused _
  · next hle =>
    rw [setPayload_of_le (Nat.le_of_not_lt hle)]
    exact .accepted ..

namespace Icmp

/-- The type and the code are those that the draft holds. -/
def Edit.refusal? (type : IcmpType) (code : IcmpCode) (start size : Nat) : Edit → Option Fault
  | .type value =>
    if value = .undefined then some (.unsupported "Undefined icmp type has no type number")
    else if value.codes? ≠ none ∧ code ≠ .noCode ∧ code ≠ .undefined ∧
        code.number? value = none then
      some (foreignCode code value ", change the code first")
    else none
  | .code value =>
    if value.number? type = none then some (foreignCode value type "") else none
  | .payload bytes => Message.overflow? start size bytes
  | .checksum _ | .id _ | .sequenceNumber _ => none

def Call.refusal? (type : IcmpType) (code : IcmpCode) (start size : Nat) : Call → Option Fault
  | .edit e => e.refusal? type code start size
  | .defaultChecksum | .storeChecksum => none

namespace Draft

variable (d : Draft)

theorem carriedCode?_eq_none_iff {type : IcmpType} :
    d.carriedCode? type = none ↔
      type.codes? ≠ none ∧ d.header.code ≠ .noCode ∧ d.header.code ≠ .undefined ∧
        d.header.code.number? type = none := by
  unfold carriedCode?
  split
  · next h =>
    constructor
    · intro hnone
      cases hnone
    · rintro ⟨hcodes, hcode, hundefined, -⟩
      rcases h with h | h | h
      · exact absurd h hcodes
      · exact absurd h hcode
      · exact absurd h hundefined
  · next h =>
    simp only [not_or] at h
    exact ⟨fun hnone => ⟨h.1, h.2.1, h.2.2, hnone⟩, fun hnone => hnone.2.2.2⟩

/-- Neither the type nor the code is written unless both can be. -/
theorem decided_setType (type : IcmpType) :
    Decided d ((Edit.type type).refusal? d.header.type d.header.code d.start d.bytes.length)
      (d.setType type) := by
  simp only [setType_eq, Edit.refusal?, ← carriedCode?_eq_none_iff]
  cases htype : type.number? with
  | none =>
    have hundefined : type = .undefined := by
      cases type <;> first | rfl | cases htype
    rw [if_pos hundefined]
    exact .refused _
  | some n =>
    have hdefined : type ≠ .undefined := by
      rintro rfl
      cases htype
    rw [if_neg hdefined]
    cases d.carriedCode? type with
    | none => exact .refused _
    | some code => exact .accepted ..

theorem decided_setCode (code : IcmpCode) :
    Decided d ((Edit.code code).refusal? d.header.type d.header.code d.start d.bytes.length)
      (d.setCode code) := by
  rw [setCode_eq, Edit.refusal?]
  cases code.number? d.header.type with
  | none => exact .refused _
  | some n => exact .accepted ..

theorem decided_edit (e : Edit) :
    Decided d (e.refusal? d.header.type d.header.code d.start d.bytes.length) (d.edit e) := by
  cases e with
  | checksum | id | sequenceNumber => exact .accepted ..
  | type type => exact d.decided_setType type
  | code code => exact d.decided_setCode code
  | payload bytes =>
    have hmessage := (d.toMessage.decided_setPayload bytes).recast id mk
    rwa [Option.map_id] at hmessage

theorem decided_call (c : Call) :
    Decided d (c.refusal? d.header.type d.header.code d.start d.bytes.length) (d.call c) := by
  cases c with
  | edit e => exact decided_answered (d.decided_edit e)
  | defaultChecksum | storeChecksum => exact .accepted ..

theorem call_checksFirst (c : Call) : (call c).ChecksFirst :=
  fun {d} _ _ => (d.decided_call c).unchanged

end Draft

end Icmp

namespace Udp

def Edit.refusal? (start size : Nat) : Edit → Option Fault
  | .payload bytes => Message.overflow? start size bytes
  | .sourcePort _ | .destinationPort _ | .length _ | .checksum _ => none

def Call.refusal? (start size : Nat) : Call → Option Fault
  | .edit e => e.refusal? start size
  | .datagramLength | .defaultChecksum | .transportChecksum _ | .storeChecksum
  | .storeTransportChecksum _ => none

namespace Draft

variable (d : Draft)

theorem decided_edit (e : Edit) : Decided d (e.refusal? d.start d.bytes.length) (d.edit e) := by
  cases e with
  | sourcePort | destinationPort | length | checksum => exact .accepted ..
  | payload bytes =>
    have hmessage := (d.toMessage.decided_setPayload bytes).recast id mk
    rwa [Option.map_id] at hmessage

theorem decided_call (c : Call) : Decided d (c.refusal? d.start d.bytes.length) (d.call c) := by
  cases c with
  | edit e => exact decided_answered (d.decided_edit e)
  | datagramLength | defaultChecksum | transportChecksum | storeChecksum
  | storeTransportChecksum => exact .accepted ..

theorem call_checksFirst (c : Call) : (call c).ChecksFirst :=
  fun {d} _ _ => (d.decided_call c).unchanged

end Draft

end Udp

namespace Draft

/-- Why a draft does not take a call: it refuses it, or does not know it. -/
def refusal? (reading : Reading) : Draft → Option Refusal
  | ethernet _ => answer Ethernet.Edit.refusal? reading.ethernet
  | ipv4 d => answer (·.refusal? d.start d.bytes.length) reading.ipv4
  | icmp d =>
    answer (·.refusal? d.header.type d.header.code d.start d.bytes.length) reading.icmp
  | udp d => answer (·.refusal? d.start d.bytes.length) reading.udp
where
  answer {γ : Type} (fault? : γ → Option Fault) : Option γ → Option Refusal
    | some c => (fault? c).map .fault
    | none => some .noSuchStep

theorem decided_answer {γ δ : Type} {run : γ → Writing δ Reply} {wrap : δ → Draft}
    {fault? : γ → Option Fault} {d : δ} (h : ∀ c, Decided d (fault? c) (run c d))
    (c? : Option γ) :
    Decided (wrap d) (refusal?.answer fault? c?) (call.answer run wrap c? d) := by
  cases c? with
  | none => exact .refused _
  | some c => exact (h c).recast Refusal.fault wrap

theorem decided_call (reading : Reading) (d : Draft) :
    Decided d (d.refusal? reading) (d.call reading) := by
  cases d with
  | ethernet d => exact decided_answer (fun e => decided_answered (d.decided_edit e)) _
  | ipv4 d => exact decided_answer d.decided_call _
  | icmp d => exact decided_answer d.decided_call _
  | udp d => exact decided_answer d.decided_call _

theorem call_checksFirst (reading : Reading) : (call reading).ChecksFirst :=
  fun {d} _ _ => (d.decided_call reading).unchanged

/-- Why no draft of a layer can be begun at a place in a frame. -/
def placeRefusal? (layer : Layer) (size start : Nat) : Option Refusal :=
  match layer with
  | .ethernet => (Window.bounds? size start 14).map .fault
  | .ipv4 => (Window.bounds? size start 20).map .fault
  | .icmp | .udp => (Window.bounds? size start 8).map .fault
  | _ => some .noSuchStep

theorem error?_place (layer : Layer) (bytes : List UInt8) (start : Nat) :
    (place layer bytes start).error? = placeRefusal? layer bytes.length start := by
  have hroom (n : Nat) {α β : Type} (wrap : Window n → α) (wrap' : α → β) :
      (Refusal.lift wrap' ((Window.place bytes start n).map wrap)).error? =
        (Window.bounds? bytes.length start n).map .fault := by
    rw [Refusal.error?_lift, Except.error?_map, Window.error?_place]
  cases layer with
  | ethernet | ipv4 | icmp | udp => exact hroom ..
  | arp | tcp | other => rfl

/-- Why no draft of a layer can be begun right behind this one. -/
def nextRefusal? : Draft → Layer → Option Refusal
  | ethernet d, .ipv4 => d.ipv4Refusal?.map .fault
  | ipv4 d, .icmp | ipv4 d, .udp => d.nextRefusal?.map .fault
  | _, _ => some .noSuchStep

theorem error?_next (d : Draft) (layer : Layer) :
    (d.next layer).error? = d.nextRefusal? layer := by
  unfold next
  split
  · rw [Refusal.error?_lift, Ethernet.Draft.error?_ipv4, nextRefusal?]
  · rw [Refusal.error?_lift, Ipv4.Draft.icmp, Except.error?_map, Ipv4.Draft.error?_next,
      nextRefusal?]
  · rw [Refusal.error?_lift, Ipv4.Draft.udp, Except.error?_map, Ipv4.Draft.error?_next,
      nextRefusal?]
  · next hethernet hicmp hudp =>
    unfold nextRefusal?
    split
    · exact absurd rfl (hethernet _ rfl)
    · exact absurd rfl (hicmp _ rfl)
    · exact absurd rfl (hudp _ rfl)
    · rfl

end Draft

end PacketHeaders

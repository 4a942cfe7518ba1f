import PacketHeaders.Draft.Ethernet
import PacketHeaders.Proofs.Refinement

/-!
# Ethernet drafts as records

An address given as a text is refused unless it reads as an address; a protocol needs an ethertype.
-/

namespace PacketHeaders.Ethernet

/-- The record with the address that a text spells for one of its fields. -/
def amendText (field text : String) (with' : MacAddress → Fields) : Except Fault Fields :=
  match MacAddress.ofText? text with
  | some address => .ok (with' address)
  | none => .error (badAddress field text)

theorem amendText_eq_ok_iff {field text : String} {with' : MacAddress → Fields} {f : Fields} :
    amendText field text with' = .ok f ↔
      ∃ address, MacAddress.ofText? text = some address ∧ with' address = f := by
  unfold amendText
  cases MacAddress.ofText? text <;> simp

def Fields.amend (f : Fields) : Edit → Except Fault Fields
  | .destination address => .ok { f with destination := address }
  | .source address => .ok { f with source := address }
  | .destinationText text => amendText "destination" text ({ f with destination := · })
  | .sourceText text => amendText "source" text ({ f with source := · })
  | .protocol protocol =>
    match protocol.number? with
    | some n => .ok { f with etherType := n }
    | none => .error (.unsupported "Undefined ethernet protocol has no ethertype")

namespace Draft

/-- Agreement of Ethernet drafts with their records. -/
abbrev Agrees (d : Draft) : EStateM.Result Fault Draft Unit → Except Fault Fields → Prop :=
  Agree toWindow (·.header.fields) 14 d

variable (d : Draft)

section Address

variable {f : Field 14} (hwidth : f.width = 6) {with' : MacAddress → Fields}
  (hfields : ∀ address,
    (Header.mk (d.put f (Octets.toNat address.octets))).fields = with' address)
include hwidth hfields

theorem agrees_setAddress (address : MacAddress) :
    d.Agrees (.ok () (d.setAddress f address)) (.ok (with' address)) := by
  have hput := d.write_eq_put (address.length_octets.trans hwidth.symm)
  rw [setAddress, hput]
  exact .done (hfields address) (.put ..)

theorem agrees_setAddressText (field text : String) :
    d.Agrees (d.setAddressText f field text) (amendText field text with') := by
  rw [setAddressText_eq, amendText]
  cases MacAddress.ofText? text with
  | none => exact .refused _
  | some address => exact d.agrees_setAddress hwidth hfields address

end Address

theorem agrees_edit (e : Edit) : d.Agrees (d.edit e) (d.header.fields.amend e) := by
  have hdestination (address : MacAddress) :
      (Header.mk (d.put Layout.destination (Octets.toNat address.octets))).fields =
        { d.header.fields with destination := address } := by
    have hself := d.octets_put_toNat (f := Layout.destination) address.length_octets
    simp (disch := decide) [header, Header.fields_mk, hself]
  have hsource (address : MacAddress) :
      (Header.mk (d.put Layout.source (Octets.toNat address.octets))).fields =
        { d.header.fields with source := address } := by
    have hself := d.octets_put_toNat (f := Layout.source) address.length_octets
    simp (disch := decide) [header, Header.fields_mk, hself]
  cases e with
  | destination address => exact d.agrees_setAddress rfl hdestination address
  | source address => exact d.agrees_setAddress rfl hsource address
  | destinationText text => exact d.agrees_setAddressText rfl hdestination _ text
  | sourceText text => exact d.agrees_setAddressText rfl hsource _ text
  | protocol protocol =>
    rw [edit, setProtocol_eq, Fields.amend]
    cases protocol.number? with
    | none => exact .refused _
    | some n =>
      refine .done ?_ (.put ..)
      simp (disch := decide) [header, Header.fields_mk]

/-- Ethernet drafts refine the records of their fields. -/
def refinement : Refinement 14 Draft Edit Fields where
  window := toWindow
  edit := edit
  record d := d.header.fields
  amend _ _ := Fields.amend
  extent _ := 14
  agree := agrees_edit

end Draft

end PacketHeaders.Ethernet

import PacketHeaders.Draft.Ipv4
import PacketHeaders.Proofs.Refinement

/-!
# IPv4 drafts as records

Version and header length are fields of their own although they share an octet, and so are flags and
fragment offset. A header length must fit the frame that the draft lies in.
-/

namespace PacketHeaders

namespace Ipv4Flags

theorem ofBits_bits (flags : Ipv4Flags) : ofBits flags.bits = flags := by
  obtain ⟨reserved, dontFragment, moreFragments⟩ := flags
  cases reserved <;> cases dontFragment <;> cases moreFragments <;> rfl

theorem bits_lt (flags : Ipv4Flags) : flags.bits.toNat < 8 := by
  obtain ⟨reserved, dontFragment, moreFragments⟩ := flags
  cases reserved <;> cases dontFragment <;> cases moreFragments <;> decide

end Ipv4Flags

namespace Ipv4

/-- The record with the address that a text spells for one of its fields. -/
def amendText (field text : String) (with' : Ipv4Address → Fields) : Except Fault Fields :=
  match Ipv4Address.ofText? text with
  | some address => .ok (with' address)
  | none => .error (badAddress field text)

theorem amendText_eq_ok_iff {field text : String} {with' : Ipv4Address → Fields} {f : Fields} :
    amendText field text with' = .ok f ↔
      ∃ address, Ipv4Address.ofText? text = some address ∧ with' address = f := by
  unfold amendText
  cases Ipv4Address.ofText? text <;> simp

def Fields.amend (start size : Nat) (f : Fields) : Edit → Except Fault Fields
  | .defaults =>
    .ok { f with
      version := 4, lengthInWords := 5, typeOfService := 0, id := 0
      flags := .dontFragmentOnly, fragmentOffset := 0, ttl := 64 }
  | .version value =>
    if value ≤ 15 then .ok { f with version := value }
    else .error (.range "version" value.toUInt32 15)
  | .headerLength length =>
    if length % 4 = 0 ∧ 20 ≤ length ∧ length ≤ 60 then
      if start + length ≤ size then .ok { f with lengthInWords := .ofNat (length / 4) }
      else .error (.bounds start length (size - start))
    else .error (.range "header length" (.ofNat length) 60)
  | .typeOfService value => .ok { f with typeOfService := value }
  | .totalLength value => .ok { f with totalLength := value }
  | .id value => .ok { f with id := value }
  | .fragment flags offset =>
    if offset ≤ 8191 then .ok { f with flags := flags, fragmentOffset := offset }
    else .error (.range "fragment offset" offset.toUInt32 8191)
  | .ttl value => .ok { f with ttl := value }
  | .protocol protocol =>
    match protocol.number? with
    | some n => .ok { f with protocolNumber := n }
    | none => .error (.unsupported "Undefined ip protocol has no protocol number")
  | .checksum value => .ok { f with checksum := value }
  | .source address => .ok { f with source := address }
  | .destination address => .ok { f with destination := address }
  | .sourceText text => amendText "source" text ({ f with source := · })
  | .destinationText text => amendText "destination" text ({ f with destination := · })

namespace Draft

/-- Agreement of IPv4 drafts with their records. -/
abbrev Agrees (d : Draft) : EStateM.Result Fault Draft Unit → Except Fault Fields → Prop :=
  Agree toWindow (·.header.fields) 20 d

variable (d : Draft)

section Address

variable {f : Field 20} (hwidth : f.width = 4) {with' : Ipv4Address → Fields}
  (hfields : ∀ address,
    (Header.mk (d.put f (Octets.toNat address.octets))).fields = with' address)
include hwidth hfields

theorem agrees_setAddress (address : Ipv4Address) :
    d.Agrees (.ok () (d.setAddress f address)) (.ok (with' address)) := by
  have hput := d.write_eq_put (address.length_octets.trans hwidth.symm)
  rw [setAddress, hput]
  exact .done (hfields address) (.put ..)

theorem agrees_setAddressText (field text : String) :
    d.Agrees (d.setAddressText f field text) (amendText field text with') := by
  rw [setAddressText_eq, amendText]
  cases Ipv4Address.ofText? text with
  | none => exact .refused _
  | some address => exact d.agrees_setAddress hwidth hfields address

end Address

/-- Version and header length are written together. -/
theorem fields_putVersionAndLength {version length : Nat} (hversion : version < 16)
    (hlength : length < 16) :
    (Draft.mk (d.put Layout.versionAndLength (16 * version + length))).header.fields =
      { d.header.fields with version := .ofNat version, lengthInWords := .ofNat length } := by
  have hself := d.number_put_self Layout.versionAndLength (16 * version + length)
  have hvalue : (16 * version + length) % Octets.limit Layout.versionAndLength.width =
      16 * version + length := Nat.mod_eq_of_lt (by change _ < 256; omega)
  have hhigh : (16 * version + length) / 16 = version := by omega
  have hlow : (16 * version + length) % 16 = length := by omega
  simp (disch := decide) [header, Header.fields_mk, hself, hvalue, hhigh, hlow]

/-- Flags and fragment offset are written together. -/
theorem fields_putFragment (flags : Ipv4Flags) {offset : UInt16} (hoffset : offset ≤ 8191) :
    (Draft.mk (d.put Layout.fragment (8192 * flags.bits.toNat + offset.toNat))).header.fields =
      { d.header.fields with flags := flags, fragmentOffset := offset } := by
  have hflags := flags.bits_lt
  have hlt : offset.toNat < 8192 := Nat.lt_succ_of_le hoffset
  have hself := d.number_put_self Layout.fragment (8192 * flags.bits.toNat + offset.toNat)
  have hvalue : (8192 * flags.bits.toNat + offset.toNat) % Octets.limit Layout.fragment.width =
      8192 * flags.bits.toNat + offset.toNat := Nat.mod_eq_of_lt (by change _ < 65536; omega)
  have hhigh : (8192 * flags.bits.toNat + offset.toNat) / 8192 = flags.bits.toNat := by omega
  have hlow : (8192 * flags.bits.toNat + offset.toNat) % 8192 = offset.toNat := by omega
  simp (disch := decide) [header, Header.fields_mk, hself, hvalue, hhigh, hlow,
    Ipv4Flags.ofBits_bits]

theorem agrees_applyDefaults : d.Agrees (.ok () d.applyDefaults)
    (.ok { d.header.fields with
      version := 4, lengthInWords := 5, typeOfService := 0, id := 0
      flags := .dontFragmentOnly, fragmentOffset := 0, ttl := 64 }) := by
  have hwritten : Window.Rewritten 20 d.toWindow d.applyDefaults.toWindow :=
    ((((Window.Rewritten.put _ _ _).trans (.put ..)).trans (.put ..)).trans (.put ..)).trans
      (.put ..)
  refine .done ?_ hwritten
  simp (disch := decide) [applyDefaults, header, Header.fields_mk, Window.number8, Window.number16,
    Window.number_put_self]
  decide

theorem agrees_setVersion (value : UInt8) :
    d.Agrees (d.setVersion value)
      (if value ≤ 15 then .ok { d.header.fields with version := value }
        else .error (.range "version" value.toUInt32 15)) := by
  rw [setVersion_eq]
  split
  · rename_i hvalue
    have hlt : value.toNat < 16 := Nat.lt_succ_of_le hvalue
    refine .done ?_ (.put ..)
    rw [d.fields_putVersionAndLength hlt (Nat.mod_lt _ (by decide)), UInt8.ofNat_toNat]
    rfl
  · exact .refused _

theorem agrees_setHeaderLength (length : Nat) :
    d.Agrees (d.setHeaderLength length)
      (if length % 4 = 0 ∧ 20 ≤ length ∧ length ≤ 60 then
        if d.start + length ≤ d.bytes.length then
          .ok { d.header.fields with lengthInWords := .ofNat (length / 4) }
        else .error (.bounds d.start length (d.bytes.length - d.start))
      else .error (.range "header length" (.ofNat length) 60)) := by
  have hbyte : d.number Layout.versionAndLength < 256 := d.number_lt _
  rw [setHeaderLength_eq]
  split
  · split
    · refine .done ?_ (.put ..)
      rw [d.fields_putVersionAndLength (by omega) (by omega)]
      rfl
    · exact .refused _
  · exact .refused _

theorem agrees_edit (e : Edit) :
    d.Agrees (d.edit e) (d.header.fields.amend d.start d.bytes.length e) := by
  have hsource (address : Ipv4Address) :
      (Header.mk (d.put Layout.source (Octets.toNat address.octets))).fields =
        { d.header.fields with source := address } := by
    have hself := d.octets_put_toNat (f := Layout.source) address.length_octets
    simp (disch := decide) [header, Header.fields_mk, hself]
  have hdestination (address : Ipv4Address) :
      (Header.mk (d.put Layout.destination (Octets.toNat address.octets))).fields =
        { d.header.fields with destination := address } := by
    have hself := d.octets_put_toNat (f := Layout.destination) address.length_octets
    simp (disch := decide) [header, Header.fields_mk, hself]
  cases e with
  | defaults => exact d.agrees_applyDefaults
  | version value => exact d.agrees_setVersion value
  | headerLength length => exact d.agrees_setHeaderLength length
  | fragment flags offset =>
    rw [edit, setFragment_eq, Fields.amend]
    split
    · exact .done (d.fields_putFragment flags ‹_›) (.put ..)
    · exact .refused _
  | protocol protocol =>
    rw [edit, setProtocol_eq, Fields.amend]
    cases protocol.number? with
    | none => exact .refused _
    | some n =>
      refine .done ?_ (.put ..)
      simp (disch := decide) [header, Header.fields_mk]
  | typeOfService | totalLength | id | ttl | checksum =>
    refine .done ?_ (.put ..)
    simp (disch := decide) [setTypeOfService, setTotalLength, setId, setTtl, setChecksum, header,
      Header.fields_mk]
  | source address => exact d.agrees_setAddress rfl hsource address
  | destination address => exact d.agrees_setAddress rfl hdestination address
  | sourceText text => exact d.agrees_setAddressText rfl hsource _ text
  | destinationText text => exact d.agrees_setAddressText rfl hdestination _ text

/-- IPv4 drafts refine the records of their fields. -/
def refinement : Refinement 20 Draft Edit Fields where
  window := toWindow
  edit := edit
  record d := d.header.fields
  amend := Fields.amend
  extent _ := 20
  agree := agrees_edit

end Draft

end Ipv4

end PacketHeaders

import PacketHeaders.Proofs.IcmpNumbers
import PacketHeaders.Proofs.Ledger.Run
import PacketHeaders.Proofs.Records.Ethernet
import PacketHeaders.Proofs.Records.Icmp
import PacketHeaders.Proofs.Records.Ipv4
import PacketHeaders.Proofs.Records.Udp

/-!
# The ledgers of all drafts

For each kind of draft the columns that its header shows, and what each edit enters in them. What an
octet means is a column of its own beside the number that stands for it, so an assigned value is
entered twice, as it was given and as its number. Most edits enter one value. The defaults of an
IPv4 header leave the total length, the protocol, the checksum and the addresses alone; version and
header length stay apart although they share an octet; flags and fragment offset are entered
together, and so are the type of an ICMP message and the code that goes with it.
-/

namespace PacketHeaders

namespace Ethernet

inductive Column
  | destination
  | source
  | etherType
  | protocol
deriving DecidableEq, Repr

def Column.Value : Column → Type
  | destination | source => MacAddress
  | etherType => UInt16
  | protocol => EtherType

def Draft.entry (d : Draft) : (x : Column) → x.Value
  | .destination => d.header.destination
  | .source => d.header.source
  | .etherType => d.header.etherType
  | .protocol => d.header.protocol

/-- What an accepted edit enters in a column. -/
def Edit.given? : Edit → (x : Column) → Option x.Value
  | .destination address, .destination => some address
  | .destinationText text, .destination => MacAddress.ofText? text
  | .source address, .source => some address
  | .sourceText text, .source => MacAddress.ofText? text
  | .protocol value, .protocol => some value
  | .protocol .ipv4, .etherType => some (0x0800 : UInt16)
  | .protocol .arp, .etherType => some (0x0806 : UInt16)
  | .protocol .rarp, .etherType => some (0x8035 : UInt16)
  | _, _ => none

def Fields.entry (f : Fields) : (x : Column) → x.Value
  | .destination => f.destination
  | .source => f.source
  | .etherType => f.etherType
  | .protocol => f.protocol

theorem Draft.entry_eq (d : Draft) (x : Column) : d.entry x = d.header.fields.entry x := by
  cases x <;> rfl

theorem Fields.entry_amend {f f' : Fields} {e : Edit} (h : f.amend e = .ok f') (x : Column) :
    f'.entry x = (e.given? x).getD (f.entry x) := by
  cases e with
  | destination | source =>
    cases h
    cases x <;> rfl
  | destinationText text =>
    obtain ⟨address, htext, rfl⟩ := amendText_eq_ok_iff.mp h
    cases x with
    | destination => exact (congrArg (Option.getD · f.destination) htext).symm
    | source | etherType | protocol => rfl
  | sourceText text =>
    obtain ⟨address, htext, rfl⟩ := amendText_eq_ok_iff.mp h
    cases x with
    | source => exact (congrArg (Option.getD · f.source) htext).symm
    | destination | etherType | protocol => rfl
  | protocol protocol =>
    cases protocol with
    | undefined => cases h
    | ipv4 | arp | rarp =>
      cases h
      cases x <;> rfl

theorem Draft.entry_edit {d d' : Draft} {e : Edit} (h : d.edit e = .ok () d') (x : Column) :
    d'.entry x = (e.given? x).getD (d.entry x) := by
  rw [entry_eq, entry_eq]
  exact Fields.entry_amend (Refinement.edit_ok (r := refinement) h).1 x

def ledger : Ledger 14 Draft Edit Fields where
  toRefinement := Draft.refinement
  Column := Column
  Value := Column.Value
  entry := Draft.entry
  given? _ := Edit.given?
  body _ := []
  entry_edit := Draft.entry_edit
  extent_eq _ := rfl
  slice_body _ := rfl

end Ethernet

namespace Ipv4

inductive Column
  | version
  | lengthInWords
  | headerLength
  | typeOfService
  | totalLength
  | id
  | flags
  | fragmentOffset
  | ttl
  | protocolNumber
  | protocol
  | checksum
  | source
  | destination
deriving DecidableEq, Repr

def Column.Value : Column → Type
  | version | lengthInWords | typeOfService | ttl | protocolNumber => UInt8
  | totalLength | id | fragmentOffset | checksum => UInt16
  | headerLength => Nat
  | flags => Ipv4Flags
  | protocol => IpProtocol
  | source | destination => Ipv4Address

def Draft.entry (d : Draft) : (x : Column) → x.Value
  | .version => d.header.version
  | .lengthInWords => d.header.lengthInWords
  | .headerLength => d.header.headerLength
  | .typeOfService => d.header.typeOfService
  | .totalLength => d.header.totalLength
  | .id => d.header.id
  | .flags => d.header.flags
  | .fragmentOffset => d.header.fragmentOffset
  | .ttl => d.header.ttl
  | .protocolNumber => d.header.protocolNumber
  | .protocol => d.header.protocol
  | .checksum => d.header.checksum
  | .source => d.header.source
  | .destination => d.header.destination

/-- What the defaults enter in a column. Of the flags only "don't fragment" is set. -/
def Column.default? : (x : Column) → Option x.Value
  | version => some (4 : UInt8)
  | lengthInWords => some (5 : UInt8)
  | headerLength => some (20 : Nat)
  | typeOfService => some (0 : UInt8)
  | id => some (0 : UInt16)
  | flags => some ({ reserved := false, dontFragment := true, moreFragments := false } : Ipv4Flags)
  | fragmentOffset => some (0 : UInt16)
  | ttl => some (64 : UInt8)
  | totalLength | protocolNumber | protocol | checksum | source | destination => none

/-- What an accepted edit enters in a column. -/
def Edit.given? : Edit → (x : Column) → Option x.Value
  | .defaults, x => x.default?
  | .version value, .version => some value
  | .headerLength length, .lengthInWords => some (UInt8.ofNat (length / 4))
  | .headerLength length, .headerLength => some length
  | .typeOfService value, .typeOfService => some value
  | .totalLength value, .totalLength => some value
  | .id value, .id => some value
  | .fragment flags _, .flags => some flags
  | .fragment _ offset, .fragmentOffset => some offset
  | .ttl value, .ttl => some value
  | .protocol value, .protocol => some value
  | .protocol .icmp, .protocolNumber => some (1 : UInt8)
  | .protocol .tcp, .protocolNumber => some (6 : UInt8)
  | .protocol .udp, .protocolNumber => some (17 : UInt8)
  | .checksum value, .checksum => some value
  | .source address, .source => some address
  | .sourceText text, .source => Ipv4Address.ofText? text
  | .destination address, .destination => some address
  | .destinationText text, .destination => Ipv4Address.ofText? text
  | _, _ => none

def Fields.entry (f : Fields) : (x : Column) → x.Value
  | .version => f.version
  | .lengthInWords => f.lengthInWords
  | .headerLength => f.headerLength
  | .typeOfService => f.typeOfService
  | .totalLength => f.totalLength
  | .id => f.id
  | .flags => f.flags
  | .fragmentOffset => f.fragmentOffset
  | .ttl => f.ttl
  | .protocolNumber => f.protocolNumber
  | .protocol => f.protocol
  | .checksum => f.checksum
  | .source => f.source
  | .destination => f.destination

theorem Draft.entry_eq (d : Draft) (x : Column) : d.entry x = d.header.fields.entry x := by
  cases x <;> rfl

theorem Fields.entry_amend {start size : Nat} {f f' : Fields} {e : Edit}
    (h : f.amend start size e = .ok f') (x : Column) :
    f'.entry x = (e.given? x).getD (f.entry x) := by
  cases e with
  | defaults | typeOfService | totalLength | id | ttl | checksum | source | destination =>
    cases h
    cases x <;> rfl
  | version | fragment =>
    simp only [amend] at h
    split at h
    · cases h
      cases x <;> rfl
    · cases h
  | headerLength length =>
    simp only [amend] at h
    split at h
    · next hvalid =>
      split at h
      · cases h
        have hlength : 4 * (UInt8.ofNat (length / 4)).toNat = length := by
          rw [UInt8.toNat_ofNat']
          omega
        cases x with
        | headerLength => exact hlength
        | _ => rfl
      · cases h
    · cases h
  | protocol protocol =>
    cases protocol with
    | undefined => cases h
    | tcp | udp | icmp =>
      cases h
      cases x <;> rfl
  | sourceText text =>
    obtain ⟨address, htext, rfl⟩ := amendText_eq_ok_iff.mp h
    cases x with
    | source => exact (congrArg (Option.getD · f.source) htext).symm
    | _ => rfl
  | destinationText text =>
    obtain ⟨address, htext, rfl⟩ := amendText_eq_ok_iff.mp h
    cases x with
    | destination => exact (congrArg (Option.getD · f.destination) htext).symm
    | _ => rfl

theorem Draft.entry_edit {d d' : Draft} {e : Edit} (h : d.edit e = .ok () d') (x : Column) :
    d'.entry x = (e.given? x).getD (d.entry x) := by
  rw [entry_eq, entry_eq]
  exact Fields.entry_amend (Refinement.edit_ok (r := refinement) h).1 x

def ledger : Ledger 20 Draft Edit Fields where
  toRefinement := Draft.refinement
  Column := Column
  Value := Column.Value
  entry := Draft.entry
  given? _ := Edit.given?
  body _ := []
  entry_edit := Draft.entry_edit
  extent_eq _ := rfl
  slice_body _ := rfl

end Ipv4

/-- A payload that was given is found behind the header. -/
theorem Message.slice_given {m m' : Message} {given? : Option (List UInt8)}
    (hstart : m'.start = m.start) (h : m'.payload = given?.getD m.payload) :
    Octets.slice m'.bytes (m.start + 8) (given?.getD []).length = given?.getD [] := by
  cases given? with
  | none => rfl
  | some payload =>
    have hpayload : m'.payload = payload := h
    have hlength := m'.length_payload
    rw [hpayload] at hlength
    rw [Option.getD_some, hlength, ← hstart]
    exact hpayload

namespace Icmp

/-- The last column is the payload that was written last. -/
inductive Column
  | typeNumber
  | type
  | codeNumber
  | code
  | checksum
  | id
  | sequenceNumber
  | payload
deriving DecidableEq, Repr

def Column.Value : Column → Type
  | typeNumber | codeNumber => UInt8
  | type => IcmpType
  | code => IcmpCode
  | checksum | id | sequenceNumber => UInt16
  | payload => List UInt8

def Draft.entry (d : Draft) : (x : Column) → x.Value
  | .typeNumber => d.header.typeNumber
  | .type => d.header.type
  | .codeNumber => d.header.codeNumber
  | .code => d.header.code
  | .checksum => d.header.checksum
  | .id => d.header.id
  | .sequenceNumber => d.header.sequenceNumber
  | .payload => d.toMessage.payload

/-- The number that is entered for a type. -/
def typeEntry? : IcmpType → Option UInt8
  | .echoReply => some 0
  | .unreached => some 3
  | .redirect => some 5
  | .echoRequest => some 8
  | .timeExceeded => some 11
  | .parameterProblem => some 12
  | .timeStamp => some 13
  | .timeStampReply => some 14
  | .infoRequest => some 15
  | .infoReply => some 16
  | .addressMaskRequest => some 17
  | .addressMaskReply => some 18
  | .undefined => none

/-- The number that is entered for a code. -/
def codeEntry? : IcmpCode → Option UInt8
  | .noCode | .netUnreachable | .redirectNet | .ttlCountExceeded => some 0
  | .hostUnreachable | .redirectHost | .fragmentReassemblyTimeExceeded => some 1
  | .protocolUnreachable | .redirectNetForTypeOfService => some 2
  | .portUnreachable | .redirectHostForTypeOfService => some 3
  | .fragmentationNeeded => some 4
  | .sourceRouteFailed => some 5
  | .netUnknown => some 6
  | .hostUnknown => some 7
  | .hostIsolated => some 8
  | .netProhibited => some 9
  | .hostProhibited => some 10
  | .netUnreachableForTypeOfService => some 11
  | .hostUnreachableForTypeOfService => some 12
  | .packetFiltered => some 13
  | .precedenceViolation => some 14
  | .precedenceCutOff => some 15
  | .undefined => none

/-- The code that a type starts with. -/
def firstCode : IcmpType → IcmpCode
  | .unreached => .netUnreachable
  | .redirect => .redirectNet
  | .timeExceeded => .ttlCountExceeded
  | _ => .noCode

/-- A type that has codes takes over a code that is known. -/
def Retains (type : IcmpType) (code : IcmpCode) : Prop :=
  type ∈ [.unreached, .redirect, .timeExceeded] ∧ code ≠ .noCode ∧ code ≠ .undefined

instance (type : IcmpType) (code : IcmpCode) : Decidable (Retains type code) := by
  unfold Retains
  infer_instance

/-- What an accepted edit enters in a column, where `present` is the code that the draft holds. -/
def Edit.given? (present : IcmpCode) : Edit → (x : Column) → Option x.Value
  | .type value, .type => some value
  | .type value, .typeNumber => typeEntry? value
  | .type value, .code => if Retains value present then none else some (firstCode value)
  | .type value, .codeNumber => if Retains value present then none else some (0 : UInt8)
  | .code value, .code => some value
  | .code value, .codeNumber => codeEntry? value
  | .checksum value, .checksum => some value
  | .id value, .id => some value
  | .sequenceNumber value, .sequenceNumber => some value
  | .payload bytes, .payload => some bytes
  | _, _ => none

/-- The payload that an edit gives. -/
def Edit.payload? : Edit → Option (List UInt8)
  | .payload bytes => some bytes
  | _ => none

def entry (c : Content Fields) : (x : Column) → x.Value
  | .typeNumber => c.fields.typeNumber
  | .type => c.fields.type
  | .codeNumber => c.fields.codeNumber
  | .code => c.fields.code
  | .checksum => c.fields.checksum
  | .id => c.fields.id
  | .sequenceNumber => c.fields.sequenceNumber
  | .payload => c.payload

theorem Draft.entry_eq (d : Draft) (x : Column) : d.entry x = Icmp.entry d.content x := by
  cases x <;> rfl

theorem typeEntry?_of_number? {type : IcmpType} {n : UInt8} (h : type.number? = some n) :
    typeEntry? type = some n := by
  cases type <;> exact h

theorem codeEntry?_of_number? {type : IcmpType} {code : IcmpCode} {n : UInt8}
    (h : code.number? type = some n) : codeEntry? code = some n := by
  cases type with
  | undefined => cases h
  | _ => cases code <;> first | exact h | cases h

theorem codes?_eq_none_iff (type : IcmpType) :
    type.codes? = none ↔ type ∉ [.unreached, .redirect, .timeExceeded] := by
  cases type <;> decide

theorem ofNumber_zero {type : IcmpType} (h : type ≠ .undefined) :
    IcmpCode.ofNumber type 0 = firstCode type := by
  cases type with
  | undefined => exact absurd rfl h
  | _ => rfl

/-- The code that a record carries over is the one that it holds or the first one. -/
theorem Fields.carriedCode?_eq {f : Fields} {type : IcmpType} {n : UInt8}
    (h : f.carriedCode? type = some n) :
    if Retains type f.code then f.type = type ∧ n = f.codeNumber else n = 0 := by
  unfold carriedCode? at h
  split at h
  · next hfirst =>
    have hnot : ¬Retains type f.code := by
      rintro ⟨htype, hcode, hknown⟩
      rcases hfirst with hcodes | hnone | hundefined
      · exact (codes?_eq_none_iff type).mp hcodes htype
      · exact hcode hnone
      · exact hknown hundefined
    rw [if_neg hnot]
    exact (Option.some.inj h).symm
  · next hkept =>
    simp only [not_or] at hkept
    obtain ⟨hcodes, hcode, hknown⟩ := hkept
    have hretains : Retains type f.code :=
      ⟨Decidable.not_not.mp (mt (codes?_eq_none_iff type).mpr hcodes), hcode, hknown⟩
    have htype : f.type = type := by
      refine (IcmpCode.number?_ofNumber_ne_none_iff hcode hknown hcodes).mp ?_
      exact Option.ne_none_iff_exists'.mpr ⟨n, h⟩
    have hown : f.code.number? f.type = some f.codeNumber :=
      IcmpCode.number?_ofNumber hknown fun hnone => absurd (htype ▸ hnone) hcodes
    rw [if_pos hretains]
    rw [htype, h] at hown
    exact ⟨htype, Option.some.inj hown⟩

theorem entry_amend_type {start size : Nat} {c c' : Content Fields} {type : IcmpType}
    (h : amend start size c (.type type) = .ok c') (x : Column) :
    entry c' x = ((Edit.type type).given? c.fields.code x).getD (entry c x) := by
  simp only [amend] at h
  split at h
  · cases h
  · next n hnumber =>
    obtain ⟨hdefined, hmeaning⟩ := IcmpType.number?_eq_some_iff.mp hnumber
    split at h
    · next codeNumber hcarried =>
      cases h
      have hcode := Fields.carriedCode?_eq hcarried
      cases x with
      | typeNumber =>
        exact (congrArg (Option.getD · c.fields.typeNumber) (typeEntry?_of_number? hnumber)).symm
      | type => exact hmeaning
      | codeNumber =>
        change codeNumber = (if Retains type c.fields.code then none else some 0).getD _
        split at hcode
        · next hretains =>
          rw [if_pos hretains]
          exact hcode.2
        · next hretains =>
          rw [if_neg hretains]
          exact hcode
      | code =>
        change IcmpCode.ofNumber (.ofNumber n) codeNumber =
          (if Retains type c.fields.code then none else some (firstCode type)).getD c.fields.code
        rw [hmeaning]
        split at hcode
        · next hretains =>
          -- A code is retained under its own type only, so its octet still means the same.
          rw [if_pos hretains, hcode.2, ← hcode.1]
          rfl
        · next hretains =>
          rw [if_neg hretains, hcode]
          exact ofNumber_zero hdefined
      | checksum | id | sequenceNumber | payload => rfl
    · cases h

theorem entry_amend {start size : Nat} {c c' : Content Fields} {e : Edit}
    (h : amend start size c e = .ok c') (x : Column) :
    entry c' x = (e.given? c.fields.code x).getD (entry c x) := by
  cases e with
  | type type => exact entry_amend_type h x
  | checksum | id | sequenceNumber =>
    cases h
    cases x <;> rfl
  | payload bytes =>
    simp only [amend] at h
    split at h
    · cases h
      cases x <;> rfl
    · cases h
  | code code =>
    simp only [amend] at h
    split at h
    · next number hnumber =>
      cases h
      cases x with
      | codeNumber =>
        exact (congrArg (Option.getD · c.fields.codeNumber) (codeEntry?_of_number? hnumber)).symm
      | code => exact IcmpCode.ofNumber_of_number? hnumber
      | _ => rfl
    · cases h

namespace Draft

variable {d d' : Draft} {e : Edit}

theorem entry_edit (h : d.edit e = .ok () d') (x : Column) :
    d'.entry x = (e.given? d.header.code x).getD (d.entry x) := by
  rw [entry_eq, entry_eq]
  exact entry_amend (Refinement.edit_ok (r := refinement) h).1 x

theorem payload_edit (h : d.edit e = .ok () d') : d'.payload = e.payload?.getD d.payload := by
  have hentry := entry_edit h .payload
  cases e with
  | type | code | checksum | id | sequenceNumber | payload => exact hentry

end Draft

def ledger : Ledger 8 Draft Edit (Content Fields) where
  toRefinement := Draft.refinement
  Column := Column
  Value := Column.Value
  entry := Draft.entry
  given? d := Edit.given? d.header.code
  body e := e.payload?.getD []
  entry_edit := Draft.entry_edit
  extent_eq e := by cases e <;> rfl
  slice_body h := Message.slice_given
    (Refinement.edit_ok (r := Draft.refinement) h).2.start_eq (Draft.payload_edit h)

end Icmp

namespace Udp

/-- The last column is the payload that was written last. -/
inductive Column
  | sourcePort
  | destinationPort
  | length
  | checksum
  | payload
deriving DecidableEq, Repr

def Column.Value : Column → Type
  | payload => List UInt8
  | _ => UInt16

def Draft.entry (d : Draft) : (x : Column) → x.Value
  | .sourcePort => d.header.sourcePort
  | .destinationPort => d.header.destinationPort
  | .length => d.header.length
  | .checksum => d.header.checksum
  | .payload => d.toMessage.payload

/-- What an accepted edit enters in a column. -/
def Edit.given? : Edit → (x : Column) → Option x.Value
  | .sourcePort value, .sourcePort => some value
  | .destinationPort value, .destinationPort => some value
  | .length value, .length => some value
  | .checksum value, .checksum => some value
  | .payload bytes, .payload => some bytes
  | _, _ => none

/-- The payload that an edit gives. -/
def Edit.payload? : Edit → Option (List UInt8)
  | .payload bytes => some bytes
  | _ => none

def entry (c : Content Fields) : (x : Column) → x.Value
  | .sourcePort => c.fields.sourcePort
  | .destinationPort => c.fields.destinationPort
  | .length => c.fields.length
  | .checksum => c.fields.checksum
  | .payload => c.payload

theorem Draft.entry_eq (d : Draft) (x : Column) : d.entry x = Udp.entry d.content x := by
  cases x <;> rfl

theorem entry_amend {start size : Nat} {c c' : Content Fields} {e : Edit}
    (h : amend start size c e = .ok c') (x : Column) :
    entry c' x = (e.given? x).getD (entry c x) := by
  cases e with
  | sourcePort | destinationPort | length | checksum =>
    cases h
    cases x <;> rfl
  | payload bytes =>
    simp only [amend] at h
    split at h
    · cases h
      cases x <;> rfl
    · cases h

namespace Draft

variable {d d' : Draft} {e : Edit}

theorem entry_edit (h : d.edit e = .ok () d') (x : Column) :
    d'.entry x = (e.given? x).getD (d.entry x) := by
  rw [entry_eq, entry_eq]
  exact entry_amend (Refinement.edit_ok (r := refinement) h).1 x

theorem payload_edit (h : d.edit e = .ok () d') : d'.payload = e.payload?.getD d.payload := by
  have hentry := entry_edit h .payload
  cases e with
  | sourcePort | destinationPort | length | checksum | payload => exact hentry

end Draft

def ledger : Ledger 8 Draft Edit (Content Fields) where
  toRefinement := Draft.refinement
  Column := Column
  Value := Column.Value
  entry := Draft.entry
  given? _ := Edit.given?
  body e := e.payload?.getD []
  entry_edit := Draft.entry_edit
  extent_eq e := by cases e <;> rfl
  slice_body h := Message.slice_given
    (Refinement.edit_ok (r := Draft.refinement) h).2.start_eq (Draft.payload_edit h)

end Udp

/-- Every draft keeps what was entered in it last, whatever edits were made and refused. -/
theorem drafts_keep_last_entries :
    (∀ (d : Ethernet.Draft) (es : List Ethernet.Edit), Ethernet.ledger.Keeps d es) ∧
    (∀ (d : Ipv4.Draft) (es : List Ipv4.Edit), Ipv4.ledger.Keeps d es) ∧
    (∀ (d : Icmp.Draft) (es : List Icmp.Edit), Icmp.ledger.Keeps d es) ∧
    ∀ (d : Udp.Draft) (es : List Udp.Edit), Udp.ledger.Keeps d es :=
  ⟨Ethernet.ledger.keeps, Ipv4.ledger.keeps, Icmp.ledger.keeps, Udp.ledger.keeps⟩

end PacketHeaders

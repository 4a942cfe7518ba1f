import PacketHeaders.Proofs.Building.Frame
import PacketHeaders.Proofs.Records.Udp

/-!
# UDP datagrams that were built

A UDP datagram that is written in any frame with room for it is found there again, whatever the
frame held before and whatever it holds behind the datagram.
-/

namespace PacketHeaders

/-- What a sender chooses for the headers in front of a datagram. -/
structure Envelope extends Carrier where
  sourceMac : MacAddress
  destinationMac : MacAddress
  typeOfService : UInt8
  id : UInt16
  flags : Ipv4Flags
  fragmentOffset : UInt16
  ttl : UInt8
  offset_le : fragmentOffset ≤ 8191

namespace Envelope

variable (env : Envelope)

def ethernetFields : Ethernet.Fields where
  destination := env.destinationMac
  source := env.sourceMac
  etherType := 0x0800

/-- The IPv4 header in front of `length` octets. -/
def ipv4Fields (protocolNumber : UInt8) (length : Nat) (checksum : UInt16) : Ipv4.Fields where
  version := 4
  lengthInWords := .ofNat (env.headerLength / 4)
  typeOfService := env.typeOfService
  totalLength := .ofNat (env.headerLength + length)
  id := env.id
  flags := env.flags
  fragmentOffset := env.fragmentOffset
  ttl := env.ttl
  protocolNumber := protocolNumber
  checksum := checksum
  source := env.ends.source
  destination := env.ends.destination

def ethernetEdits : List Ethernet.Edit :=
  [.destination env.destinationMac, .source env.sourceMac, .protocol .ipv4]

def ipv4Edits (protocol : IpProtocol) (length : Nat) : List Ipv4.Edit :=
  [.defaults, .headerLength env.headerLength, .typeOfService env.typeOfService, .id env.id,
    .fragment env.flags env.fragmentOffset, .ttl env.ttl,
    .totalLength (.ofNat (env.headerLength + length)), .protocol protocol, .source env.ends.source,
    .destination env.ends.destination]

theorem amend_ethernet (f : Ethernet.Fields) :
    env.ethernetEdits.foldlM Ethernet.Fields.amend f = .ok env.ethernetFields := rfl

theorem amend_ipv4 {protocol : IpProtocol} {number : UInt8}
    (hnumber : protocol.number? = some number) {size : Nat}
    (hroom : 14 + env.headerLength ≤ size) (length : Nat) (f : Ipv4.Fields) :
    (env.ipv4Edits protocol length).foldlM (Ipv4.Fields.amend 14 size) f =
      .ok (env.ipv4Fields number length f.checksum) := by
  simp only [ipv4Edits, List.foldlM_cons, List.foldlM_nil, Ipv4.Fields.amend, hnumber,
    if_pos env.length_valid, if_pos hroom, if_pos env.offset_le, Except.bind, bind]
  rfl

theorem headerLength_ipv4Fields (protocolNumber : UInt8) (length : Nat) (checksum : UInt16) :
    (env.ipv4Fields protocolNumber length checksum).headerLength = env.headerLength :=
  env.four_mul_words

theorem totalLength_ipv4Fields {length : Nat} (h : env.headerLength + length ≤ 65535)
    (protocolNumber : UInt8) (checksum : UInt16) :
    (env.ipv4Fields protocolNumber length checksum).totalLength.toNat =
      env.headerLength + length := by
  rw [ipv4Fields, UInt16.toNat_ofNat']
  omega

end Envelope

namespace Udp

/-- Which of its two checksums a datagram gets. -/
inductive Check
  | plain
  | transport
deriving DecidableEq, Repr

namespace Check

def call (ends : Endpoints) : Check → Call
  | plain => .storeChecksum
  | transport => .storeTransportChecksum ends

def checksum (d : Draft) (ends : Endpoints) : Check → UInt16
  | plain => d.defaultChecksum
  | transport => d.transportChecksum ends

/-- The draft with the checksum stored. -/
def store (ends : Endpoints) (check : Check) (d : Draft) : Draft :=
  d.setChecksum (check.checksum d ends)

/-- The header says that its checksum is right. -/
def Passes (h : Header) (ends : Endpoints) : Check → Prop
  | plain => h.verifyChecksum = true
  | transport => h.checksum ≠ 0 ∧ h.verifyTransportChecksum ends = true

theorem passes {d : Draft} (hlen : d.payloadLength ≤ 65535) (ends : Endpoints) (check : Check)
    {h : Header} (hchecksum : h.checksum = check.checksum d ends)
    (hdatagram : h.datagram = (check.store ends d).octets) :
    check.Passes h ends := by
  cases check with
  | plain =>
    have hzero := Draft.internet_store hlen
    rw [store, checksum] at hdatagram
    simp only [Passes, Header.verifyChecksum, hdatagram, hzero, beq_self_eq_true, Bool.or_true]
  | transport =>
    have hzero := Draft.transport_store hlen ends
    rw [store, checksum] at hdatagram
    rw [checksum] at hchecksum
    have hne : d.transportChecksum ends ≠ 0 := transportChecksum_ne_zero _ _
    refine ⟨hchecksum ▸ hne, ?_⟩
    simp only [Header.verifyTransportChecksum, hdatagram, hzero, beq_self_eq_true, Bool.or_true]

end Check

/-- What a sender puts in a datagram. -/
structure Letter where
  sourcePort : UInt16
  destinationPort : UInt16
  payload : List UInt8

namespace Letter

variable (l : Letter)

def length : Nat := 8 + l.payload.length

def fields (checksum : UInt16) : Fields where
  sourcePort := l.sourcePort
  destinationPort := l.destinationPort
  length := .ofNat l.length
  checksum := checksum

def edits : List Edit :=
  [.sourcePort l.sourcePort, .destinationPort l.destinationPort, .payload l.payload,
    .length (.ofNat l.length)]

theorem extent_edits : ∀ e ∈ l.edits, Draft.refinement.extent e ≤ l.length := by
  simp [edits, Draft.refinement, Edit.extent, length]

theorem amends_edits {d : Draft} (hroom : d.start + l.length ≤ d.bytes.length) :
    Draft.refinement.amends d l.edits = .ok ⟨l.fields d.header.checksum, l.payload⟩ := by
  have hfits : d.start + 8 + l.payload.length ≤ d.bytes.length := by
    rwa [Nat.add_assoc]
  simp only [Refinement.amends, edits, List.foldlM_cons, List.foldlM_nil, Draft.refinement, amend,
    if_pos hfits, Except.bind, bind]
  rfl

def steps (ends : Endpoints) (check : Check) : List Step :=
  [.enter .udp] ++ (l.edits.map fun e => .udp (.edit e)) ++ [.udp (check.call ends)]

/-- Written behind the outer headers, a letter fills just the room that it needs. -/
theorem goes_steps {frame : List UInt8} {e : Ethernet.Draft} {d : Ipv4.Draft} (h : Outer frame e d)
    (hlen : 20 ≤ d.header.headerLength)
    (hroom : 14 + d.header.headerLength + l.length ≤ frame.length) (ends : Endpoints)
    (check : Check) :
    ∃ u v : Draft, v = check.store ends u ∧
      Session.Goes ⟨frame, [.ipv4 d, .ethernet e], 0⟩ (l.steps ends check)
        ⟨frame, [.udp v, .ipv4 d, .ethernet e], 0⟩ ∧
      v.content = ⟨l.fields (check.checksum u ends), l.payload⟩ ∧
      v.start = 14 + d.header.headerLength ∧
      Octets.ChangedWithin v.start (v.start + l.length) d.bytes v.bytes := by
  have h8 : 8 ≤ l.length := Nat.le_add_right ..
  obtain ⟨w, u, hw, hu, hcontent, hstart, hchanged⟩ := h.exists_written hlen h8 hroom
    Draft.refinement Draft.ofWindow (fun _ => rfl) l.extent_edits (fun w hw => l.amends_edits hw)
    (check.store ends) (fun _ => .put ..)
  have hnext : (PacketHeaders.Draft.ipv4 d).next .udp = .ok (.udp (.ofWindow w)) :=
    Refusal.lift_eq_ok_iff.mpr ⟨_, congrArg (Except.map _) hw, rfl⟩
  have hcall : (PacketHeaders.Draft.udp u).call ⟨none, none, none, some (check.call ends)⟩ =
      .ok (.number (check.checksum u ends).toNat) (.udp (check.store ends u)) := by
    cases check <;> rfl
  have hwritten : u.content = ⟨l.fields (Draft.ofWindow w).header.checksum, l.payload⟩ := hcontent
  have hstored : (check.store ends u).content =
      { u.content with fields.checksum := check.checksum u ends } :=
    (Except.ok.inj (u.agrees_edit (.checksum (check.checksum u ends))).of_ok.1).symm
  refine ⟨u, check.store ends u, rfl, ?_, ?_, hstart, hchanged⟩
  · exact ((Session.goes_enter hnext).append (Session.goes_udp hu)).append (Session.goes_call hcall)
  · rw [hstored, hwritten]
    rfl

/-- A header before the octets of a letter reads the letter. -/
theorem read_back {v : Draft} {checksum : UInt16} (h : v.content = ⟨l.fields checksum, l.payload⟩)
    (hlength : l.length ≤ 65535) {u : Header} (htail : u.tail = v.toMessage.octets) :
    u.fields = l.fields checksum ∧ u.datagram = v.toMessage.octets ∧ u.payload = l.payload := by
  have h8 : 8 ≤ l.length := Nat.le_add_right ..
  have hfields : u.fields = l.fields checksum :=
    (Header.fields_congr (Message.head_of_tail htail)).trans (congrArg Content.fields h)
  have hstated : u.length.toNat = l.length := by
    have hlen : u.length = .ofNat l.length := congrArg Fields.length hfields
    rw [hlen, UInt16.toNat_ofNat']
    omega
  have hall : u.tail.length = l.length := by
    rw [htail, v.toMessage.length_octets]
    exact Message.length_of_payload (congrArg Content.payload h)
  have hdatagram : u.datagram = u.tail := by
    rw [Header.datagram, hstated, Header.headerLength, Nat.max_eq_left h8, List.take_of_length_le]
    exact Nat.le_of_eq hall
  refine ⟨hfields, hdatagram.trans htail, ?_⟩
  rw [Header.payload, hdatagram]
  exact (Message.drop_tail htail).trans (congrArg Content.payload h)

end Letter

end Udp

namespace Envelope

variable (env : Envelope)

/-- Writes a letter behind its outer headers in a frame. -/
def udpScript (l : Udp.Letter) (check : Udp.Check) : List Step :=
  Session.opening env.ethernetEdits (env.ipv4Edits .udp l.length) ++
    (l.steps env.ends check ++ Session.closing)

/-- A datagram that was built in a frame is read back from it. -/
theorem udp_datagram_read_back (l : Udp.Letter) (check : Udp.Check) (frame : List UInt8)
    (htotal : env.headerLength + l.length ≤ 65535)
    (hroom : 14 + env.headerLength + l.length ≤ frame.length) :
    (Session.start frame).Completes (env.udpScript l check) ∧
      ∃ e ip u, dissect ((Session.start frame).run (env.udpScript l check)).1.frame =
          .ok ⟨e, .ipv4 ip, .udp u⟩ ∧
        e.fields = env.ethernetFields ∧
        ip.fields = env.ipv4Fields 17 l.length ip.checksum ∧
        ip.headerLength = env.headerLength ∧ ip.verifyChecksum = true ∧
        u.start = 14 + env.headerLength ∧ u.fields = l.fields u.checksum ∧
        u.payload = l.payload ∧ check.Passes u env.ends := by
  rw [udpScript]
  have hshortest := env.shortest
  have hnumber : IpProtocol.udp.number? = some 17 := rfl
  have h34 : 34 ≤ frame.length := by omega
  obtain ⟨e, d, hopening, houter, ⟨_, he⟩, ⟨f, hd⟩⟩ := Session.goes_opening h34
    env.amend_ethernet (env.amend_ipv4 hnumber (by omega) l.length)
  have hlen : d.header.headerLength = env.headerLength :=
    (congrArg Ipv4.Fields.headerLength hd).trans (env.headerLength_ipv4Fields ..)
  obtain ⟨u, v, hv, hsteps, hcontent, hstart, hchanged⟩ := l.goes_steps houter (by omega)
    (by omega) env.ends check
  have hlength : v.toMessage.length = l.length :=
    Message.length_of_payload (congrArg Content.payload hcontent)
  have htotal' : d.header.totalLength.toNat = d.header.headerLength + v.toMessage.length := by
    rw [hlen, hlength]
    exact (congrArg (fun f => f.totalLength.toNat) hd).trans (env.totalLength_ipv4Fields htotal ..)
  obtain ⟨hcompletes, found, hethernet, hipv4, hverify, hwindow, htail⟩ :=
    Session.completes_of_message houter hopening hsteps rfl
      (congrArg Ethernet.Fields.etherType he) (by omega) hstart htotal' hchanged
  have hip : found.ipv4.fields = env.ipv4Fields 17 l.length found.ipv4.checksum := by
    rw [hipv4, hd]
    rfl
  obtain ⟨hfields, hdatagram, hpayload⟩ := l.read_back (u := ⟨found.window⟩) hcontent (by omega)
    htail
  have hchecksum : (Udp.Header.mk found.window).checksum = check.checksum u env.ends :=
    congrArg Udp.Fields.checksum hfields
  have hpasses : check.Passes ⟨found.window⟩ env.ends := by
    have hpayloadLength : u.payloadLength ≤ 65535 := by
      rw [hv] at hlength
      change 8 + u.payloadLength = l.length at hlength
      omega
    exact check.passes hpayloadLength env.ends hchecksum (by rw [hdatagram, hv])
  have hdissect := found.dissect_of_udp (congrArg Ipv4.Fields.protocolNumber hip)
  refine ⟨hcompletes, found.ethernet, found.ipv4, ⟨found.window⟩, hdissect, hethernet.trans he, hip,
    ?_, hverify, ?_, ?_, hpayload, hpasses⟩
  · exact (congrArg Ipv4.Fields.headerLength hip).trans (env.headerLength_ipv4Fields ..)
  · exact hwindow.trans (hstart.trans (by rw [hlen]))
  · rw [hchecksum]
    exact hfields

/-- An IPv4 header with options, and a letter of odd length. -/
def sample : Envelope where
  sourceMac := ⟨[2, 0, 0, 0, 0, 1], rfl⟩
  destinationMac := .broadcast
  ends := ⟨⟨[10, 0, 0, 1], rfl⟩, ⟨[10, 0, 0, 2], rfl⟩⟩
  headerLength := 24
  typeOfService := 16
  id := 0xbeef
  flags := ⟨true, false, true⟩
  fragmentOffset := 8191
  ttl := 3
  words := rfl
  shortest := by decide
  longest := by decide
  offset_le := by decide

theorem udp_datagram_read_back_of_options :
    ∃ e ip u,
      dissect ((Session.start (List.replicate 60 0xaa)).run
        (sample.udpScript ⟨7, 9, [1, 2, 3]⟩ .transport)).1.frame = .ok ⟨e, .ipv4 ip, .udp u⟩ ∧
      ip.verifyChecksum = true ∧ u.start = 38 ∧ u.payload = [1, 2, 3] ∧
      u.verifyTransportChecksum sample.ends = true := by
  obtain ⟨-, e, ip, u, hdissect, -, -, -, hverify, hstart, -, hpayload, -, hpasses⟩ :=
    sample.udp_datagram_read_back ⟨7, 9, [1, 2, 3]⟩ .transport (List.replicate 60 0xaa) (by decide)
      (by decide)
  exact ⟨e, ip, u, hdissect, hverify, hstart, hpayload, hpasses⟩

end Envelope

end PacketHeaders

import PacketHeaders.Proofs.Building.Frame
import PacketHeaders.Proofs.IcmpNumbers
import PacketHeaders.Proofs.Records.Icmp

/-!
# ICMP messages that were built

An ICMP message that is written in any frame with room for it is found there again. The type is
written twice, since a new type is refused when the code that the frame happens to hold does not
exist under it: an echo reply has no code, and behind it every type is accepted.
-/

namespace PacketHeaders

namespace Icmp

section

variable {start size : Nat} {c : Content Fields}

theorem amend_echoReply : amend start size c (.type .echoReply) =
    .ok { c with fields.typeNumber := 0, fields.codeNumber := 0 } := rfl

/-- Over the absent code every type is accepted. -/
theorem amend_type (hcode : c.fields.code = .noCode) {type : IcmpType} {n : UInt8}
    (htype : type.number? = some n) : amend start size c (.type type) =
      .ok { c with fields.typeNumber := n, fields.codeNumber := 0 } := by
  have hcarried : c.fields.carriedCode? type = some 0 := if_pos (.inr (.inl hcode))
  simp only [amend, htype, hcarried]

theorem amend_code {code : IcmpCode} {n : UInt8} (hcode : code.number? c.fields.type = some n) :
    amend start size c (.code code) = .ok { c with fields.codeNumber := n } := by
  simp only [amend, hcode]

end

/-- What a sender puts in a message. -/
structure Notice where
  type : IcmpType
  code : IcmpCode
  id : UInt16
  sequenceNumber : UInt16
  payload : List UInt8
  belongs : code.number? type ≠ none

namespace Notice

variable (n : Notice)

def length : Nat := 8 + n.payload.length

def edits : List Edit :=
  [.type .echoReply, .type n.type, .code n.code, .id n.id, .sequenceNumber n.sequenceNumber,
    .payload n.payload]

theorem extent_edits : ∀ e ∈ n.edits, Draft.refinement.extent e ≤ n.length := by
  simp [edits, Draft.refinement, Edit.extent, length]

theorem exists_numbers : ∃ typeNumber codeNumber, n.type.number? = some typeNumber ∧
    n.code.number? n.type = some codeNumber := by
  obtain ⟨typeNumber, htype⟩ :=
    IcmpType.exists_number (IcmpCode.ne_undefined_of_number? n.belongs)
  obtain ⟨codeNumber, hcode⟩ := Option.ne_none_iff_exists'.mp n.belongs
  exact ⟨typeNumber, codeNumber, htype, hcode⟩

/-- Behind an echo reply every type and each of its codes is accepted. -/
theorem amends_edits {typeNumber codeNumber : UInt8} (htype : n.type.number? = some typeNumber)
    (hcode : n.code.number? n.type = some codeNumber) {d : Draft}
    (hroom : d.start + n.length ≤ d.bytes.length) :
    Draft.refinement.amends d n.edits =
      .ok ⟨⟨typeNumber, codeNumber, d.header.checksum, n.id, n.sequenceNumber⟩, n.payload⟩ := by
  have hfits : d.start + 8 + n.payload.length ≤ d.bytes.length := by
    rwa [Nat.add_assoc]
  have hmeaning : IcmpType.ofNumber typeNumber = n.type := (IcmpType.number?_eq_some_iff.mp htype).2
  have hcode' (f : Fields) :
      n.code.number? { f with typeNumber := typeNumber, codeNumber := 0 }.type =
        some codeNumber := by
    rw [Fields.type, hmeaning]
    exact hcode
  change n.edits.foldlM (amend d.start d.bytes.length) d.content = _
  rw [edits, Except.foldlM_cons_of_ok amend_echoReply,
    Except.foldlM_cons_of_ok (amend_type rfl htype),
    Except.foldlM_cons_of_ok (amend_code (hcode' _))]
  simp only [List.foldlM_cons, List.foldlM_nil, amend, if_pos hfits, Except.bind, bind]
  rfl

def steps : List Step :=
  [.enter .icmp] ++ (n.edits.map fun e => .icmp (.edit e)) ++ [.icmp .storeChecksum]

theorem goes_steps {frame : List UInt8} {e : Ethernet.Draft} {d : Ipv4.Draft} (h : Outer frame e d)
    (hlen : 20 ≤ d.header.headerLength)
    (hroom : 14 + d.header.headerLength + n.length ≤ frame.length) :
    ∃ u v : Draft, v = u.withChecksum ∧
      Session.Goes ⟨frame, [.ipv4 d, .ethernet e], 0⟩ n.steps
        ⟨frame, [.icmp v, .ipv4 d, .ethernet e], 0⟩ ∧
      v.header.type = n.type ∧ v.header.code = n.code ∧ v.header.id = n.id ∧
      v.header.sequenceNumber = n.sequenceNumber ∧ v.toMessage.payload = n.payload ∧
      v.start = 14 + d.header.headerLength ∧
      Octets.ChangedWithin v.start (v.start + n.length) d.bytes v.bytes := by
  have h8 : 8 ≤ n.length := Nat.le_add_right ..
  obtain ⟨typeNumber, codeNumber, htype, hcode⟩ := n.exists_numbers
  obtain ⟨w, u, hw, hu, hcontent, hstart, hchanged⟩ := h.exists_written hlen h8 hroom
    Draft.refinement Draft.ofWindow (fun _ => rfl) n.extent_edits
    (fun w hw => n.amends_edits htype hcode hw) Draft.withChecksum (fun _ => .put ..)
  have hnext : (PacketHeaders.Draft.ipv4 d).next .icmp = .ok (.icmp (.ofWindow w)) :=
    Refusal.lift_eq_ok_iff.mpr ⟨_, congrArg (Except.map _) hw, rfl⟩
  have hcall : (PacketHeaders.Draft.icmp u).call ⟨none, none, some .storeChecksum, none⟩ =
      .ok (.number u.defaultChecksum.toNat) (.icmp u.withChecksum) := rfl
  have hstored : u.withChecksum.content = { u.content with fields.checksum := u.defaultChecksum } :=
    (Except.ok.inj (u.agrees_edit (.checksum u.defaultChecksum)).of_ok.1).symm
  have hwritten : u.content = ⟨⟨typeNumber, codeNumber, (Draft.ofWindow w).header.checksum, n.id,
      n.sequenceNumber⟩, n.payload⟩ := hcontent
  rw [hwritten] at hstored
  have hfields := congrArg Content.fields hstored
  have htypeOf : u.withChecksum.header.type = n.type :=
    (congrArg Fields.type hfields).trans (IcmpType.number?_eq_some_iff.mp htype).2
  have hcodeOf : u.withChecksum.header.code = n.code := by
    refine (congrArg Fields.code hfields).trans ?_
    rw [Fields.code, Fields.type, (IcmpType.number?_eq_some_iff.mp htype).2]
    exact IcmpCode.ofNumber_of_number? hcode
  refine ⟨u, u.withChecksum, rfl, ?_, htypeOf, hcodeOf, congrArg Fields.id hfields,
    congrArg Fields.sequenceNumber hfields, congrArg Content.payload hstored, hstart, hchanged⟩
  exact ((Session.goes_enter hnext).append (Session.goes_icmp hu)).append (Session.goes_call hcall)

end Notice

end Icmp

namespace Carrier

variable (c : Carrier)

def ipv4Edits (length : Nat) : List Ipv4.Edit :=
  [.defaults, .headerLength c.headerLength, .totalLength (.ofNat (c.headerLength + length)),
    .protocol .icmp, .source c.ends.source, .destination c.ends.destination]

def ipv4Fields (length : Nat) (f : Ipv4.Fields) : Ipv4.Fields where
  version := 4
  lengthInWords := .ofNat (c.headerLength / 4)
  typeOfService := 0
  totalLength := .ofNat (c.headerLength + length)
  id := 0
  flags := .dontFragmentOnly
  fragmentOffset := 0
  ttl := 64
  protocolNumber := 1
  checksum := f.checksum
  source := c.ends.source
  destination := c.ends.destination

theorem amend_ipv4 {size : Nat} (hroom : 14 + c.headerLength ≤ size) (length : Nat)
    (f : Ipv4.Fields) :
    (c.ipv4Edits length).foldlM (Ipv4.Fields.amend 14 size) f = .ok (c.ipv4Fields length f) := by
  simp only [ipv4Edits, List.foldlM_cons, List.foldlM_nil, Ipv4.Fields.amend,
    if_pos c.length_valid, if_pos hroom, Except.bind, bind]
  rfl

def icmpScript (n : Icmp.Notice) : List Step :=
  Session.opening [.protocol .ipv4] (c.ipv4Edits n.length) ++ (n.steps ++ Session.closing)

/-- A message that was built in a frame is read back from it. -/
theorem icmp_message_read_back (n : Icmp.Notice) (frame : List UInt8)
    (htotal : c.headerLength + n.length ≤ 65535)
    (hroom : 14 + c.headerLength + n.length ≤ frame.length) :
    (Session.start frame).Completes (c.icmpScript n) ∧
      ∃ e ip m, dissect ((Session.start frame).run (c.icmpScript n)).1.frame =
          .ok ⟨e, .ipv4 ip, .icmp m⟩ ∧
        ip.headerLength = c.headerLength ∧ ip.ends = c.ends ∧ ip.verifyChecksum = true ∧
        m.start = 14 + c.headerLength ∧ m.type = n.type ∧ m.code = n.code ∧ m.id = n.id ∧
        m.sequenceNumber = n.sequenceNumber ∧ m.payload = n.payload ∧
        m.verifyChecksum = true := by
  rw [icmpScript]
  have hshortest := c.shortest
  have h34 : 34 ≤ frame.length := by omega
  have hether (f : Ethernet.Fields) :
      [Ethernet.Edit.protocol .ipv4].foldlM Ethernet.Fields.amend f =
        .ok { f with etherType := 0x0800 } := rfl
  obtain ⟨e, d, hopening, houter, ⟨_, he⟩, ⟨f, hd⟩⟩ := Session.goes_opening h34 hether
    (c.amend_ipv4 (by omega) n.length)
  have hlen : d.header.headerLength = c.headerLength :=
    (congrArg Ipv4.Fields.headerLength hd).trans c.four_mul_words
  obtain ⟨u, v, hv, hsteps, htype, hcode, hid, hsequence, hpayload, hstart, hchanged⟩ :=
    n.goes_steps houter (by omega) (by omega)
  have hlength : v.toMessage.length = n.length := Message.length_of_payload hpayload
  have htotal' : d.header.totalLength.toNat = d.header.headerLength + v.toMessage.length := by
    have hstated : d.header.totalLength = .ofNat (c.headerLength + n.length) :=
      congrArg Ipv4.Fields.totalLength hd
    rw [hstated, hlen, hlength, UInt16.toNat_ofNat']
    omega
  obtain ⟨hcompletes, found, -, hipv4, hverify, hwindow, htail⟩ := Session.completes_of_message
    houter hopening hsteps rfl (congrArg Ethernet.Fields.etherType he) (by omega) hstart htotal'
    hchanged
  rw [hd] at hipv4
  have hfields : (Icmp.Header.mk found.window).fields = v.header.fields :=
    Icmp.Header.fields_congr (Message.head_of_tail htail)
  have hzero : (Icmp.Header.mk found.window).verifyChecksum = true := by
    have hpayloadLength : u.payloadLength ≤ 65535 := by
      rw [hv] at hlength
      change 8 + u.payloadLength = n.length at hlength
      omega
    have hsum := Icmp.Draft.internet_withChecksum hpayloadLength
    rw [← hv, ← htail] at hsum
    simp only [Icmp.Header.verifyChecksum, Icmp.Header.message, hsum, beq_self_eq_true]
  have hdissect := found.dissect_of_icmp (congrArg Ipv4.Fields.protocolNumber hipv4)
  refine ⟨hcompletes, found.ethernet, found.ipv4, ⟨found.window⟩, hdissect, ?_, ?_, hverify, ?_,
    (congrArg Icmp.Fields.type hfields).trans htype,
    (congrArg Icmp.Fields.code hfields).trans hcode, (congrArg Icmp.Fields.id hfields).trans hid,
    (congrArg Icmp.Fields.sequenceNumber hfields).trans hsequence,
    (Message.drop_tail htail).trans hpayload, hzero⟩
  · exact (congrArg Ipv4.Fields.headerLength hipv4).trans c.four_mul_words
  · exact congrArg (fun f : Ipv4.Fields => Endpoints.mk f.source f.destination) hipv4
  · exact hwindow.trans (hstart.trans (by rw [hlen]))

/-- A redirection behind IPv4 options, in a frame that is longer than the datagram. -/
theorem icmp_message_read_back_of_redirect :
    ∃ (c : Carrier) (n : Icmp.Notice) (e : Ethernet.Header) (ip : Ipv4.Header) (m : Icmp.Header),
      dissect ((Session.start (List.replicate 60 0xaa)).run (c.icmpScript n)).1.frame =
        .ok ⟨e, .ipv4 ip, .icmp m⟩ ∧ m.start = 42 ∧ m.type = .redirect ∧ m.code = .redirectHost ∧
      m.payload = [9, 8, 7] ∧ m.verifyChecksum = true := by
  let c : Carrier := ⟨⟨⟨[10, 0, 0, 1], rfl⟩, ⟨[10, 0, 0, 2], rfl⟩⟩, 28, rfl, by decide, by decide⟩
  let n : Icmp.Notice := ⟨.redirect, .redirectHost, 1, 2, [9, 8, 7], by decide⟩
  obtain ⟨-, e, ip, m, hdissect, -, -, -, hstart, htype, hcode, -, -, hpayload, hverify⟩ :=
    c.icmp_message_read_back n (List.replicate 60 0xaa) (by decide) (by decide)
  exact ⟨c, n, e, ip, m, hdissect, hstart, htype, hcode, hpayload, hverify⟩

end Carrier

end PacketHeaders

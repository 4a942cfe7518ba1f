import PacketHeaders.Proofs.Building.Icmp
import PacketHeaders.Proofs.Records.Tiling
import PacketHeaders.Proofs.Records.Udp

/-!
# Headers written back

The transcript of a header is a list of edits that say what the header says. A draft takes it over
whatever octets, and then shows the octets of the header. So the transcript leaves no bit of the
header out, and two headers with the same transcript are the same octets.

A header is legible if what it says can be said again. A number without a meaning is read as
`undefined`, which has no number; a header length below 20 is refused; and under a type without
codes only the code zero can be written.
-/

namespace PacketHeaders

/-- The draft takes all the edits and shows the octets of the window `w` afterwards; the rest of its
frame stays as it was. -/
def Reproduces {n : Nat} {δ ε : Type} (edit : ε → Writing δ Unit) (window : δ → Window n)
    (w : Window n) (es : List ε) (d : δ) : Prop :=
  ∃ d', es.forM edit d = .ok () d' ∧ (window d').head = w.head ∧
    Window.Rewritten n (window d) (window d')

/-- The same edits cannot reproduce different octets. -/
theorem Reproduces.head_eq {n : Nat} {δ ε : Type} {edit : ε → Writing δ Unit}
    {window : δ → Window n} {w w' : Window n} {es es' : List ε} {d : δ}
    (h : Reproduces edit window w es d) (hsame : es = es')
    (h' : Reproduces edit window w' es' d) : w.head = w'.head := by
  obtain ⟨d₁, hd₁, hhead, -⟩ := h
  obtain ⟨d₂, hd₂, hhead', -⟩ := h'
  rw [hsame, hd₂] at hd₁
  cases hd₁
  exact hhead.symm.trans hhead'

/-- It is enough to follow the edits on the record of the draft. -/
theorem Refinement.reproduces {n : Nat} {δ ε φ : Type} (r : Refinement n δ ε φ) {w : Window n}
    {es : List ε} {d : δ} {record : φ} (hamends : r.amends d es = .ok record)
    (hextent : ∀ e ∈ es, r.extent e ≤ n)
    (hhead : ∀ d', r.record d' = record → (r.window d').head = w.head) :
    Reproduces r.edit r.window w es d := by
  obtain ⟨d', hd', hrecord, hwritten⟩ := r.exists_edits hamends hextent
  exact ⟨d', hd', hhead d' hrecord, hwritten⟩

namespace Ethernet

def Header.transcript (h : Header) : List Edit :=
  [.destination h.destination, .source h.source, .protocol h.protocol]

def Header.Legible (h : Header) : Prop := h.protocol ≠ .undefined

variable {h h' : Header}

theorem Header.Legible.amend_transcript (hlegible : h.Legible) (f : Fields) :
    h.transcript.foldlM Fields.amend f = .ok h.fields := by
  have hprotocol : h.protocol.number? = some h.etherType :=
    EtherType.number?_eq_some_iff.mpr ⟨hlegible, rfl⟩
  simp only [Header.transcript, List.foldlM_cons, List.foldlM_nil, Fields.amend, hprotocol,
    Except.bind, bind]
  rfl

theorem Header.Legible.reproduces (hlegible : h.Legible) (d : Draft) :
    Reproduces Draft.edit (·.toWindow) h.toWindow h.transcript d :=
  Draft.refinement.reproduces (hlegible.amend_transcript _) (fun _ _ => Nat.le_refl 14)
    fun _ hrecord => Header.head_of_fields hrecord

theorem Header.head_of_transcript (hlegible : h.Legible) (hlegible' : h'.Legible)
    (hsame : h.transcript = h'.transcript) : h.head = h'.head :=
  (hlegible.reproduces ⟨h.toWindow⟩).head_eq hsame (hlegible'.reproduces _)

end Ethernet

namespace Ipv4

namespace Header

def transcript (h : Header) : List Edit :=
  [.version h.version, .headerLength h.headerLength, .typeOfService h.typeOfService,
    .totalLength h.totalLength, .id h.id, .fragment h.flags h.fragmentOffset, .ttl h.ttl,
    .protocol h.protocol, .checksum h.checksum, .source h.source, .destination h.destination]

structure Legible (h : Header) : Prop where
  five_le : 5 ≤ h.lengthInWords.toNat
  protocol_ne : h.protocol ≠ .undefined

variable {h h' : Header}

theorem version_le (h : Header) : h.version ≤ 15 := by
  have hlt : h.number Layout.versionAndLength < 256 := h.number_lt _
  rw [UInt8.le_iff_toNat_le, version, UInt8.toNat_ofNat']
  change _ ≤ 15
  omega

theorem fragmentOffset_le (h : Header) : h.fragmentOffset ≤ 8191 := by
  rw [UInt16.le_iff_toNat_le, fragmentOffset, UInt16.toNat_ofNat']
  change _ ≤ 8191
  omega

/-- What the accessors report is inside the ranges that the draft accepts. -/
theorem Legible.amend_transcript (hlegible : h.Legible) {start size : Nat}
    (hroom : start + h.headerLength ≤ size) (f : Fields) :
    h.transcript.foldlM (Fields.amend start size) f = .ok h.fields := by
  have hfive := hlegible.five_le
  have hlength : h.headerLength = 4 * h.lengthInWords.toNat := rfl
  have hmax := h.headerLength_le
  have hvalid : h.headerLength % 4 = 0 ∧ 20 ≤ h.headerLength ∧ h.headerLength ≤ 60 := by omega
  have hwords : UInt8.ofNat (h.headerLength / 4) = h.lengthInWords := by
    rw [hlength, Nat.mul_div_cancel_left _ (by decide), UInt8.ofNat_toNat]
  have hprotocol : h.protocol.number? = some h.protocolNumber :=
    IpProtocol.number?_eq_some_iff.mpr ⟨hlegible.protocol_ne, rfl⟩
  simp only [transcript, List.foldlM_cons, List.foldlM_nil, Fields.amend, if_pos h.version_le,
    if_pos hvalid, if_pos hroom, if_pos h.fragmentOffset_le, hwords, hprotocol, Except.bind, bind]
  rfl

theorem Legible.reproduces (hlegible : h.Legible) (d : Draft)
    (hroom : d.start + h.headerLength ≤ d.bytes.length) :
    Reproduces Draft.edit (·.toWindow) h.toWindow h.transcript d :=
  Draft.refinement.reproduces (hlegible.amend_transcript hroom _) (fun _ _ => Nat.le_refl 20)
    fun _ hrecord => head_of_fields hrecord

/-- The longest header fits into 60 octets. -/
theorem head_of_transcript (hlegible : h.Legible) (hlegible' : h'.Legible)
    (hsame : h.transcript = h'.transcript) : h.head = h'.head := by
  let blank : Draft := ⟨⟨List.replicate 60 0, 0⟩, by decide⟩
  have hroom (h : Header) : blank.start + h.headerLength ≤ blank.bytes.length := by
    have hmax := h.headerLength_le
    change 0 + h.headerLength ≤ 60
    omega
  have hwritten := hlegible.reproduces blank (hroom h)
  exact hwritten.head_eq hsame (hlegible'.reproduces blank (hroom h'))

end Header

end Ipv4

namespace Icmp

namespace Header

/-- The type is set twice: an echo reply has no code, and behind it every type is accepted. -/
def transcript (h : Header) : List Edit :=
  [.type .echoReply, .type h.type, .code h.code, .checksum h.checksum, .id h.id,
    .sequenceNumber h.sequenceNumber]

structure Legible (h : Header) : Prop where
  code_ne : h.code ≠ .undefined
  codeless : h.type.codes? = none → h.codeNumber = 0

variable {h h' : Header}

theorem Legible.amend_transcript (hlegible : h.Legible) {start size : Nat} (c : Content Fields) :
    h.transcript.foldlM (amend start size) c = .ok { c with fields := h.fields } := by
  have htype : h.type.number? = some h.typeNumber :=
    IcmpType.number?_eq_some_iff.mpr ⟨IcmpCode.ne_undefined_of_ofNumber hlegible.code_ne, rfl⟩
  have hcode : h.code.number? h.type = some h.codeNumber :=
    IcmpCode.number?_ofNumber hlegible.code_ne hlegible.codeless
  rw [transcript, Except.foldlM_cons_of_ok amend_echoReply,
    Except.foldlM_cons_of_ok (amend_type rfl htype), Except.foldlM_cons_of_ok (amend_code hcode)]
  rfl

theorem Legible.reproduces (hlegible : h.Legible) (d : Draft) :
    Reproduces Draft.edit (·.toWindow) h.toWindow h.transcript d := by
  refine Draft.refinement.reproduces (hlegible.amend_transcript _) ?_ fun _ hrecord =>
    head_of_fields (congrArg Content.fields hrecord)
  simp [transcript, Draft.refinement, Edit.extent]

theorem head_of_transcript (hlegible : h.Legible) (hlegible' : h'.Legible)
    (hsame : h.transcript = h'.transcript) : h.head = h'.head :=
  (hlegible.reproduces (.ofWindow h.toWindow)).head_eq hsame (hlegible'.reproduces _)

end Header

end Icmp

namespace Udp

namespace Header

def transcript (h : Header) : List Edit :=
  [.sourcePort h.sourcePort, .destinationPort h.destinationPort, .length h.length,
    .checksum h.checksum]

variable {h h' : Header}

theorem reproduces (h : Header) (d : Draft) :
    Reproduces Draft.edit (·.toWindow) h.toWindow h.transcript d := by
  have hamends : Draft.refinement.amends d h.transcript =
      .ok { d.content with fields := h.fields } := rfl
  refine Draft.refinement.reproduces hamends ?_ fun _ hrecord =>
    head_of_fields (congrArg Content.fields hrecord)
  simp [transcript, Draft.refinement, Edit.extent]

theorem head_of_transcript (hsame : h.transcript = h'.transcript) : h.head = h'.head :=
  (h.reproduces (.ofWindow h.toWindow)).head_eq hsame (h'.reproduces _)

end Header

end Udp

/-- A legible header is written back from what its accessors report, over any octets, and shares its
transcript only with headers of the same octets. -/
theorem transcripts_reproduce_headers :
    ((∀ h : Ethernet.Header, h.Legible → ∀ d : Ethernet.Draft,
        Reproduces Ethernet.Draft.edit (·.toWindow) h.toWindow h.transcript d) ∧
      ∀ h h' : Ethernet.Header, h.Legible → h'.Legible → h.transcript = h'.transcript →
        h.head = h'.head) ∧
    ((∀ h : Ipv4.Header, h.Legible → ∀ d : Ipv4.Draft,
        d.start + h.headerLength ≤ d.bytes.length →
          Reproduces Ipv4.Draft.edit (·.toWindow) h.toWindow h.transcript d) ∧
      ∀ h h' : Ipv4.Header, h.Legible → h'.Legible → h.transcript = h'.transcript →
        h.head = h'.head) ∧
    ((∀ h : Icmp.Header, h.Legible → ∀ d : Icmp.Draft,
        Reproduces Icmp.Draft.edit (·.toWindow) h.toWindow h.transcript d) ∧
      ∀ h h' : Icmp.Header, h.Legible → h'.Legible → h.transcript = h'.transcript →
        h.head = h'.head) ∧
    ((∀ (h : Udp.Header) (d : Udp.Draft),
        Reproduces Udp.Draft.edit (·.toWindow) h.toWindow h.transcript d) ∧
      ∀ h h' : Udp.Header, h.transcript = h'.transcript → h.head = h'.head) := by
  refine ⟨⟨?_, ?_⟩, ⟨?_, ?_⟩, ⟨?_, ?_⟩, ?_, ?_⟩
  · exact fun _ hlegible d => hlegible.reproduces d
  · exact fun _ _ => Ethernet.Header.head_of_transcript
  · exact fun _ hlegible d hroom => hlegible.reproduces d hroom
  · exact fun _ _ => Ipv4.Header.head_of_transcript
  · exact fun _ hlegible d => hlegible.reproduces d
  · exact fun _ _ => Icmp.Header.head_of_transcript
  · exact fun h d => h.reproduces d
  · exact fun _ _ => Udp.Header.head_of_transcript

/-- A header with one word of options goes into a frame that holds just its 24 octets, at another
place than it was read from. Of a redirection written over octets that say nothing sensible, every
octet is new. -/
theorem transcripts_reproduce_headers_over_garbage :
    let ip : List UInt8 := [0x46, 7, 1, 2, 3, 4, 0xbf, 0xff, 9, 17, 5, 6, 10, 0, 0, 1, 10, 0, 0, 2]
    let icmp : List UInt8 := [5, 1, 0xab, 0xcd, 1, 2, 3, 4]
    (∃ d, (Ipv4.Header.transcript ⟨⟨⟨0xaa :: ip, 1⟩, by decide⟩⟩).forM Ipv4.Draft.edit
        ⟨⟨⟨List.replicate 24 0xff, 0⟩, by decide⟩⟩ = .ok () d ∧ d.header.head = ip) ∧
      ∃ d, (Icmp.Header.transcript ⟨⟨⟨icmp, 0⟩, by decide⟩⟩).forM Icmp.Draft.edit
        (.ofWindow ⟨⟨[3, 77, 0, 0, 0, 0, 0, 0], 0⟩, by decide⟩) = .ok () d ∧
        d.header.head = icmp := by
  intro ip icmp
  obtain ⟨-, ⟨hipv4, -⟩, ⟨hicmp, -⟩, -⟩ := transcripts_reproduce_headers
  constructor
  · obtain ⟨d, hd, hhead, -⟩ := hipv4 ⟨⟨⟨0xaa :: ip, 1⟩, by decide⟩⟩ ⟨by decide, by decide⟩
      ⟨⟨⟨List.replicate 24 0xff, 0⟩, by decide⟩⟩ (by decide)
    exact ⟨d, hd, hhead⟩
  · obtain ⟨d, hd, hhead, -⟩ := hicmp ⟨⟨⟨icmp, 0⟩, by decide⟩⟩ ⟨by decide, by decide⟩
      (.ofWindow ⟨⟨[3, 77, 0, 0, 0, 0, 0, 0], 0⟩, by decide⟩)
    exact ⟨d, hd, hhead⟩

end PacketHeaders

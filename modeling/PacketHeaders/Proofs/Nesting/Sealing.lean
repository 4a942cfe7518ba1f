import PacketHeaders.Proofs.Building.Script
import PacketHeaders.Proofs.Nesting.Balanced
import PacketHeaders.Proofs.StoredChecksum

/-!
# Sealed headers

An IPv4 header length is settled by the defaults or by an accepted length, and both make it
believable: at least 20 and no more than the frame holds. Nothing that is done to the draft later
takes that away, since what shares an octet with the length keeps it and messages are written behind
it. So at the end of any such script the checksum covers a whole header, and a header that is sealed
with its checksum verifies for as long as only messages are written.
-/

namespace PacketHeaders

namespace Ipv4

/-- Whether the edit settles the header length. -/
def Edit.Sizes : Edit → Prop
  | defaults | headerLength _ => True
  | _ => False

theorem Fields.headerLength_of_amend {start size : Nat} {f f' : Fields} {e : Edit}
    (h : f.amend start size e = .ok f') :
    20 ≤ f'.headerLength ∧ (f'.headerLength = 20 ∨ start + f'.headerLength ≤ size) ∨
      ¬e.Sizes ∧ f'.headerLength = f.headerLength := by
  cases e with
  | defaults =>
    cases h
    exact .inl ⟨Nat.le_refl 20, .inl rfl⟩
  | headerLength length =>
    simp only [amend] at h
    split at h
    · next hvalid =>
      split at h
      · cases h
        have hlength : 4 * (UInt8.ofNat (length / 4)).toNat = length := by
          rw [UInt8.toNat_ofNat']
          omega
        simp only [Fields.headerLength, hlength]
        exact .inl ⟨hvalid.2.1, .inr ‹_›⟩
      · cases h
    · cases h
  | typeOfService | totalLength | id | ttl | checksum | source | destination =>
    cases h
    exact .inr ⟨not_false, rfl⟩
  | version | fragment | protocol =>
    simp only [amend] at h
    split at h
    · cases h
      exact .inr ⟨not_false, rfl⟩
    · cases h
  | sourceText | destinationText =>
    obtain ⟨_, -, rfl⟩ := amendText_eq_ok_iff.mp h
    exact .inr ⟨not_false, rfl⟩

namespace Header

def Sealed (h : Header) : Prop := h.verifyChecksum = true ∧ h.calculateChecksum = h.checksum

theorem Same.headerLength_eq {h h' : Header} (hs : h.Same h') : h'.headerLength = h.headerLength :=
  congrArg Fields.headerLength hs.fields_eq

theorem Same.isSealed {h h' : Header} (hs : h.Same h') (hsealed : h.Sealed) : h'.Sealed := by
  have hchecksum : h'.checksum = h.checksum := congrArg Fields.checksum hs.fields_eq
  refine ⟨hs.verifyChecksum_eq.trans hsealed.1, ?_⟩
  rw [hs.calculateChecksum_eq, hsealed.2, hchecksum]

end Header

namespace Draft

structure Sized (d : Draft) : Prop where
  shortest : 20 ≤ d.header.headerLength
  room : d.start + d.header.headerLength ≤ d.bytes.length

variable {d d' : Draft}

theorem sized_edit {e : Edit} (h : d.edit e = .ok () d') :
    d'.Sized ∨ ¬e.Sizes ∧ (d.Sized → d'.Sized) := by
  obtain ⟨hamend, hwritten⟩ := Refinement.edit_ok (r := refinement) h
  have hstart : d'.start = d.start := hwritten.start_eq
  have hlength : d'.bytes.length = d.bytes.length := hwritten.length_eq
  have hroom : d.start + 20 ≤ d.bytes.length := d.room
  rcases Fields.headerLength_of_amend hamend with ⟨hshortest, hfits⟩ | ⟨hkeeps, hsame⟩
  · have hshortest : 20 ≤ d'.header.headerLength := hshortest
    have hfits : d'.header.headerLength = 20 ∨ d.start + d'.header.headerLength ≤ d.bytes.length :=
      hfits
    exact .inl ⟨hshortest, by omega⟩
  · have hsame : d'.header.headerLength = d.header.headerLength := hsame
    refine .inr ⟨hkeeps, fun hsized => ⟨?_, ?_⟩⟩
    · rw [hsame]
      exact hsized.shortest
    · rw [hsame, hstart, hlength]
      exact hsized.room

theorem sealed_store (h : d.Sized) : (d.setChecksum d.defaultChecksum).header.Sealed := by
  refine ⟨verifyChecksum_store h.shortest h.room, ?_⟩
  have hcovered : (d.setChecksum d.defaultChecksum).header.calculateChecksum =
      d.header.calculateChecksum := d.defaultChecksum_setChecksum d.defaultChecksum
  have hstored : (d.setChecksum d.defaultChecksum).header.checksum = d.header.calculateChecksum :=
    d.number16_put_self rfl _
  rw [hcovered, hstored]

end Draft

end Ipv4

namespace Draft

def KeepsSize (d d' : Draft) : Prop :=
  ∀ ip, d = .ipv4 ip → ∃ ip', d' = .ipv4 ip' ∧ (ip.Sized → ip'.Sized)

theorem resume_ipv4 {ip : Ipv4.Draft} {inner : Draft} (h : (ipv4 ip).Encloses inner) :
    ∃ ip', (ipv4 ip).resume inner.bytes = .ipv4 ip' ∧ ip.header.Same ip'.header ∧
      ip'.bytes.length = ip.bytes.length := by
  refine ⟨_, rfl, ?_, Window.length_adopt ..⟩
  cases h.sameHeader with
  | ipv4 hsame => exact hsame

theorem respected_keepsSize : Respected KeepsSize where
  refl _ ip hd := ⟨ip, hd, id⟩
  trans h h' ip hd := by
    obtain ⟨ip', hd', hsized⟩ := h ip hd
    obtain ⟨ip'', hd'', hsized'⟩ := h' ip' hd'
    exact ⟨ip'', hd'', hsized' ∘ hsized⟩
  call {d d'} _ _ h ip hd := by
    rcases edited_of_call h with rfl | hedited
    · exact ⟨ip, hd, id⟩
    · cases hedited with
      | @ipv4 d d' e hedit =>
        cases hd
        refine ⟨d', rfl, ?_⟩
        rcases Ipv4.Draft.sized_edit hedit with hsized | ⟨-, hkept⟩
        · exact fun _ => hsized
        · exact hkept
      | ethernet | icmp | udp => cases hd
  resume h ip hd := by
    subst hd
    obtain ⟨ip', hresume, hsame, hlength⟩ := resume_ipv4 h
    refine ⟨ip', hresume, fun hsized => ⟨?_, ?_⟩⟩
    · rw [hsame.headerLength_eq]
      exact hsized.shortest
    · rw [hsame.headerLength_eq, hlength]
      exact hsame.start_eq ▸ hsized.room

end Draft

/-- Drafts that are begun and closed one after the other. -/
inductive Excursions : List Step → Prop
  | nil : Excursions []
  | cons {opening : Step} {inside steps : List Step} (begins : opening.Begins)
      (balanced : Balanced inside) (rest : Excursions steps) :
      Excursions (excursion opening inside ++ steps)

namespace Session

variable {frame : List UInt8} {outer : List Draft} {d : Ipv4.Draft}

theorem after_excursions {steps : List Step} (h : Excursions steps) (frame : List UInt8)
    (d : Ipv4.Draft) (outer : List Draft) :
    ∃ d' : Ipv4.Draft, after ⟨frame, .ipv4 d :: outer, 0⟩ steps = ⟨frame, .ipv4 d' :: outer, 0⟩ ∧
      (d.header.Sealed → d'.header.Sealed) ∧ d'.start = d.start := by
  induction h generalizing d with
  | nil => exact ⟨d, rfl, id, rfl⟩
  | cons hbegins hinside _ ih =>
    rw [after_append]
    obtain ⟨_, hafter, rfl | ⟨inner, hencloses, rfl⟩⟩ := after_excursion hbegins hinside
      frame (.ipv4 d) outer
    · rw [hafter]
      exact ih d
    · obtain ⟨mid, hresume, hsame, -⟩ := Draft.resume_ipv4 hencloses
      obtain ⟨d', hrest, hsealed, hstart⟩ := ih mid
      refine ⟨d', ?_, fun h => hsealed (hsame.isSealed h), hstart.trans hsame.start_eq⟩
      rw [hafter, hresume, hrest]

theorem edit_of_taken {e : Ipv4.Edit}
    (h : ((step ⟨frame, .ipv4 d :: outer, 0⟩ (.ipv4 (.edit e))).2.any Outcome.taken) = true) :
    ∃ d', d.edit e = .ok () d' ∧
      (step ⟨frame, .ipv4 d :: outer, 0⟩ (.ipv4 (.edit e))).1 = ⟨frame, .ipv4 d' :: outer, 0⟩ := by
  rw [Step.ipv4] at h ⊢
  cases hcall : (Draft.ipv4 d).call ⟨none, some (.edit e), none, none⟩ with
  | error refusal d' =>
    rw [step_call_of_error hcall] at h
    cases h
  | ok reply d' =>
    rw [step_call_of_ok hcall]
    have hanswer : Draft.call.answer Ipv4.Draft.call .ipv4 (some (.edit e)) d = .ok reply d' := hcall
    obtain ⟨_, d', hc, hrun, rfl⟩ := Draft.answer_eq_ok hanswer
    cases Option.some.inj hc
    exact ⟨d', edit_of_answered hrun, rfl⟩

/-- Whatever else is done at an IPv4 draft and behind it, once the defaults or a header length were
accepted the header is believable and the frame holds it. Storing its checksum then seals it, for
the draft and for whoever reads the frame at that place, and messages do not break the seal. -/
theorem settled_header_is_sealed {before rest : List Step} {e : Ipv4.Edit} (hbefore : Balanced before)
    (hrest : Balanced rest) (hsizes : e.Sizes)
    (htaken : ((after ⟨frame, .ipv4 d :: outer, 0⟩ before).step
      (.ipv4 (.edit e))).2.any Outcome.taken = true) :
    ∃ d' : Ipv4.Draft,
      after ⟨frame, .ipv4 d :: outer, 0⟩ (before ++ .ipv4 (.edit e) :: rest) =
        ⟨frame, .ipv4 d' :: outer, 0⟩ ∧
      d'.start = d.start ∧ d'.bytes.length = d.bytes.length ∧ d'.Sized ∧
      d'.header.headerBytes.length = d'.header.headerLength ∧
      ∀ messages, Excursions messages → ∃ last : Ipv4.Draft,
        after ⟨frame, .ipv4 d' :: outer, 0⟩ (.ipv4 .storeChecksum :: messages) =
          ⟨frame, .ipv4 last :: outer, 0⟩ ∧
        last.header.Sealed ∧
        ∃ h, Ipv4.Header.place last.bytes d.start = .ok h ∧ h.Sealed := by
  obtain ⟨_, hfirst, hkept, hadvanced⟩ :=
    after_balanced Draft.respected_keepsSize hbefore frame (.ipv4 d) outer
  obtain ⟨d₁, rfl, -⟩ := hkept d rfl
  rw [hfirst] at htaken
  obtain ⟨d₂, hedit, hstep⟩ := edit_of_taken htaken
  obtain ⟨_, hlast, hkept', hadvanced'⟩ :=
    after_balanced Draft.respected_keepsSize hrest frame (.ipv4 d₂) outer
  obtain ⟨d', rfl, hsized⟩ := hkept' d₂ rfl
  have hconfined := Draft.confined_edit (.ipv4 hedit)
  have hstart : d'.start = d.start :=
    hadvanced'.start_eq.trans (hconfined.start_eq.trans hadvanced.start_eq)
  have hlength : d'.bytes.length = d.bytes.length :=
    hadvanced'.changed.length_eq.trans
      (hconfined.changed.length_eq.trans hadvanced.changed.length_eq)
  have hsized' : d'.Sized := by
    rcases Ipv4.Draft.sized_edit hedit with h | ⟨hkeeps, -⟩
    · exact hsized h
    · exact absurd hsizes hkeeps
  refine ⟨d', ?_, hstart, hlength, hsized', Octets.length_slice hsized'.room, ?_⟩
  · rw [after_append, hfirst]
    change after (step _ _).1 rest = _
    rw [hstep, hlast]
  · intro messages hmessages
    obtain ⟨last, hafter, hkeeps, hplace⟩ :=
      after_excursions hmessages frame (d'.setChecksum d'.defaultChecksum) outer
    have hsealed := hkeeps (Ipv4.Draft.sealed_store hsized')
    have hview : Ipv4.Header.place last.bytes d.start = .ok last.header := by
      rw [← hstart, ← show last.start = d'.start from hplace]
      exact congrArg (Except.map _) (Window.place_of_le last.room)
    exact ⟨last, hafter, hsealed, last.header, hview, hsealed⟩

/-- A datagram that is begun too early is passed over; once there is a header length, the header is
sealed around its options and a datagram is written behind it. -/
theorem settled_header_is_sealed_around_options :
    let d : Ipv4.Draft := ⟨⟨⟨List.replicate 40 0x11, 2⟩, by decide⟩⟩
    let datagram := excursion (.enter .udp) [.udp (.edit (.payload [1, 2, 3])), .header]
    ∃ d' last : Ipv4.Draft,
      after ⟨[], [.ipv4 d], 0⟩ (datagram ++ .ipv4 (.edit (.headerLength 24)) ::
        [.ipv4 (.edit (.version 4)), .ipv4 (.edit (.headerLength 23))]) = ⟨[], [.ipv4 d'], 0⟩ ∧
      d'.Sized ∧
      after ⟨[], [.ipv4 d'], 0⟩ (.ipv4 .storeChecksum :: (datagram ++ [])) =
        ⟨[], [.ipv4 last], 0⟩ ∧
      last.header.Sealed := by
  intro d datagram
  have hinside : Balanced [.udp (.edit (.payload [1, 2, 3])), .header] :=
    .cons trivial (.stay trivial)
  have hbegins : (Step.enter .udp).Begins := trivial
  have hrest : Balanced [.ipv4 (.edit (.version 4)), .ipv4 (.edit (.headerLength 23))] :=
    .cons trivial (.stay trivial)
  have htaken : ((after ⟨[], [.ipv4 d], 0⟩ datagram).step
      (.ipv4 (.edit (.headerLength 24)))).2.any Outcome.taken = true := by decide
  have hsizes : (Ipv4.Edit.headerLength 24).Sizes := trivial
  obtain ⟨d', hafter, -, -, hsized, -, hseals⟩ :=
    settled_header_is_sealed (.excursion hbegins hinside) hrest hsizes htaken
  obtain ⟨last, hlast, hsealed, -⟩ := hseals (datagram ++ []) (.cons hbegins hinside .nil)
  exact ⟨d', last, hafter, hsized, hlast, hsealed⟩

end Session

end PacketHeaders

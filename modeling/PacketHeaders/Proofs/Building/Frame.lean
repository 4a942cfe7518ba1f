import PacketHeaders.Proofs.Building.Outer
import PacketHeaders.Proofs.Building.Script

/-!
# Scripts that fill a frame

A script opens the two outer headers, writes a message behind them and closes everything again, the
IPv4 header with its checksum. In every frame that is long enough it completes and leads to the
message.
-/

namespace PacketHeaders

/-- The header length and the addresses that a sender chooses for an IPv4 header. -/
structure Carrier where
  ends : Endpoints
  headerLength : Nat
  words : headerLength % 4 = 0
  shortest : 20 ≤ headerLength
  longest : headerLength ≤ 60

namespace Carrier

variable (c : Carrier)

theorem length_valid : c.headerLength % 4 = 0 ∧ 20 ≤ c.headerLength ∧ c.headerLength ≤ 60 :=
  ⟨c.words, c.shortest, c.longest⟩

theorem four_mul_words : 4 * (UInt8.ofNat (c.headerLength / 4)).toNat = c.headerLength := by
  have hvalid := c.length_valid
  rw [UInt8.toNat_ofNat']
  omega

end Carrier

namespace Session

def opening (es : List Ethernet.Edit) (is : List Ipv4.Edit) : List Step :=
  [.begin .ethernet 0] ++ es.map Step.ethernet ++ [.enter .ipv4] ++
    is.map fun e => .ipv4 (.edit e)

/-- Goes back to the IPv4 header, gives it its checksum and closes it and the Ethernet header. -/
def closing : List Step := [.close, .ipv4 .storeChecksum, .close, .close]

variable {frame : List UInt8} {e : Ethernet.Draft} {d : Ipv4.Draft}

theorem goes_opening (hroom : 34 ≤ frame.length) {es : List Ethernet.Edit} {is : List Ipv4.Edit}
    {fe : Ethernet.Fields → Ethernet.Fields} {fi : Ipv4.Fields → Ipv4.Fields}
    (hes : ∀ f, es.foldlM Ethernet.Fields.amend f = .ok (fe f))
    (his : ∀ f, is.foldlM (Ipv4.Fields.amend 14 frame.length) f = .ok (fi f)) :
    ∃ e d, Goes (start frame) (opening es is) ⟨frame, [.ipv4 d, .ethernet e], 0⟩ ∧
      Outer frame e d ∧ (∃ f, e.header.fields = fe f) ∧ ∃ f, d.header.fields = fi f := by
  let e₀ : Ethernet.Draft := ⟨⟨⟨frame, 0⟩, by change 0 + 14 ≤ frame.length; omega⟩⟩
  have hplace : Draft.place .ethernet frame 0 = .ok (.ethernet e₀) :=
    Refusal.lift_eq_ok_iff.mpr ⟨e₀, congrArg (Except.map _) (Window.place_of_le e₀.room), rfl⟩
  obtain ⟨e, he, hfe, hwe⟩ := Ethernet.Draft.refinement.exists_edits (hes e₀.header.fields)
    (fun _ _ => Nat.le_refl 14)
  have hstart : e.start = 0 := hwe.start_eq
  have hlength : e.bytes.length = frame.length := hwe.length_eq
  let d₀ : Ipv4.Draft := ⟨⟨⟨e.bytes, 14⟩, by rw [hlength]; exact hroom⟩⟩
  have hnext : (Draft.ethernet e).next .ipv4 = .ok (.ipv4 d₀) := by
    refine Refusal.lift_eq_ok_iff.mpr ⟨d₀, ?_, rfl⟩
    rw [Ethernet.Draft.ipv4, Span.child, hstart]
    exact congrArg (Except.map _) (Window.place_of_le d₀.room)
  have hamends : Ipv4.Draft.refinement.amends d₀ is = .ok (fi d₀.header.fields) := by
    change is.foldlM (Ipv4.Fields.amend 14 e.bytes.length) _ = _
    rw [hlength]
    exact his _
  obtain ⟨d, hd, hfd, hwd⟩ := Ipv4.Draft.refinement.exists_edits hamends
    (fun _ _ => Nat.le_refl 20)
  have hgoes : Goes (start frame) (opening es is) ⟨frame, [.ipv4 d, .ethernet e], 0⟩ :=
    (((goes_begin hplace).append (goes_ethernet he)).append (goes_enter hnext)).append
      (goes_ipv4 hd)
  exact ⟨e, d, hgoes, ⟨hstart, hlength, hwd.start_eq, hwd.changed⟩, ⟨_, hfe⟩, ⟨_, hfd⟩⟩

theorem goes_closing (h : Outer frame e d) {inner : Draft}
    (hinner : inner.bytes.length = d.bytes.length) :
    Goes ⟨frame, [inner, .ipv4 d, .ethernet e], 0⟩ closing
      ⟨(d.resealed inner.bytes).bytes, [], 0⟩ := by
  have hlength : (d.resealed inner.bytes).bytes.length = e.bytes.length := by
    rw [(Ipv4.Draft.changed_resealed hinner).length_eq, hinner, h.changed.length_eq]
  have hseal : Goes ⟨frame, [.ipv4 ⟨d.toWindow.adopt inner.bytes⟩, .ethernet e], 0⟩
      [.ipv4 .storeChecksum] ⟨frame, [.ipv4 (d.resealed inner.bytes), .ethernet e], 0⟩ :=
    goes_call rfl
  have hbytes : ((Draft.ethernet e).resume (d.resealed inner.bytes).bytes).bytes =
      (d.resealed inner.bytes).bytes := Window.bytes_adopt hlength
  have hlast : Goes ⟨frame, [(Draft.ethernet e).resume (d.resealed inner.bytes).bytes], 0⟩ [.close]
      ⟨((Draft.ethernet e).resume (d.resealed inner.bytes).bytes).bytes, [], 0⟩ := goes_close_last
  rw [hbytes] at hlast
  exact goes_close.append (hseal.append (goes_close.append hlast))

/-- Closed behind a message, a session completes and its frame leads to the message. -/
theorem completes_of_message (h : Outer frame e d) {first steps : List Step} {inner : Draft}
    (hfirst : Goes (start frame) first ⟨frame, [.ipv4 d, .ethernet e], 0⟩)
    (hsteps : Goes ⟨frame, [.ipv4 d, .ethernet e], 0⟩ steps
      ⟨frame, [inner, .ipv4 d, .ethernet e], 0⟩)
    {m : Message} {stop : Nat} (hinner : inner.bytes = m.bytes)
    (hether : e.header.etherType = 0x0800) (hlen : 20 ≤ d.header.headerLength)
    (hstart : m.start = 14 + d.header.headerLength)
    (htotal : d.header.totalLength.toNat = d.header.headerLength + m.length)
    (hm : Octets.ChangedWithin m.start stop d.bytes m.bytes) :
    (start frame).Completes (first ++ (steps ++ closing)) ∧
      ∃ f : Found ((start frame).run (first ++ (steps ++ closing))).1.frame,
        f.ethernet.fields = e.header.fields ∧
        f.ipv4.fields = { d.header.fields with checksum := f.ipv4.checksum } ∧
        f.ipv4.verifyChecksum = true ∧ f.window.start = m.start ∧ f.window.tail = m.octets := by
  have hsame : inner.bytes.length = d.bytes.length := by rw [hinner, hm.length_eq]
  have hclosing := goes_closing h hsame
  rw [hinner] at hclosing
  obtain ⟨hend, hcompletes⟩ := (hfirst.append (hsteps.append hclosing)).run rfl
  refine ⟨hcompletes, ?_⟩
  rw [hend]
  exact h.exists_found hether hlen hstart htotal hm

end Session

end PacketHeaders

import PacketHeaders.Proofs.Building.Found
import PacketHeaders.Proofs.Records.Ethernet
import PacketHeaders.Proofs.StoredChecksum

/-!
# The headers in front of a message

A message is written behind an Ethernet header at the start of the frame and an IPv4 header right
behind it. When the message is done and the IPv4 header has got its checksum, a dissection of the
frame finds both headers as they were written, and behind them the octets of the message and nothing
else.
-/

namespace PacketHeaders

open Octets

/-- Open drafts of the two outer headers. The inner one has the frame up to date. -/
structure Outer (frame : List UInt8) (e : Ethernet.Draft) (d : Ipv4.Draft) : Prop where
  start_ethernet : e.start = 0
  length_ethernet : e.bytes.length = frame.length
  start_ipv4 : d.start = 14
  changed : ChangedWithin 14 34 e.bytes d.bytes

namespace Outer

variable {frame : List UInt8} {e : Ethernet.Draft} {d : Ipv4.Draft}

theorem length_ipv4 (h : Outer frame e d) : d.bytes.length = frame.length :=
  h.changed.length_eq.trans h.length_ethernet

theorem exists_next (h : Outer frame e d) (hlen : 20 ≤ d.header.headerLength)
    (hroom : 14 + d.header.headerLength + 8 ≤ frame.length) :
    ∃ w, d.next = .ok w ∧ w.bytes = d.bytes ∧ w.start = 14 + d.header.headerLength := by
  have hroom' : d.start + d.header.headerLength + 8 ≤ d.bytes.length := by
    rw [h.start_ipv4, h.length_ipv4]
    exact hroom
  refine ⟨⟨⟨d.bytes, d.start + d.header.headerLength⟩, hroom'⟩, ?_, rfl,
    congrArg (· + _) h.start_ipv4⟩
  rw [Ipv4.Draft.next, if_neg (Nat.not_lt_of_le hlen)]
  exact Window.place_of_le hroom'

/-- Edits of a draft behind the IPv4 draft, and a last change of its header, fill the room that they
need behind the outer headers. -/
theorem exists_written {δ ε φ : Type} (h : Outer frame e d) (hlen : 20 ≤ d.header.headerLength)
    {len : Nat} (h8 : 8 ≤ len) (hroom : 14 + d.header.headerLength + len ≤ frame.length)
    (r : Refinement 8 δ ε φ) (ofWindow : Window 8 → δ) (hwindow : ∀ w, r.window (ofWindow w) = w)
    {es : List ε} (hextent : ∀ e ∈ es, r.extent e ≤ len) {record : Window 8 → φ}
    (hamends : ∀ w, w.start + len ≤ w.bytes.length → r.amends (ofWindow w) es = .ok (record w))
    (store : δ → δ) (hstore : ∀ u, Window.Rewritten 8 (r.window u) (r.window (store u))) :
    ∃ w u, d.next = .ok w ∧ es.forM r.edit (ofWindow w) = .ok () u ∧ r.record u = record w ∧
      (r.window (store u)).start = 14 + d.header.headerLength ∧
      ChangedWithin (r.window (store u)).start ((r.window (store u)).start + len) d.bytes
        (r.window (store u)).bytes := by
  obtain ⟨w, hw, hbytes, hstart⟩ := h.exists_next hlen (by omega)
  have hfits : w.start + len ≤ w.bytes.length := by
    rw [hbytes, hstart, h.length_ipv4]
    exact hroom
  obtain ⟨u, hu, hrecord, hwritten⟩ := r.exists_edits (hamends w hfits) hextent
  have hall := hwritten.trans ((hstore u).mono h8)
  rw [hwindow] at hall
  refine ⟨w, u, hw, hu, hrecord, hall.start_eq.trans hstart, ?_⟩
  rw [hall.start_eq, ← hbytes]
  exact hall.changed

variable {m : Message} {stop : Nat}

theorem head_message (h : Outer frame e d) (hstart : 34 ≤ m.start)
    (hm : ChangedWithin m.start stop d.bytes m.bytes) :
    slice m.bytes d.start 20 = slice d.bytes d.start 20 :=
  hm.slice_eq (.inl (by rw [h.start_ipv4]; exact hstart))

theorem head_ethernet (h : Outer frame e d) (hstart : 34 ≤ m.start)
    (hm : ChangedWithin m.start stop d.bytes m.bytes) :
    slice (d.resealed m.bytes).bytes 0 14 = e.head := by
  have hlast := Ipv4.Draft.changed_resealed hm.length_eq
  rw [h.start_ipv4] at hlast
  calc slice (d.resealed m.bytes).bytes 0 14
      = slice m.bytes 0 14 := hlast.slice_eq (.inl (Nat.le_refl _))
    _ = slice d.bytes 0 14 := hm.slice_eq (.inl (by omega))
    _ = slice e.bytes 0 14 := h.changed.slice_eq (.inl (Nat.le_refl _))
    _ = e.head := by rw [e.head_eq_slice, h.start_ethernet]

theorem slice_message (h : Outer frame e d) (hstart : 34 ≤ m.start)
    (hm : ChangedWithin m.start stop d.bytes m.bytes) :
    slice (d.resealed m.bytes).bytes m.start m.length = m.octets := by
  have hlast := Ipv4.Draft.changed_resealed hm.length_eq
  rw [h.start_ipv4] at hlast
  exact hlast.slice_eq (.inr hstart)

/-- The finished frame leads to the message. -/
theorem exists_found (h : Outer frame e d) (hether : e.header.etherType = 0x0800)
    (hlen : 20 ≤ d.header.headerLength) (hstart : m.start = 14 + d.header.headerLength)
    (htotal : d.header.totalLength.toNat = d.header.headerLength + m.length)
    (hm : ChangedWithin m.start stop d.bytes m.bytes) :
    ∃ f : Found (d.resealed m.bytes).bytes, f.ethernet.fields = e.header.fields ∧
      f.ipv4.fields = { d.header.fields with checksum := f.ipv4.checksum } ∧
      f.ipv4.verifyChecksum = true ∧ f.window.start = m.start ∧ f.window.tail = m.octets := by
  have h34 : 34 ≤ m.start := by omega
  have hhead := h.head_message h34 hm
  have hfields := Ipv4.Draft.fields_resealed hm.length_eq hhead
  have hroom := m.octets_room
  have hlength : (d.resealed m.bytes).bytes.length = m.bytes.length :=
    (Ipv4.Draft.changed_resealed hm.length_eq).length_eq
  let eh : Ethernet.Header := ⟨⟨⟨(d.resealed m.bytes).bytes, 0⟩, by simp only; omega⟩⟩
  let ih : Ipv4.Header := (d.resealed m.bytes).header
  have heh : eh.fields = e.header.fields := Ethernet.Header.fields_congr (h.head_ethernet h34 hm)
  have hih : ih.start = 14 := Ipv4.Draft.start_resealed.trans h.start_ipv4
  have hihlen : ih.headerLength = d.header.headerLength := congrArg Ipv4.Fields.headerLength hfields
  have hihtotal : ih.totalLength = d.header.totalLength := congrArg Ipv4.Fields.totalLength hfields
  have hpayload : ih.payloadStart = m.start := by
    rw [Ipv4.Header.payloadStart, hih, hihlen, hstart]
  have hverify : ih.verifyChecksum = true :=
    Ipv4.Draft.verifyChecksum_resealed hm.length_eq hhead hlen (by rw [h.start_ipv4]; omega)
  obtain ⟨f, hethernet, hipv4, hwindow, htail⟩ := Found.exists_of_headers (e := eh) (h := ih) rfl
    rfl hih ((congrArg Ethernet.Fields.etherType heh).trans hether) (by omega)
    (Nat.le_add_right 8 m.payloadLength) (by rw [hihtotal, hihlen]; exact htotal)
    (by rw [hpayload]; exact hlength ▸ hroom)
  rw [hpayload] at hwindow htail
  refine ⟨f, hethernet ▸ heh, hipv4 ▸ hfields, hipv4 ▸ hverify, hwindow, ?_⟩
  exact htail.trans (h.slice_message h34 hm)

end Outer

end PacketHeaders

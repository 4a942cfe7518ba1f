import PacketHeaders.Proofs.Calls
import PacketHeaders.Proofs.NextHeader

/-!
# Headers that enclose others

A draft that is begun behind another shares its frame. `Encloses` says that the outer header lies in
front of the inner draft and that nothing in it was changed since the inner draft was begun; then
the outer draft, taken up again, shows the header that it showed before: fields, options and
checksums.
-/

namespace PacketHeaders

namespace Ethernet.Header

/-- The same header at the same place. -/
structure Same (h h' : Header) : Prop where
  start_eq : h'.start = h.start
  fields_eq : h'.fields = h.fields
  headerBytes_eq : h'.headerBytes = h.headerBytes

theorem same_of_head {h h' : Header} (hstart : h'.start = h.start) (hhead : h'.head = h.head) :
    h.Same h' :=
  ⟨hstart, fields_congr hhead, hhead⟩

end Ethernet.Header

namespace Ipv4.Header

/-- The same header at the same place, with its options and with whatever depends on them. -/
structure Same (h h' : Header) : Prop where
  start_eq : h'.start = h.start
  fields_eq : h'.fields = h.fields
  headerBytes_eq : h'.headerBytes = h.headerBytes
  calculateChecksum_eq : h'.calculateChecksum = h.calculateChecksum
  verifyChecksum_eq : h'.verifyChecksum = h.verifyChecksum

theorem same_of_headerBytes {h h' : Header} (hstart : h'.start = h.start)
    (hhead : h'.head = h.head) (hbytes : h'.headerBytes = h.headerBytes) : h.Same h' := by
  have hfields : h'.fields = h.fields := fields_congr hhead
  have hlength : h'.headerLength = h.headerLength := congrArg Fields.headerLength hfields
  refine ⟨hstart, hfields, hbytes, ?_, ?_⟩
  · rw [calculateChecksum, hbytes, calculateChecksum]
  · rw [verifyChecksum, hlength, hbytes, verifyChecksum]

end Ipv4.Header

namespace Draft

/-- The draft is of a kind behind which others begin, and its header has a believable length. -/
def Opens : Draft → Prop
  | ethernet _ => True
  | ipv4 d => 20 ≤ d.header.headerLength
  | icmp _ | udp _ => False

/-- Two drafts of a kind behind which others begin, with the same header. -/
inductive SameHeader : Draft → Draft → Prop
  | ethernet {d d' : Ethernet.Draft} (h : d.header.Same d'.header) :
      SameHeader (ethernet d) (ethernet d')
  | ipv4 {d d' : Ipv4.Draft} (h : d.header.Same d'.header) : SameHeader (ipv4 d) (ipv4 d')

namespace SameHeader

variable {d d' d'' : Draft}

theorem symm (h : d.SameHeader d') : d'.SameHeader d := by
  cases h with
  | ethernet h => exact .ethernet ⟨h.1.symm, h.2.symm, h.3.symm⟩
  | ipv4 h => exact .ipv4 ⟨h.1.symm, h.2.symm, h.3.symm, h.4.symm, h.5.symm⟩

theorem trans (h : d.SameHeader d') (h' : d'.SameHeader d'') : d.SameHeader d'' := by
  cases h with
  | ethernet h =>
    cases h' with
    | ethernet h' => exact .ethernet ⟨h'.1.trans h.1, h'.2.trans h.2, h'.3.trans h.3⟩
  | ipv4 h =>
    cases h' with
    | ipv4 h' =>
      exact .ipv4 ⟨h'.1.trans h.1, h'.2.trans h.2, h'.3.trans h.3, h'.4.trans h.4, h'.5.trans h.5⟩

end SameHeader

@[simp] theorem start_resume (d : Draft) (frame : List UInt8) : (d.resume frame).start = d.start := by
  cases d with
  | ethernet d | ipv4 d => exact Window.start_adopt ..
  | icmp d | udp d => exact Window.start_adopt ..

theorem bytes_resume {d : Draft} {frame : List UInt8} (h : frame.length = d.bytes.length) :
    (d.resume frame).bytes = frame := by
  cases d with
  | ethernet d | ipv4 d => exact Window.bytes_adopt h
  | icmp d | udp d => exact Window.bytes_adopt h

theorem sameHeader_resume {d : Draft} {frame : List UInt8} {stop : Nat} (hopens : d.Opens)
    (hchanged : Octets.ChangedWithin d.payloadStart stop d.bytes frame) :
    d.SameHeader (d.resume frame) := by
  cases d with
  | icmp | udp => exact hopens.elim
  | ethernet d =>
    refine .ethernet (Ethernet.Header.same_of_head (Window.start_adopt ..) ?_)
    have hslice : Octets.slice frame d.start 14 = Octets.slice d.bytes d.start 14 :=
      hchanged.slice_eq (.inl (Nat.le_refl _))
    change Octets.slice (d.toWindow.adopt frame).bytes (d.toWindow.adopt frame).start 14 = _
    rw [Window.bytes_adopt hchanged.length_eq, Window.start_adopt]
    exact hslice
  | ipv4 d =>
    have hlen : 20 ≤ d.header.headerLength := hopens
    have hslice {len : Nat} (hle : len ≤ d.header.headerLength) :
        Octets.slice frame d.start len = Octets.slice d.bytes d.start len :=
      hchanged.slice_eq (.inl (Nat.add_le_add_left hle _))
    have hhead : (Ipv4.Header.mk (d.toWindow.adopt frame)).head = d.header.head := by
      change Octets.slice (d.toWindow.adopt frame).bytes (d.toWindow.adopt frame).start 20 = _
      rw [Window.bytes_adopt hchanged.length_eq, Window.start_adopt]
      exact hslice hlen
    have hlength : (Ipv4.Header.mk (d.toWindow.adopt frame)).headerLength = d.header.headerLength :=
      congrArg Ipv4.Fields.headerLength (Ipv4.Header.fields_congr hhead)
    refine .ipv4 (Ipv4.Header.same_of_headerBytes (Window.start_adopt ..) hhead ?_)
    change Octets.slice (d.toWindow.adopt frame).bytes (d.toWindow.adopt frame).start
      (Ipv4.Header.mk (d.toWindow.adopt frame)).headerLength = _
    rw [Window.bytes_adopt hchanged.length_eq, Window.start_adopt, hlength]
    exact hslice (Nat.le_refl _)

theorem start_le_payloadStart (d : Draft) : d.start ≤ d.payloadStart := by
  cases d with
  | ethernet | ipv4 | icmp | udp => exact Nat.le_add_right ..

/-- What was in front of the inner draft when it was begun is still there. -/
structure Encloses (outer inner : Draft) : Prop where
  opens : outer.Opens
  payloadStart_le : outer.payloadStart ≤ inner.start
  changed : Octets.ChangedWithin outer.payloadStart outer.bytes.length outer.bytes inner.bytes

namespace Encloses

variable {outer inner inner' : Draft}

theorem length_eq (h : outer.Encloses inner) : inner.bytes.length = outer.bytes.length :=
  h.changed.length_eq

theorem changed_behind (h : outer.Encloses inner) {frame : List UInt8} {first stop : Nat}
    (hfirst : inner.start ≤ first)
    (hchanged : Octets.ChangedWithin first stop inner.bytes frame) :
    Octets.ChangedWithin outer.payloadStart outer.bytes.length outer.bytes frame := by
  have hle := h.payloadStart_le
  refine h.changed.trans (h.length_eq ▸ hchanged.upTo_length.mono ?_ (Nat.le_refl _))
  omega

theorem of_changed (h : outer.Encloses inner) {first stop : Nat} (hfirst : inner.start ≤ first)
    (hstart : inner.start ≤ inner'.start)
    (hchanged : Octets.ChangedWithin first stop inner.bytes inner'.bytes) :
    outer.Encloses inner' :=
  ⟨h.opens, Nat.le_trans h.payloadStart_le hstart, h.changed_behind hfirst hchanged⟩

theorem trans {outermost : Draft} (h : outermost.Encloses outer) (h' : outer.Encloses inner) :
    outermost.Encloses inner :=
  h.of_changed outer.start_le_payloadStart
    (Nat.le_trans outer.start_le_payloadStart h'.payloadStart_le) h'.changed

theorem sameHeader (h : outer.Encloses inner) : outer.SameHeader (outer.resume inner.bytes) :=
  sameHeader_resume h.opens h.changed

end Encloses

theorem of_next {d d' : Draft} {layer : Layer} (h : d.next layer = .ok d') :
    d.Opens ∧ d'.start = d.payloadStart ∧ d'.bytes = d.bytes := by
  have hopens {d : Ipv4.Draft} {w : Window 8} (hw : d.next = .ok w) :
      20 ≤ d.header.headerLength ∧ w.start = d.header.payloadStart ∧ w.bytes = d.bytes := by
    rw [Ipv4.Draft.next] at hw
    split at hw
    · cases hw
    · obtain ⟨hbytes, hstart⟩ := Window.place_eq_ok_iff.mp hw
      exact ⟨by omega, hstart, hbytes⟩
  unfold next at h
  split at h
  · obtain ⟨_, hd, rfl⟩ := Refusal.lift_eq_ok_iff.mp h
    obtain ⟨w, hw, rfl⟩ := Except.map_eq_ok_iff.mp hd
    obtain ⟨hbytes, hstart⟩ := Window.place_eq_ok_iff.mp hw
    exact ⟨trivial, hstart, hbytes⟩
  · obtain ⟨_, hd, rfl⟩ := Refusal.lift_eq_ok_iff.mp h
    obtain ⟨w, hw, rfl⟩ := Except.map_eq_ok_iff.mp hd
    exact hopens hw
  · obtain ⟨_, hd, rfl⟩ := Refusal.lift_eq_ok_iff.mp h
    obtain ⟨w, hw, rfl⟩ := Except.map_eq_ok_iff.mp hd
    exact hopens hw
  · cases h

theorem encloses_next {d d' : Draft} {layer : Layer} (h : d.next layer = .ok d') : d.Encloses d' := by
  obtain ⟨hopens, hstart, hbytes⟩ := of_next h
  exact ⟨hopens, Nat.le_of_eq hstart.symm, hbytes ▸ .refl ..⟩

end Draft

end PacketHeaders

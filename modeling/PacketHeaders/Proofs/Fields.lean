import PacketHeaders.Header
import PacketHeaders.Proofs.Octets

/-!
# Headers as records of their fields

What a header says depends on its fixed octets alone: two headers with the same octets have the same
fields, wherever they lie and whatever surrounds them. Writing one field of a window is invisible in
every field apart from it and outside the window.
-/

namespace PacketHeaders

namespace Window

variable {n : Nat}

theorem eq_of_span_eq {w w' : Window n} (hbytes : w.bytes = w'.bytes) (hstart : w.start = w'.start) :
    w = w' := by
  obtain ⟨⟨bytes, start⟩, room⟩ := w
  obtain ⟨⟨bytes', start'⟩, room'⟩ := w'
  obtain rfl : bytes = bytes' := hbytes
  obtain rfl : start = start' := hstart
  rfl

theorem head_eq_slice (w : Window n) : w.head = Octets.slice w.bytes w.start n := rfl

theorem octets_eq_slice_head (w : Window n) (f : Field n) :
    w.octets f = Octets.slice w.head f.pos f.width := by
  have hinside := f.inside
  apply List.ext_getElem?
  intro i
  rw [octets, head_eq_slice, Octets.getElem?_slice, Octets.getElem?_slice, Octets.getElem?_slice,
    Nat.add_assoc]
  by_cases hi : i < f.width
  · rw [if_pos hi, if_pos hi, if_pos (by omega)]
  · rw [if_neg hi, if_neg hi]

theorem bytes_adopt {w : Window n} {frame : List UInt8} (h : frame.length = w.bytes.length) :
    (w.adopt frame).bytes = frame := by
  rw [adopt, dif_pos h]

theorem octets_congr {w w' : Window n} (h : w.head = w'.head) (f : Field n) :
    w.octets f = w'.octets f := by
  rw [octets_eq_slice_head, octets_eq_slice_head, h]

theorem number_congr {w w' : Window n} (h : w.head = w'.head) (f : Field n) :
    w.number f = w'.number f := by
  rw [number, number, octets_congr h]

theorem number_lt (w : Window n) (f : Field n) : w.number f < Octets.limit f.width := by
  have hlt := Octets.toNat_lt (w.octets f)
  rwa [length_octets] at hlt

/-- What is written from position `n` on is behind the header. -/
theorem head_write_of_le (w : Window n) {pos : Nat} (h : n ≤ pos) (new : List UInt8) :
    (w.write pos new).head = w.head :=
  Octets.slice_splice_of_disjoint (Or.inl (Nat.add_le_add_left h _))

/-- Writing octets into a field is putting the number that they spell there. -/
theorem write_eq_put (w : Window n) {f : Field n} {new : List UInt8} (h : new.length = f.width) :
    w.write f.pos new = w.put f (Octets.toNat new) := by
  rw [put, ← h, Octets.ofNat_toNat]

attribute [simp] octets_put_of_apart

theorem octets_put_toNat (w : Window n) {f : Field n} {new : List UInt8}
    (h : new.length = f.width) : (w.put f (Octets.toNat new)).octets f = new := by
  rw [← w.write_eq_put h]
  exact w.octets_write_self f h

@[simp] theorem number_put_of_apart (w : Window n) {f g : Field n} (h : f.Apart g) (value : Nat) :
    (w.put f value).number g = w.number g := by
  rw [number, number, octets_put_of_apart w h]

@[simp] theorem number8_put_of_apart (w : Window n) {f g : Field n} (h : f.Apart g) (value : Nat) :
    (w.put f value).number8 g = w.number8 g := by
  rw [number8, number8, number_put_of_apart w h]

@[simp] theorem number16_put_of_apart (w : Window n) {f g : Field n} (h : f.Apart g)
    (value : Nat) : (w.put f value).number16 g = w.number16 g := by
  rw [number16, number16, number_put_of_apart w h]

@[simp] theorem number8_put_self (w : Window n) {f : Field n} (h : f.width = 1) (value : UInt8) :
    (w.put f value.toNat).number8 f = value := by
  have hlt : value.toNat < Octets.limit 1 := value.toNat_lt
  rw [number8, number_put_self, h, Nat.mod_eq_of_lt hlt, UInt8.ofNat_toNat]

@[simp] theorem number16_put_self (w : Window n) {f : Field n} (h : f.width = 2)
    (value : UInt16) : (w.put f value.toNat).number16 f = value := by
  have hlt : value.toNat < Octets.limit 2 := value.toNat_lt
  rw [number16, number_put_self, h, Nat.mod_eq_of_lt hlt, UInt16.ofNat_toNat]

/-- The same place in a frame that was changed only in its first `len` octets from there on. -/
structure Rewritten (len : Nat) (w w' : Window n) : Prop where
  start_eq : w'.start = w.start
  changed : Octets.ChangedWithin w.start (w.start + len) w.bytes w'.bytes

namespace Rewritten

variable {len : Nat} {w w' w'' : Window n}

theorem refl (len : Nat) (w : Window n) : Rewritten len w w := ⟨rfl, .refl ..⟩

theorem trans (h₁ : Rewritten len w w') (h₂ : Rewritten len w' w'') : Rewritten len w w'' where
  start_eq := h₂.start_eq.trans h₁.start_eq
  changed := h₁.changed.trans (h₁.start_eq ▸ h₂.changed)

theorem length_eq (h : Rewritten len w w') : w'.bytes.length = w.bytes.length :=
  h.changed.length_eq

theorem mono {len' : Nat} (h : Rewritten len w w') (hlen : len ≤ len') : Rewritten len' w w' where
  start_eq := h.start_eq
  changed := h.changed.mono (Nat.le_refl _) (Nat.add_le_add_left hlen _)

theorem write (w : Window n) {pos : Nat} {new : List UInt8} (h : pos + new.length ≤ len) :
    Rewritten len w (w.write pos new) where
  start_eq := rfl
  changed := (Octets.ChangedWithin.splice ..).mono (Nat.le_add_right ..) (by omega)

theorem put (w : Window n) (f : Field n) (value : Nat) : Rewritten n w (w.put f value) :=
  write w (by rw [Octets.length_ofNat]; exact f.inside)

end Rewritten

end Window

namespace Ethernet.Header

theorem fields_mk (w : Window 14) : (⟨w⟩ : Header).fields =
    { destination := ⟨w.octets Layout.destination, w.length_octets _⟩
      source := ⟨w.octets Layout.source, w.length_octets _⟩
      etherType := w.number16 Layout.etherType } := rfl

theorem fields_congr {h h' : Header} (hh : h.head = h'.head) : h.fields = h'.fields := by
  simp only [fields, destination, source, etherType, Window.number16, Window.octets_congr hh,
    Window.number_congr hh]

end Ethernet.Header

namespace Ipv4.Header

theorem fields_mk (w : Window 20) : (⟨w⟩ : Header).fields =
    { version := .ofNat (w.number Layout.versionAndLength / 16)
      lengthInWords := .ofNat (w.number Layout.versionAndLength % 16)
      typeOfService := w.number8 Layout.typeOfService
      totalLength := w.number16 Layout.totalLength
      id := w.number16 Layout.id
      flags := .ofBits (.ofNat (w.number Layout.fragment / 8192))
      fragmentOffset := .ofNat (w.number Layout.fragment % 8192)
      ttl := w.number8 Layout.ttl
      protocolNumber := w.number8 Layout.protocol
      checksum := w.number16 Layout.checksum
      source := ⟨w.octets Layout.source, w.length_octets _⟩
      destination := ⟨w.octets Layout.destination, w.length_octets _⟩ } := rfl

theorem fields_congr {h h' : Header} (hh : h.head = h'.head) : h.fields = h'.fields := by
  simp only [fields, version, lengthInWords, typeOfService, totalLength, id, flags, fragmentOffset,
    ttl, protocolNumber, checksum, source, destination, Window.number8, Window.number16,
    Window.octets_congr hh, Window.number_congr hh]

end Ipv4.Header

namespace Icmp.Header

theorem fields_mk (w : Window 8) : (⟨w⟩ : Header).fields =
    { typeNumber := w.number8 Layout.type
      codeNumber := w.number8 Layout.code
      checksum := w.number16 Layout.checksum
      id := w.number16 Layout.id
      sequenceNumber := w.number16 Layout.sequenceNumber } := rfl

theorem fields_congr {h h' : Header} (hh : h.head = h'.head) : h.fields = h'.fields := by
  simp only [fields, typeNumber, codeNumber, checksum, id, sequenceNumber, Window.number8,
    Window.number16, Window.number_congr hh]

end Icmp.Header

namespace Udp.Header

theorem fields_mk (w : Window 8) : (⟨w⟩ : Header).fields =
    { sourcePort := w.number16 Layout.sourcePort
      destinationPort := w.number16 Layout.destinationPort
      length := w.number16 Layout.length
      checksum := w.number16 Layout.checksum } := rfl

theorem fields_congr {h h' : Header} (hh : h.head = h'.head) : h.fields = h'.fields := by
  simp only [fields, sourcePort, destinationPort, length, checksum, Window.number16,
    Window.number_congr hh]

end Udp.Header

namespace Arp.Header

theorem fields_congr {h h' : Header} (hh : h.head = h'.head) : h.fields = h'.fields := by
  simp only [fields, hardwareType, protocolType, hardwareLength, protocolLength, operation,
    senderMac, senderIp, targetMac, targetIp, Window.number8, Window.number16,
    Window.octets_congr hh, Window.number_congr hh]

end Arp.Header

namespace Tcp.Header

theorem fields_congr {h h' : Header} (hh : h.head = h'.head) : h.fields = h'.fields := by
  simp only [fields, sourcePort, destinationPort, sequenceNumber, acknowledgmentNumber, dataOffset,
    flags, windowSize, checksum, urgentPointer, Window.number8, Window.number16, Window.number32,
    Window.number_congr hh]

end Tcp.Header

end PacketHeaders

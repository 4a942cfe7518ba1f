import PacketHeaders.Proofs.Records.Ipv4

/-!
# Layouts without gaps

The fields of a header lie end to end, so its octets are those of one field after the other, and no
octet escapes the record of the fields: two headers with the same record have the same octets.
-/

namespace PacketHeaders

/-- The fields lie end to end from `pos` up to the end of the header. -/
def Field.Tile {n : Nat} : Nat → List (Field n) → Prop
  | pos, [] => pos = n
  | pos, f :: fs => f.pos = pos ∧ Tile (pos + f.width) fs

namespace Window

variable {n : Nat} {w w' : Window n} {f : Field n} {fs : List (Field n)}

theorem drop_head_eq_flatMap (w : Window n) {pos : Nat} (h : Field.Tile pos fs) :
    w.head.drop pos = fs.flatMap w.octets := by
  induction fs generalizing pos with
  | nil =>
    obtain rfl : pos = n := h
    exact List.drop_eq_nil_of_le (List.length_take_le ..)
  | cons f fs ih =>
    obtain ⟨rfl, hrest⟩ := h
    have hfirst : w.octets f = (w.head.drop f.pos).take f.width := w.octets_eq_slice_head f
    rw [List.flatMap_cons, ← ih hrest, hfirst, ← List.drop_drop, List.take_append_drop]

/-- The octets of a header are those of its fields in their order. -/
theorem head_eq_flatMap (w : Window n) (h : Field.Tile 0 fs) : w.head = fs.flatMap w.octets := by
  rw [← w.drop_head_eq_flatMap h, List.drop_zero]

theorem head_congr (htile : Field.Tile 0 fs) (h : ∀ f ∈ fs, w.octets f = w'.octets f) :
    w.head = w'.head := by
  rw [w.head_eq_flatMap htile, w'.head_eq_flatMap htile, List.flatMap_def, List.flatMap_def,
    List.map_congr_left h]

theorem octets_of_number (h : w.number f = w'.number f) : w.octets f = w'.octets f := by
  have hspelled (w : Window n) : w.octets f = Octets.ofNat f.width (w.number f) := by
    rw [number, ← w.length_octets f, Octets.ofNat_toNat]
  rw [hspelled, hspelled, h]

theorem octets_of_number8 (hwidth : f.width = 1) (h : w.number8 f = w'.number8 f) :
    w.octets f = w'.octets f := by
  apply octets_of_number
  rw [number_eq_octetAt _ _ hwidth, number_eq_octetAt _ _ hwidth, ← toNat_number8 _ _ hwidth,
    ← toNat_number8 _ _ hwidth, h]

theorem octets_of_number16 (hwidth : f.width = 2) (h : w.number16 f = w'.number16 f) :
    w.octets f = w'.octets f := by
  apply octets_of_number
  rw [number_eq_wordAt _ _ hwidth, number_eq_wordAt _ _ hwidth, ← toNat_number16 _ _ hwidth,
    ← toNat_number16 _ _ hwidth, h]

end Window

open Window

namespace Ethernet

theorem Layout.tile : Field.Tile 0 [destination, source, etherType] :=
  ⟨rfl, rfl, rfl, rfl⟩

theorem Header.head_of_fields {h h' : Header} (hf : h.fields = h'.fields) : h.head = h'.head := by
  refine head_congr Layout.tile ?_
  simp only [List.forall_mem_cons]
  refine ⟨?_, ?_, ?_, nofun⟩
  · exact congrArg (·.destination.octets) hf
  · exact congrArg (·.source.octets) hf
  · exact octets_of_number16 rfl (congrArg Fields.etherType hf)

end Ethernet

/-- Three bits are kept by the flags that they stand for. -/
theorem Ipv4Flags.toNat_bits_ofBits {n : Nat} (h : n < 8) : (ofBits (.ofNat n)).bits.toNat = n := by
  revert n
  decide

namespace Ipv4

theorem Layout.tile : Field.Tile 0 [versionAndLength, typeOfService, totalLength, id, fragment, ttl,
    protocol, checksum, source, destination] :=
  ⟨rfl, rfl, rfl, rfl, rfl, rfl, rfl, rfl, rfl, rfl, rfl⟩

namespace Header

variable {h h' : Header}

/-- Version and header length are the two halves of their octet. -/
theorem number_versionAndLength (h : Header) :
    h.number Layout.versionAndLength = 16 * h.version.toNat + h.lengthInWords.toNat := by
  have hlt : h.number Layout.versionAndLength < 256 := h.number_lt _
  rw [version, lengthInWords, UInt8.toNat_ofNat', UInt8.toNat_ofNat']
  omega

/-- The flags are the top three bits of their word. -/
theorem number_fragment (h : Header) :
    h.number Layout.fragment = 8192 * h.flags.bits.toNat + h.fragmentOffset.toNat := by
  have hlt : h.number Layout.fragment < 65536 := h.number_lt _
  have hflags : h.flags.bits.toNat = h.number Layout.fragment / 8192 :=
    Ipv4Flags.toNat_bits_ofBits (by omega)
  rw [hflags, fragmentOffset, UInt16.toNat_ofNat']
  omega

theorem head_of_fields (hf : h.fields = h'.fields) : h.head = h'.head := by
  refine head_congr Layout.tile ?_
  simp only [List.forall_mem_cons]
  refine ⟨?_, ?_, ?_, ?_, ?_, ?_, ?_, ?_, ?_, ?_, nofun⟩
  · have hversion : h.version = h'.version := congrArg Fields.version hf
    have hlength : h.lengthInWords = h'.lengthInWords := congrArg Fields.lengthInWords hf
    apply octets_of_number
    rw [number_versionAndLength, hversion, hlength, ← number_versionAndLength]
  · exact octets_of_number8 rfl (congrArg Fields.typeOfService hf)
  · exact octets_of_number16 rfl (congrArg Fields.totalLength hf)
  · exact octets_of_number16 rfl (congrArg Fields.id hf)
  · have hflags : h.flags = h'.flags := congrArg Fields.flags hf
    have hoffset : h.fragmentOffset = h'.fragmentOffset := congrArg Fields.fragmentOffset hf
    apply octets_of_number
    rw [number_fragment, hflags, hoffset, ← number_fragment]
  · exact octets_of_number8 rfl (congrArg Fields.ttl hf)
  · exact octets_of_number8 rfl (congrArg Fields.protocolNumber hf)
  · exact octets_of_number16 rfl (congrArg Fields.checksum hf)
  · exact congrArg (·.source.octets) hf
  · exact congrArg (·.destination.octets) hf

end Header

end Ipv4

namespace Icmp

theorem Layout.tile : Field.Tile 0 [type, code, checksum, id, sequenceNumber] :=
  ⟨rfl, rfl, rfl, rfl, rfl, rfl⟩

theorem Header.head_of_fields {h h' : Header} (hf : h.fields = h'.fields) : h.head = h'.head := by
  refine head_congr Layout.tile ?_
  simp only [List.forall_mem_cons]
  refine ⟨?_, ?_, ?_, ?_, ?_, nofun⟩
  · exact octets_of_number8 rfl (congrArg Fields.typeNumber hf)
  · exact octets_of_number8 rfl (congrArg Fields.codeNumber hf)
  · exact octets_of_number16 rfl (congrArg Fields.checksum hf)
  · exact octets_of_number16 rfl (congrArg Fields.id hf)
  · exact octets_of_number16 rfl (congrArg Fields.sequenceNumber hf)

end Icmp

namespace Udp

theorem Layout.tile : Field.Tile 0 [sourcePort, destinationPort, length, checksum] :=
  ⟨rfl, rfl, rfl, rfl, rfl⟩

theorem Header.head_of_fields {h h' : Header} (hf : h.fields = h'.fields) : h.head = h'.head := by
  refine head_congr Layout.tile ?_
  simp only [List.forall_mem_cons]
  refine ⟨?_, ?_, ?_, ?_, nofun⟩
  · exact octets_of_number16 rfl (congrArg Fields.sourcePort hf)
  · exact octets_of_number16 rfl (congrArg Fields.destinationPort hf)
  · exact octets_of_number16 rfl (congrArg Fields.length hf)
  · exact octets_of_number16 rfl (congrArg Fields.checksum hf)

end Udp

end PacketHeaders

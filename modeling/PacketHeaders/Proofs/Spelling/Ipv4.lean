import PacketHeaders.Proofs.Records.Ipv4
import PacketHeaders.Proofs.Spelling.Digits

/-!
# Texts that spell IPv4 addresses

An address has one text, four numbers below 256 with dots between them and each as numbers are
usually written. That text is read as the address and no other text is read at all, by itself or for
a field of an IPv4 header.
-/

namespace PacketHeaders

namespace Ipv4Address

theorem octets_ne_nil (a : Ipv4Address) : a.octets ≠ [] :=
  List.ne_nil_of_length_eq_add_one a.length_octets

theorem ofOctets?_eq_some_iff {octets : List UInt8} {a : Ipv4Address} :
    ofOctets? octets = some a ↔ octets = a.octets := by
  have hlength := a.length_octets
  unfold ofOctets?
  constructor
  · intro h
    split at h
    · cases h
      rfl
    · cases h
  · rintro rfl
    rw [dif_pos hlength]

theorem ofText?_eq_some_iff_mapM {text : String} {a : Ipv4Address} :
    ofText? text = some a ↔
      (text.toList.splitOn '.').mapM Decimal.octet? = some a.octets := by
  unfold ofText?
  split
  · next octets hread => rw [hread, ofOctets?_eq_some_iff, Option.some.injEq]
  · next hread => simp [hread]

/-- A text is read as the address whose written form it is. -/
theorem ofText?_eq_some_iff {text : String} {a : Ipv4Address} :
    ofText? text = some a ↔ text = a.text := by
  rw [ofText?_eq_some_iff_mapM, Decimal.spelled.mapM_splitOn_eq_some_iff a.octets_ne_nil, List.map_id,
    String.ext_iff, Ipv4Address.text, String.toList_ofList]

/-- Four numbers with a dot between any two of them. -/
def quad (w x y z : UInt8) : String := s!"{w}.{x}.{y}.{z}"

theorem toList_quad (w x y z : UInt8) : (quad w x y z).toList =
    ['.'].intercalate ([w, x, y, z].map Decimal.ofOctet) := by
  have hoctet (b : UInt8) : (toString b).toList = Decimal.ofOctet b := by
    rw [Decimal.ofOctet_eq_toDigits]
    exact Nat.toList_repr
  have hdot : (toString ".").toList = ['.'] := rfl
  simp only [quad, String.toList_append, hoctet, hdot, List.append_assoc, List.cons_append,
    List.nil_append, List.map_cons, List.map_nil, List.intercalate_cons_cons,
    List.intercalate_singleton]

theorem text_eq_quad {a : Ipv4Address} {w x y z : UInt8} (h : a.octets = [w, x, y, z]) :
    a.text = quad w x y z := by
  rw [Ipv4Address.text, h, ← toList_quad, String.ofList_toList]

theorem exists_octets_eq : ∀ a : Ipv4Address, ∃ w x y z, a.octets = [w, x, y, z]
  | ⟨[w, x, y, z], _⟩ => ⟨w, x, y, z, rfl⟩

/-- The texts that are read at all. -/
theorem exists_ofText?_iff {text : String} :
    (∃ a, ofText? text = some a) ↔ ∃ w x y z, text = quad w x y z := by
  simp only [ofText?_eq_some_iff]
  constructor
  · rintro ⟨a, rfl⟩
    obtain ⟨w, x, y, z, hoctets⟩ := a.exists_octets_eq
    exact ⟨w, x, y, z, text_eq_quad hoctets⟩
  · rintro ⟨w, x, y, z, rfl⟩
    exact ⟨⟨[w, x, y, z], rfl⟩, (text_eq_quad rfl).symm⟩

end Ipv4Address

namespace Ipv4.Draft

variable (d : Draft)

theorem answers_setAddressText (f : Field 20) (field text : String) :
    Answers (fun a : Ipv4Address => text = a.text) (fun a => .ok () (d.setAddress f a))
      (.error (badAddress field text) d) (d.setAddressText f field text) := by
  refine .of_read (fun _ => Ipv4Address.ofText?_eq_some_iff) ?_
  rw [setAddressText_eq]
  cases Ipv4Address.ofText? text <;> rfl

theorem changed_setAddress (f : Field 20) (a : Ipv4Address) :
    Octets.ChangedWithin (d.start + f.pos) (d.start + f.pos + 4) d.bytes
      (d.setAddress f a).bytes := by
  have hchanged := Octets.ChangedWithin.splice d.bytes (d.start + f.pos) a.octets
  rwa [a.length_octets] at hchanged

end Ipv4.Draft

/-- IPv4 addresses are read from their written forms and from nothing else. A field of an IPv4
header takes the same texts; it then holds the address, and nothing else is touched. -/
theorem ipv4_texts_read_exactly (text : String) (a : Ipv4Address) (d : Ipv4.Draft) :
    (Ipv4Address.ofText? text = some a ↔ text = a.text) ∧
      (Ipv4Address.ofText? text = some a ↔
        ∃ w x y z, a.octets = [w, x, y, z] ∧ text = Ipv4Address.quad w x y z) ∧
      ((∃ b, Ipv4Address.ofText? text = some b) ↔ ∃ w x y z, text = Ipv4Address.quad w x y z) ∧
      Ipv4Address.ofText? a.text = some a ∧
      (∀ b ∈ Ipv4Address.ofText? text, b.text = text) ∧
      Answers (fun b : Ipv4Address => text = b.text) (fun b => .ok () (d.setSource b))
        (.error (Ipv4.badAddress "source" text) d) (d.setSourceText text) ∧
      Answers (fun b : Ipv4Address => text = b.text) (fun b => .ok () (d.setDestination b))
        (.error (Ipv4.badAddress "destination" text) d) (d.setDestinationText text) ∧
      ((d.setSource a).header.fields = { d.header.fields with source := a } ∧
        Octets.ChangedWithin (d.start + 12) (d.start + 16) d.bytes (d.setSource a).bytes) ∧
      (d.setDestination a).header.fields = { d.header.fields with destination := a } ∧
        Octets.ChangedWithin (d.start + 16) (d.start + 20) d.bytes (d.setDestination a).bytes := by
  refine ⟨Ipv4Address.ofText?_eq_some_iff, ?quads, Ipv4Address.exists_ofText?_iff,
    Ipv4Address.ofText?_eq_some_iff.mpr rfl, ?written, d.answers_setAddressText _ _ text,
    d.answers_setAddressText _ _ text,
    ⟨(d.agrees_edit (.source a)).record_eq, d.changed_setAddress Ipv4.Layout.source a⟩,
    (d.agrees_edit (.destination a)).record_eq, d.changed_setAddress Ipv4.Layout.destination a⟩
  case quads =>
    rw [Ipv4Address.ofText?_eq_some_iff]
    constructor
    · rintro rfl
      obtain ⟨w, x, y, z, hoctets⟩ := a.exists_octets_eq
      exact ⟨w, x, y, z, hoctets, Ipv4Address.text_eq_quad hoctets⟩
    · rintro ⟨w, x, y, z, hoctets, rfl⟩
      exact (Ipv4Address.text_eq_quad hoctets).symm
  case written =>
    intro b hread
    exact (Ipv4Address.ofText?_eq_some_iff.mp hread).symm

end PacketHeaders

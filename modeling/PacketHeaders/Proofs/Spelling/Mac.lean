import PacketHeaders.Proofs.Records.Ethernet
import PacketHeaders.Proofs.Spelling.Digits

/-!
# Texts that spell MAC addresses

A text spells a MAC address when in small letters it is the written form of the address: six groups
of two hexadecimal digits of either case with single colons between them. No other text is read, by
itself or for a field of an Ethernet header, and what is stored is the address that was spelled.
-/

namespace PacketHeaders

namespace MacAddress

theorem octets_ne_nil (m : MacAddress) : m.octets ≠ [] :=
  List.ne_nil_of_length_eq_add_one m.length_octets

theorem ofText?_eq_some_iff_mapM {text : String} {m : MacAddress} :
    ofText? text = some m ↔
      (text.toList.splitOn ':').mapM Hex.octet? = some m.octets := by
  have hlength := m.length_octets
  unfold ofText?
  split
  · next octets hread =>
    rw [hread, Option.some.injEq]
    constructor
    · intro h
      split at h
      · cases h
        rfl
      · cases h
    · rintro rfl
      rw [dif_pos hlength]
  · next hread => simp [hread]

/-- A text is read as the address whose written form it is, but for capitals. -/
theorem ofText?_eq_some_iff {text : String} {m : MacAddress} :
    ofText? text = some m ↔ text.toLower = m.text := by
  have hlower : text.toLower.toList = text.toList.map Char.toLower := String.toList_map
  rw [ofText?_eq_some_iff_mapM, Hex.spelled.mapM_splitOn_eq_some_iff m.octets_ne_nil, String.ext_iff,
    hlower, MacAddress.text, String.toList_ofList]

theorem ofText?_text (m : MacAddress) : ofText? m.text = some m := by
  rw [ofText?_eq_some_iff_mapM, MacAddress.text, String.toList_ofList]
  exact Hex.spelled.mapM_splitOn_intercalate m.octets_ne_nil

/-- Six groups of two digits with a colon between any two of them. -/
def Grouped (text : String) : Prop :=
  ∃ groups : List (List Char), groups.length = 6 ∧
    (∀ group ∈ groups, group.length = 2 ∧ ∀ c ∈ group, Hex.IsDigit c) ∧
    text.toList = [':'].intercalate groups

/-- Twelve digits and five colons. -/
theorem Grouped.length_eq {text : String} (h : Grouped text) : text.length = 17 := by
  obtain ⟨groups, hsix, hpairs, htext⟩ := h
  have hne : groups ≠ [] := List.ne_nil_of_length_eq_add_one hsix
  have hlength : ([':'].intercalate groups).length + 1 = groups.length * 3 :=
    Groups.length_intercalate hne fun group hgroup => (hpairs group hgroup).1
  rw [← htext, String.length_toList, hsix] at hlength
  omega

/-- The texts that are read at all. -/
theorem exists_ofText?_iff {text : String} : (∃ m, ofText? text = some m) ↔ Grouped text := by
  simp only [ofText?_eq_some_iff_mapM]
  constructor
  · rintro ⟨m, hread⟩
    refine ⟨text.toList.splitOn ':', ?_, ?_, (List.intercalate_splitOn ':').symm⟩
    · rw [Hex.spelled.length_eq hread, m.length_octets]
    · intro group hgroup
      exact Hex.exists_octet?_iff.mp (Groups.exists_mapM_iff.mp ⟨_, hread⟩ group hgroup)
  · rintro ⟨groups, hsix, hpairs, htext⟩
    have hne : groups ≠ [] := List.ne_nil_of_length_eq_add_one hsix
    have hsplit : text.toList.splitOn ':' = groups :=
      (Groups.splitOn_eq_iff hne fun group hgroup hcolon =>
        Hex.not_isDigit_colon ((hpairs group hgroup).2 _ hcolon)).mpr htext
    obtain ⟨octets, hread⟩ := Groups.exists_mapM_iff.mpr fun group hgroup =>
      Hex.exists_octet?_iff.mpr (hpairs group hgroup)
    have hlength : octets.length = 6 := (Hex.spelled.length_eq hread).symm.trans hsix
    exact ⟨⟨octets, hlength⟩, by rw [hsplit, hread]⟩

theorem answers_ofText (text : String) :
    Answers (fun m => text.toLower = m.text) .ok
      (.error (.format ("invalid mac-address \"" ++ text ++ "\""))) (ofText text) := by
  refine .of_read (fun _ => ofText?_eq_some_iff) ?_
  unfold ofText
  cases ofText? text <;> rfl

end MacAddress

namespace Ethernet.Draft

variable (d : Draft)

theorem answers_setAddressText (f : Field 14) (field text : String) :
    Answers (fun m : MacAddress => text.toLower = m.text) (fun m => .ok () (d.setAddress f m))
      (.error (badAddress field text) d) (d.setAddressText f field text) := by
  refine .of_read (fun _ => MacAddress.ofText?_eq_some_iff) ?_
  rw [setAddressText_eq]
  cases MacAddress.ofText? text <;> rfl

theorem changed_setAddress (f : Field 14) (m : MacAddress) :
    Octets.ChangedWithin (d.start + f.pos) (d.start + f.pos + 6) d.bytes
      (d.setAddress f m).bytes := by
  have hchanged := Octets.ChangedWithin.splice d.bytes (d.start + f.pos) m.octets
  rwa [m.length_octets] at hchanged

end Ethernet.Draft

/-- MAC addresses are read from their written forms, in either case and from nothing else. A field
of an Ethernet header takes the same texts; it then holds the address, and nothing else is
touched. -/
theorem mac_texts_read_exactly (text : String) (m : MacAddress) (d : Ethernet.Draft) :
    (MacAddress.ofText? text = some m ↔ text.toLower = m.text) ∧
      ((∃ a, MacAddress.ofText? text = some a) ↔ text.length = 17 ∧ MacAddress.Grouped text) ∧
      MacAddress.ofText? m.text = some m ∧
      (∀ a ∈ MacAddress.ofText? text, a.text = text.toLower) ∧
      Answers (fun a => text.toLower = a.text) .ok
        (.error (.format ("invalid mac-address \"" ++ text ++ "\""))) (MacAddress.ofText text) ∧
      Answers (fun a : MacAddress => text.toLower = a.text) (fun a => .ok () (d.setSource a))
        (.error (Ethernet.badAddress "source" text) d) (d.setSourceText text) ∧
      Answers (fun a : MacAddress => text.toLower = a.text) (fun a => .ok () (d.setDestination a))
        (.error (Ethernet.badAddress "destination" text) d) (d.setDestinationText text) ∧
      ((d.setSource m).header.fields = { d.header.fields with source := m } ∧
        Octets.ChangedWithin (d.start + 6) (d.start + 12) d.bytes (d.setSource m).bytes) ∧
      (d.setDestination m).header.fields = { d.header.fields with destination := m } ∧
        Octets.ChangedWithin d.start (d.start + 6) d.bytes (d.setDestination m).bytes := by
  refine ⟨MacAddress.ofText?_eq_some_iff, ?accepted, m.ofText?_text, ?lowered,
    MacAddress.answers_ofText text, d.answers_setAddressText _ _ text,
    d.answers_setAddressText _ _ text,
    ⟨(d.agrees_edit (.source m)).record_eq, d.changed_setAddress Ethernet.Layout.source m⟩,
    (d.agrees_edit (.destination m)).record_eq, d.changed_setAddress Ethernet.Layout.destination m⟩
  case accepted =>
    rw [MacAddress.exists_ofText?_iff]
    exact ⟨fun h => ⟨h.length_eq, h⟩, And.right⟩
  case lowered =>
    intro a hread
    exact (MacAddress.ofText?_eq_some_iff.mp hread).symm

end PacketHeaders

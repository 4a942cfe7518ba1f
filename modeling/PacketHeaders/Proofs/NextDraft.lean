import PacketHeaders.Draft.Ethernet
import PacketHeaders.Proofs.NextHeader

/-!
# Where the next draft begins

A draft and the header that it shows look for what follows in ways of their own: the draft may go on
to the end of the frame, the header only to the end of the datagram. They part exactly when eight
octets behind the header fit into the frame but not into the total length that the header states.
Whatever the header finds, the draft finds at the same place.
-/

namespace PacketHeaders

namespace Ethernet

theorem map_header_place (bytes : List UInt8) (start : Nat) :
    (Draft.place bytes start).map Draft.header = Header.place bytes start := by
  rw [Draft.place, Header.place]
  cases Window.place bytes start 14 <;> rfl

theorem Draft.map_header_ipv4 (d : Draft) : d.ipv4.map Ipv4.Draft.header = d.header.ipv4 := by
  change Except.map _ ((d.child 14 20).map _) = (d.child 14 20).map _
  cases d.child 14 20 <;> rfl

/-- The first two drafts in a frame show the first two headers, or meet the same fault. -/
theorem map_header_place_ipv4 (bytes : List UInt8) (start : Nat) :
    (Draft.place bytes start >>= Draft.ipv4).map Ipv4.Draft.header =
      Header.place bytes start >>= Header.ipv4 := by
  rw [← map_header_place]
  cases Draft.place bytes start with
  | error fault => rfl
  | ok d => exact d.map_header_ipv4

end Ethernet

namespace Ipv4

theorem map_header_place (bytes : List UInt8) (start : Nat) :
    (Draft.place bytes start).map Draft.header = Header.place bytes start := by
  rw [Draft.place, Header.place]
  cases Window.place bytes start 20 <;> rfl

namespace Header

variable {h : Header}

/-- The total length covers the header but leaves fewer than eight octets behind it. -/
def CutShort (h : Header) : Prop :=
  h.headerLength ≤ h.totalLength.toNat ∧ h.totalLength.toNat ≤ h.headerLength + 7

theorem cutShort_iff (hroom : h.payloadStart + 8 ≤ h.bytes.length) :
    h.CutShort ↔ h.datagramEnd < h.payloadStart + 8 := by
  rw [payloadStart] at hroom ⊢
  rw [CutShort, datagramEnd]
  split <;> omega

theorem CutShort.datagramEnd_eq (hcut : h.CutShort)
    (hroom : h.payloadStart + 8 ≤ h.bytes.length) :
    h.datagramEnd = h.start + h.totalLength.toNat := by
  obtain ⟨hcovers, hshort⟩ := hcut
  rw [payloadStart] at hroom
  rw [datagramEnd, if_neg (Nat.not_lt_of_le hcovers), Nat.min_eq_left (by omega)]

/-- How the place where a draft begins the next one compares with the place where the header of the
draft finds the next one. -/
structure LeadsAlike (h : Header) (built found : Except Fault Nat) : Prop where
  short : h.lengthInWords.toNat < 5 →
    built = .error (shortLength h.headerLength) ∧ found = .error (shortLength h.headerLength)
  built_of_found : ∀ start, found = .ok start → built = .ok start
  part_iff : ((∃ start, built = .ok start) ∧ ∃ fault, found = .error fault) ↔
    5 ≤ h.lengthInWords.toNat ∧ h.start + h.headerLength + 8 ≤ h.bytes.length ∧ h.CutShort
  bounds : (∃ start, built = .ok start) → ∀ fault, found = .error fault →
    fault = .bounds h.payloadStart 8 (h.totalLength.toNat - h.headerLength)

theorem next_map_start (h : Header) (n : Nat) :
    (h.next n).map (·.start) =
      if h.headerLength < 20 then .error (shortLength h.headerLength)
      else if h.payloadStart + n ≤ h.datagramEnd then .ok h.payloadStart
      else .error (.bounds h.payloadStart n (h.datagramEnd - h.payloadStart)) := by
  have hspan := congrArg (Except.map Span.start) (h.next_map_toSpan n)
  have hmap : ((h.next n).map (·.toSpan)).map Span.start = (h.next n).map (·.start) := by
    cases h.next n <;> rfl
  rw [hmap] at hspan
  rw [hspan]
  split
  · rfl
  · split <;> rfl

end Header

namespace Draft

variable (d : Draft)

theorem next_map_start :
    d.next.map (·.start) =
      if d.header.headerLength < 20 then .error (shortLength d.header.headerLength)
      else if d.header.payloadStart + 8 ≤ d.bytes.length then .ok d.header.payloadStart
      else .error (.bounds d.header.payloadStart 8 (d.bytes.length - d.header.payloadStart)) := by
  rw [next]
  split
  · rfl
  · change (Window.place d.bytes d.header.payloadStart 8).map _ = _
    by_cases hroom : d.header.payloadStart + 8 ≤ d.bytes.length
    · rw [Window.place_of_le hroom, if_pos hroom]
      rfl
    · rw [Window.place_of_lt (Nat.lt_of_not_le hroom), if_neg hroom]
      rfl

theorem leadsAlike_next :
    d.header.LeadsAlike (d.next.map (·.start)) ((d.header.next 8).map (·.start)) := by
  have hlength : d.header.headerLength = 4 * d.header.lengthInWords.toNat := rfl
  have hplace : d.header.payloadStart = d.header.start + d.header.headerLength := rfl
  have hbytes : d.header.bytes = d.bytes := rfl
  have hend := d.header.datagramEnd_le
  rw [d.next_map_start, d.header.next_map_start]
  by_cases hshort : d.header.headerLength < 20
  · rw [if_pos hshort, if_pos hshort]
    refine ⟨fun _ => ⟨rfl, rfl⟩, nofun, ?_, nofun⟩
    exact iff_of_false (fun h => nomatch h.1) (by omega)
  · rw [if_neg hshort, if_neg hshort]
    by_cases hroom : d.header.payloadStart + 8 ≤ d.bytes.length
    · have hcut := Header.cutShort_iff (h := d.header) hroom
      rw [if_pos hroom]
      by_cases hinside : d.header.payloadStart + 8 ≤ d.header.datagramEnd
      · rw [if_pos hinside]
        refine ⟨by omega, fun _ h => h, ?_, nofun⟩
        refine iff_of_false (fun h => nomatch h.2) ?_
        rintro ⟨-, -, h⟩
        exact absurd (hcut.mp h) (Nat.not_lt_of_le hinside)
      · -- The frame has room and the datagram has none: only here the two part.
        have hshortened := hcut.mpr (Nat.lt_of_not_le hinside)
        rw [if_neg hinside]
        refine ⟨by omega, nofun, ?_, ?_⟩
        · exact iff_of_true ⟨⟨_, rfl⟩, ⟨_, rfl⟩⟩ ⟨by omega, hroom, hshortened⟩
        · rintro - _ ⟨⟩
          rw [hshortened.datagramEnd_eq hroom, hplace, Nat.add_sub_add_left]
    · have houtside : ¬d.header.payloadStart + 8 ≤ d.header.datagramEnd := by
        rw [hbytes] at hend
        omega
      rw [if_neg hroom, if_neg houtside]
      refine ⟨by omega, nofun, ?_, nofun⟩
      refine iff_of_false (fun h => nomatch h.1) ?_
      rintro ⟨-, h, -⟩
      exact hroom h

theorem leadsAlike_map {α β : Type} {ofDraft : Window 8 → α} {ofHeader : Window 8 → β}
    {start : α → Nat} {start' : β → Nat} (hdraft : ∀ w, start (ofDraft w) = w.start)
    (hheader : ∀ w, start' (ofHeader w) = w.start) :
    d.header.LeadsAlike ((d.next.map ofDraft).map start)
      (((d.header.next 8).map ofHeader).map start') := by
  have hbuilt : (d.next.map ofDraft).map start = d.next.map (·.start) := by
    cases d.next with
    | error fault => rfl
    | ok w => exact congrArg Except.ok (hdraft w)
  have hfound : ((d.header.next 8).map ofHeader).map start' = (d.header.next 8).map (·.start) := by
    cases d.header.next 8 with
    | error fault => rfl
    | ok w => exact congrArg Except.ok (hheader w)
  rw [hbuilt, hfound]
  exact d.leadsAlike_next

end Draft

end Ipv4

/-- Drafts and headers lead on to the same places: behind Ethernet always, behind IPv4 unless the
stated total length cuts the datagram short. -/
theorem drafts_lead_where_headers_lead :
    (∀ bytes start, (Ethernet.Draft.place bytes start).map (·.header) =
        Ethernet.Header.place bytes start ∧
      (Ethernet.Draft.place bytes start >>= Ethernet.Draft.ipv4).map (·.header) =
        Ethernet.Header.place bytes start >>= Ethernet.Header.ipv4) ∧
    (∀ d : Ethernet.Draft, d.ipv4.map (·.header) = d.header.ipv4) ∧
    (∀ bytes start, (Ipv4.Draft.place bytes start).map (·.header) =
      Ipv4.Header.place bytes start) ∧
    ∀ d : Ipv4.Draft,
      d.header.LeadsAlike (d.icmp.map (·.start)) (d.header.icmp.map (·.start)) ∧
      d.header.LeadsAlike (d.udp.map (·.start)) (d.header.udp.map (·.start)) := by
  refine ⟨fun bytes start => ⟨?_, ?_⟩, Ethernet.Draft.map_header_ipv4, Ipv4.map_header_place,
    fun d => ⟨?_, ?_⟩⟩
  · exact Ethernet.map_header_place bytes start
  · exact Ethernet.map_header_place_ipv4 bytes start
  · exact d.leadsAlike_map (fun _ => rfl) (fun _ => rfl)
  · exact d.leadsAlike_map (fun _ => rfl) (fun _ => rfl)

/-- A total length of 23 leaves three octets behind the header, in a frame with room for eight. -/
theorem drafts_lead_where_headers_lead_unless_cut_short :
    let d : Ipv4.Draft := ⟨⟨⟨[0xaa, 0x45, 0, 0, 23] ++ List.replicate 24 0, 1⟩, by decide⟩⟩
    (∃ u, d.udp = .ok u) ∧ d.header.udp.map (·.start) = .error (.bounds 21 8 3) := by
  intro d
  obtain ⟨-, -, -, hipv4⟩ := drafts_lead_where_headers_lead
  obtain ⟨-, hudp⟩ := hipv4 d
  have hparts : 5 ≤ d.header.lengthInWords.toNat ∧
      d.header.start + d.header.headerLength + 8 ≤ d.header.bytes.length ∧ d.header.CutShort :=
    ⟨by decide, by decide, by decide, by decide⟩
  obtain ⟨hbuilt, fault, hfound⟩ := hudp.part_iff.mpr hparts
  have hfault : fault = .bounds 21 8 3 := (hudp.bounds hbuilt fault hfound).trans (by decide)
  obtain ⟨start, hstart⟩ := hbuilt
  obtain ⟨u, hu, -⟩ := Except.map_eq_ok_iff.mp hstart
  exact ⟨⟨u, hu⟩, hfault ▸ hfound⟩

end PacketHeaders

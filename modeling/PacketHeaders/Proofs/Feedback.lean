import PacketHeaders.Proofs.StoredChecksum

/-!
# Checksums do not feed on themselves

What a draft calculates does not depend on the checksum that stands in it, whatever header length or
length field it holds. Neither does what a header calculates at the same place, in the whole frame
or in a cut of it. So a checksum that was calculated and stored is the one that is calculated next,
and storing that one changes nothing.
-/

namespace PacketHeaders

open Octets Checksum

/-- What is calculated does not depend on what was stored, and storing it twice is storing it
once. -/
structure NeverFedBack {δ : Type} (store : δ → UInt16 → δ) (calculate : δ → UInt16) : Prop where
  calculate_store (d : δ) (value : UInt16) : calculate (store d value) = calculate d
  store_twice (d : δ) :
    let stored := store d (calculate d)
    store stored (calculate stored) = stored

theorem NeverFedBack.of_overwritten {δ : Type} {store : δ → UInt16 → δ} {calculate : δ → UInt16}
    (hcalculate : ∀ d value, calculate (store d value) = calculate d)
    (hstore : ∀ d old new, store (store d old) new = store d new) :
    NeverFedBack store calculate where
  calculate_store := hcalculate
  store_twice d := by
    intro stored
    rw [hcalculate, hstore]

namespace Window

variable {n : Nat} (w : Window n) (f : Field n)

theorem put_put (old new : Nat) : (w.put f old).put f new = w.put f new := by
  have hlength : (ofNat f.width old).length = (ofNat f.width new).length := by
    rw [length_ofNat, length_ofNat]
  exact eq_of_span_eq (splice_splice_self hlength) rfl

theorem place_put (value stop : Nat) :
    place ((w.put f value).bytes.take stop) w.start n =
      (place (w.bytes.take stop) w.start n).map (·.put f value) := by
  have hbytes : (w.put f value).bytes.take stop =
      splice (w.bytes.take stop) (w.start + f.pos) (ofNat f.width value) := take_splice ..
  rw [hbytes]
  cases hplace : place (w.bytes.take stop) w.start n with
  | error fault =>
    obtain ⟨hshort, hfault⟩ := place_eq_error_iff.mp hplace
    refine place_eq_error_iff.mpr ⟨?_, ?_⟩
    · rwa [length_splice]
    · rwa [length_splice]
  | ok w' =>
    obtain ⟨hcut, hstart⟩ := place_eq_ok_iff.mp hplace
    refine place_eq_ok_iff.mpr ⟨?_, hstart⟩
    change splice w'.bytes (w'.start + f.pos) _ = _
    rw [hcut, hstart]

end Window

/-- What a header calculates at the place of a window, if it is there in the frame cut at `stop`. -/
def calculatedInCut {n : Nat} {η : Type} (place : List UInt8 → Nat → Except Fault η)
    (calculate : η → UInt16) (w : Window n) (stop : Nat) : Except Fault UInt16 :=
  (place (w.bytes.take stop) w.start).map calculate

theorem calculatedInCut_put {n : Nat} {η : Type} {mk : Window n → η} {calculate : η → UInt16}
    {f : Field n} {value : Nat}
    (hput : ∀ w, calculate (mk (w.put f value)) = calculate (mk w)) (w : Window n) (stop : Nat) :
    let place (bytes : List UInt8) (start : Nat) := (Window.place bytes start n).map mk
    calculatedInCut place calculate (w.put f value) stop = calculatedInCut place calculate w stop := by
  intro place
  change ((Window.place ((w.put f value).bytes.take stop) w.start n).map mk).map calculate =
    ((Window.place (w.bytes.take stop) w.start n).map mk).map calculate
  rw [w.place_put]
  cases Window.place (w.bytes.take stop) w.start n with
  | error fault => rfl
  | ok w' => exact congrArg Except.ok (hput w')

namespace Message

variable (m : Message) {f : Field 8}

theorem put_put (old new : Nat) : (m.put f old).put f new = m.put f new := by
  have hwindow : (m.toWindow.put f old).put f new = m.toWindow.put f new := m.toWindow.put_put ..
  simp only [put, hwindow]

theorem blank_put (hwidth : f.width = 2) (value : Nat) :
    splice (m.put f value).octets f.pos [0, 0] = splice m.octets f.pos [0, 0] :=
  m.toWindow.blank_put hwidth value m.length

end Message

theorem Ipv4.Draft.neverFedBack : NeverFedBack setChecksum defaultChecksum :=
  .of_overwritten defaultChecksum_setChecksum
    fun d _ _ => congrArg Draft.mk (d.put_put Layout.checksum ..)

theorem Icmp.Draft.neverFedBack : NeverFedBack setChecksum defaultChecksum := by
  refine .of_overwritten (fun d value => ?_) fun d _ _ => congrArg Draft.mk (d.put_put ..)
  exact congrArg internet (d.blank_put rfl value.toNat)

theorem Udp.Draft.neverFedBack {calculate : Draft → UInt16}
    (hcovered : ∀ d d' : Draft, withoutChecksum d'.octets = withoutChecksum d.octets →
      calculate d' = calculate d) : NeverFedBack setChecksum calculate := by
  refine .of_overwritten (fun d value => ?_) fun d _ _ => congrArg Draft.mk (d.put_put ..)
  exact hcovered d (d.setChecksum value) (d.blank_put rfl value.toNat)

/-- A checksum that is stored changes neither what the draft calculates, with or without a
pseudo-header, nor what a header calculates at the place of the draft, in the whole frame or in any
cut of it; and a checksum that was calculated can be stored again without a change. -/
theorem stored_checksums_never_feed_back :
    (NeverFedBack Ipv4.Draft.setChecksum Ipv4.Draft.defaultChecksum ∧
      ∀ (d : Ipv4.Draft) value,
        (d.setChecksum value).header.calculateChecksum = d.header.calculateChecksum ∧
        ∀ stop, calculatedInCut Ipv4.Header.place (·.calculateChecksum)
            (d.setChecksum value).toWindow stop =
          calculatedInCut Ipv4.Header.place (·.calculateChecksum) d.toWindow stop) ∧
    (NeverFedBack Icmp.Draft.setChecksum Icmp.Draft.defaultChecksum ∧
      ∀ (d : Icmp.Draft) value,
        (d.setChecksum value).header.calculateChecksum = d.header.calculateChecksum ∧
        ∀ stop, calculatedInCut Icmp.Header.place (·.calculateChecksum)
            (d.setChecksum value).toWindow stop =
          calculatedInCut Icmp.Header.place (·.calculateChecksum) d.toWindow stop) ∧
    NeverFedBack Udp.Draft.setChecksum Udp.Draft.defaultChecksum ∧
      (∀ ends, NeverFedBack Udp.Draft.setChecksum (·.transportChecksum ends)) ∧
      ∀ (d : Udp.Draft) value,
        (d.setChecksum value).header.calculateChecksum = d.header.calculateChecksum ∧
        ∀ stop, calculatedInCut Udp.Header.place (·.calculateChecksum)
            (d.setChecksum value).toWindow stop =
          calculatedInCut Udp.Header.place (·.calculateChecksum) d.toWindow stop := by
  refine ⟨⟨Ipv4.Draft.neverFedBack, fun d value => ⟨?_, ?_⟩⟩,
    ⟨Icmp.Draft.neverFedBack, fun d value => ⟨?_, ?_⟩⟩, ?_, fun ends => ?_, fun d value => ⟨?_, ?_⟩⟩
  · exact d.header.calculateChecksum_put value.toNat
  · exact calculatedInCut_put (fun w => (Ipv4.Header.mk w).calculateChecksum_put value.toNat) _
  · exact d.header.calculateChecksum_put value.toNat
  · exact calculatedInCut_put (fun w => (Icmp.Header.mk w).calculateChecksum_put value.toNat) _
  · exact Udp.Draft.neverFedBack fun _ _ hsame => congrArg internet hsame
  · apply Udp.Draft.neverFedBack
    intro d d' hsame
    simp only [Udp.Draft.transportChecksum, Udp.transportChecksum, hsame]
  · exact d.header.calculateChecksum_put value.toNat
  · exact calculatedInCut_put (fun w => (Udp.Header.mk w).calculateChecksum_put value.toNat) _

end PacketHeaders

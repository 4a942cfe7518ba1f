import PacketHeaders.Proofs.EndAroundCarry

/-!
# Strings whose checksum is zero

The checksum of a string comes out as zero when an aligned word in it is the checksum of all the
rest; if the rest alone has the checksum zero, all ones will do as well. So when one word of such a
string is replaced, the checksum is zero again only if zero and all ones, the two spellings of zero,
have changed places, and if the string has not become zero octets altogether.
-/

namespace PacketHeaders.Checksum

open Octets

section Completion

theorem fold_add_complement {sum : Nat} (h : sum < UInt32.size) :
    sum + (65535 - fold sum) < UInt32.size ∧ fold (sum + (65535 - fold sum)) = 65535 := by
  have hfold := fold_eq h
  have hfits : sum + (65535 - fold sum) < UInt32.size := by
    -- The largest number that the register holds is itself a multiple of 65535.
    simp only [UInt32.size] at h ⊢
    split at hfold <;> omega
  refine ⟨hfits, ?_⟩
  rw [fold_eq hfits]
  split at hfold <;> split <;> omega

/-- A checksum is a function of what the register holds, whether the sum fits it or not. -/
theorem toNat_internet_eq_mod (bytes : List UInt8) :
    (internet bytes).toNat = 65535 - fold (wordSum bytes % UInt32.size) := by
  rw [internet, toNat_ofSum, accumulate_eq, UInt32.zero_add, UInt32.toNat_ofNat']

variable {bytes : List UInt8} {pos : Nat}

theorem internet_splice_internet (heven : pos % 2 = 0) (hroom : pos + 2 ≤ bytes.length) :
    internet (splice bytes pos (ofNat 2 (internet (splice bytes pos [0, 0])).toNat)) = 0 := by
  let rest := wordSum (splice bytes pos [0, 0]) % UInt32.size
  have hrest : rest < UInt32.size := Nat.mod_lt _ (by decide)
  obtain ⟨hfits, hones⟩ := fold_add_complement hrest
  generalize hvalue : internet (splice bytes pos [0, 0]) = value
  have hcomplement : value.toNat = 65535 - fold rest := by
    rw [← hvalue, toNat_internet_eq_mod]
  have hsum : wordSum (splice bytes pos (ofNat 2 value.toNat)) % UInt32.size =
      rest + value.toNat := by
    rw [wordSum_splice heven hroom, Nat.mod_eq_of_lt value.toNat_lt, ← Nat.mod_add_mod]
    exact Nat.mod_eq_of_lt (hcomplement ▸ hfits)
  rw [← UInt16.toNat_inj, toNat_internet_eq_mod, hsum, hcomplement, hones]
  rfl

/-- Whatever a string holds, the words that make its checksum zero when they are written at an even
place are the checksum of the rest and, if that is zero, all ones. -/
theorem completing_words (heven : pos % 2 = 0) (hroom : pos + 2 ≤ bytes.length)
    (hlen : bytes.length ≤ 131074) :
    let rest := internet (splice bytes pos [0, 0])
    (∀ word : UInt16, internet (splice bytes pos (ofNat 2 word.toNat)) = 0 ↔
      word = rest ∨ rest = 0 ∧ word = 0xffff) ∧
    internet (splice bytes pos (ofNat 2 rest.toNat)) = 0 := by
  intro rest
  refine ⟨fun word => ?_, internet_splice_internet heven hroom⟩
  exact internet_splice_eq_zero_iff heven hroom hlen word

/-- In a string of odd length whose other words make up all ones, both spellings of zero do, and no
other word. -/
theorem completing_words_of_odd_string :
    let bytes : List UInt8 := [0xff, 0, 0xaa, 0xbb, 0, 0xff, 0]
    internet (splice bytes 2 (ofNat 2 0)) = 0 ∧ internet (splice bytes 2 (ofNat 2 0xffff)) = 0 ∧
      internet (splice bytes 2 (ofNat 2 0xaabb)) ≠ 0 := by
  intro bytes
  obtain ⟨hwords, hrest⟩ := @completing_words bytes 2 (by decide) (by decide) (by decide)
  have hzero : internet (splice bytes 2 [0, 0]) = 0 := by decide
  rw [hzero] at hwords hrest
  exact ⟨hrest, (hwords 0xffff).mpr (.inr ⟨rfl, rfl⟩), mt (hwords 0xaabb).mp (by decide)⟩

end Completion

section Replacement

def Respelled (old new : Nat) : Prop := old = 0 ∧ new = 65535 ∨ old = 65535 ∧ new = 0

/-- One string is the other with another word at an even place. A last odd octet is the high half of
a word. -/
structure Reworded (pos old new : Nat) (bytes other : List UInt8) : Prop where
  aligned : pos % 2 = 0
  changed : ChangedWithin pos (pos + 2) bytes other
  old_eq : wordAt bytes pos = old
  new_eq : wordAt other pos = new
  ne : old ≠ new

namespace Reworded

variable {pos old new : Nat} {bytes other : List UInt8}

theorem pos_lt (h : Reworded pos old new bytes other) : pos < bytes.length := by
  rcases Nat.lt_or_ge pos bytes.length with hpos | hpos
  · exact hpos
  · have hold := wordAt_of_length_le hpos
    have hnew := wordAt_of_length_le (Nat.le_trans (Nat.le_of_eq h.changed.length_eq) hpos)
    rw [h.old_eq] at hold
    rw [h.new_eq] at hnew
    exact absurd (hold.trans hnew.symm) h.ne

theorem wordAt_eq (h : Reworded pos old new bytes other) {pos' : Nat} (heven : pos' % 2 = 0)
    (hpos : pos ≠ pos') : wordAt other pos' = wordAt bytes pos' := by
  have haligned := h.aligned
  exact h.changed.wordAt_eq (by omega)

theorem append_left (h : Reworded pos old new bytes other) {front : List UInt8}
    (heven : front.length % 2 = 0) :
    Reworded (front.length + pos) old new (front ++ bytes) (front ++ other) where
  aligned := by
    have := h.aligned
    omega
  changed := h.changed.append_left front
  old_eq := (wordAt_append_right ..).trans h.old_eq
  new_eq := (wordAt_append_right ..).trans h.new_eq
  ne := h.ne

theorem append_right (h : Reworded pos old new bytes other) (heven : bytes.length % 2 = 0)
    (back : List UInt8) : Reworded pos old new (bytes ++ back) (other ++ back) := by
  have hpos := h.pos_lt
  have haligned := h.aligned
  have hlength := h.changed.length_eq
  refine ⟨haligned, h.changed.append_right back, ?_, ?_, h.ne⟩
  · rw [wordAt_append (by omega), h.old_eq]
  · rw [wordAt_append (by omega), h.new_eq]

theorem internet_eq_zero_iff (h : Reworded pos old new bytes other)
    (hsum : wordSum bytes < UInt32.size) (hsum' : wordSum other < UInt32.size)
    (hzero : internet bytes = 0) :
    internet other = 0 ↔ Respelled old new ∧ ∃ b ∈ other, b ≠ 0 := by
  have hold := wordAt_lt bytes pos
  have hnew := wordAt_lt other pos
  have hsplit := wordSum_eq_add_wordAt h.aligned bytes
  have hsplit' := wordSum_eq_add_wordAt h.aligned other
  rw [h.changed.splice_eq (Nat.le_refl _) (Nat.le_refl _)] at hsplit'
  rw [h.old_eq] at hold hsplit
  rw [h.new_eq] at hnew hsplit'
  have hne := h.ne
  have hoctets : (∃ b ∈ other, b ≠ 0) ↔ wordSum other ≠ 0 := by
    simp [wordSum_eq_zero_iff]
  rw [internet_eq_zero_iff_of_sum hsum] at hzero
  rw [internet_eq_zero_iff_of_sum hsum', hoctets, Respelled]
  omega

end Reworded

end Replacement

end PacketHeaders.Checksum

import PacketHeaders.Checksum
import PacketHeaders.Proofs.Octets

/-!
# The exact sum behind a checksum

Up to 131074 octets the register never wraps, so a checksum is a function of the exact sum of the
words: the complement of that sum reduced to the numbers from 1 to 65535, or of zero when the sum is
zero. Writing a word into such a string makes its checksum zero exactly when the word is the
checksum of the string without it, where zero may also be written as all ones.
-/

namespace PacketHeaders.Checksum

open Octets

theorem fold_eq {sum : Nat} (h : sum < UInt32.size) :
    fold sum = if sum = 0 then 0 else (sum - 1) % 65535 + 1 := by
  simp only [UInt32.size] at h
  simp only [fold, carry]
  split <;> omega

theorem toNat_ofSum (sum : UInt32) : (ofSum sum).toNat = 65535 - fold sum.toNat := by
  have hfold : fold sum.toNat < 65536 := fold_lt sum.toNat_lt
  have hword : (UInt16.ofNat (fold sum.toNat)).toNat = fold sum.toNat := by
    rw [UInt16.toNat_ofNat']
    exact Nat.mod_eq_of_lt hfold
  rw [ofSum, UInt16.toNat_not, hword]
  rfl

/-- The largest words are all ones, and a last octet without another is the high half of one. -/
theorem wordSum_le_words (bytes : List UInt8) :
    wordSum bytes ≤ 65535 * (bytes.length / 2) + 65280 * (bytes.length % 2) := by
  induction bytes using wordSum.induct with
  | case1 => exact Nat.zero_le _
  | case2 a =>
    have := a.toNat_lt
    simp only [wordSum, word, UInt8.toNat_zero, List.length_singleton]
    omega
  | case3 a b rest ih =>
    have := word_lt a b
    simp only [wordSum, List.length_cons]
    omega

theorem wordSum_le (bytes : List UInt8) : wordSum bytes ≤ 65535 * ((bytes.length + 1) / 2) := by
  have hwords := wordSum_le_words bytes
  omega

/-- A string that an even string stands in front of keeps its words. -/
theorem wordSum_append {front : List UInt8} (h : front.length % 2 = 0) (back : List UInt8) :
    wordSum (front ++ back) = wordSum front + wordSum back := by
  induction front using wordSum.induct with
  | case1 => simp [wordSum]
  | case2 a => simp at h
  | case3 a b rest ih =>
    simp only [List.length_cons] at h
    rw [List.cons_append, List.cons_append, wordSum, wordSum, ih (by omega), Nat.add_assoc]

theorem accumulate_append {front : List UInt8} (h : front.length % 2 = 0) (back : List UInt8)
    (sum : UInt32) : accumulate sum (front ++ back) = accumulate (accumulate sum front) back := by
  induction front using wordSum.induct generalizing sum with
  | case1 => rfl
  | case2 a => simp at h
  | case3 a b rest ih =>
    simp only [List.length_cons] at h
    exact ih (by omega) _

theorem wordSum_lt {bytes : List UInt8} (h : bytes.length ≤ 131074) :
    wordSum bytes < UInt32.size := by
  have := wordSum_le bytes
  simp only [UInt32.size]
  omega

theorem toNat_internet_of_sum {bytes : List UInt8} (h : wordSum bytes < UInt32.size) :
    (internet bytes).toNat = 65535 - fold (wordSum bytes) := by
  have hsum : (accumulate 0 bytes).toNat = wordSum bytes := by
    rw [toNat_accumulate] <;> simp only [UInt32.toNat_zero, Nat.zero_add]
    exact h
  rw [internet, toNat_ofSum, hsum]

theorem toNat_internet {bytes : List UInt8} (h : bytes.length ≤ 131074) :
    (internet bytes).toNat = 65535 - fold (wordSum bytes) :=
  toNat_internet_of_sum (wordSum_lt h)

theorem internet_eq_zero_iff_of_sum {bytes : List UInt8} (h : wordSum bytes < UInt32.size) :
    internet bytes = 0 ↔ 0 < wordSum bytes ∧ wordSum bytes % 65535 = 0 := by
  have hfold := fold_eq h
  rw [← UInt16.toNat_inj, toNat_internet_of_sum h, UInt16.toNat_zero, hfold]
  split <;> omega

theorem internet_eq_zero_iff {bytes : List UInt8} (h : bytes.length ≤ 131074) :
    internet bytes = 0 ↔ 0 < wordSum bytes ∧ wordSum bytes % 65535 = 0 :=
  internet_eq_zero_iff_of_sum (wordSum_lt h)

/-- An aligned word adds what it is to the sum of the string without it. -/
theorem wordSum_eq_add_wordAt {pos : Nat} (heven : pos % 2 = 0) (bytes : List UInt8) :
    wordSum bytes = wordSum (splice bytes pos [0, 0]) + wordAt bytes pos := by
  have hfirst (back : List UInt8) :
      wordSum back = wordSum (splice back 0 [0, 0]) + wordAt back 0 := by
    match back with
    | [] => rfl
    | [a] => exact (Nat.zero_add _).symm
    | a :: b :: rest =>
      rw [splice_eq_append (by simp)]
      change word a b + wordSum rest = 0 + wordSum rest + word a b
      rw [Nat.zero_add, Nat.add_comm]
  rcases Nat.lt_or_ge pos bytes.length with hpos | hpos
  · obtain ⟨front, back, rfl, hfront⟩ : ∃ front back, bytes = front ++ back ∧ front.length = pos :=
      ⟨_, _, (List.take_append_drop pos bytes).symm, List.length_take_of_le (Nat.le_of_lt hpos)⟩
    have hsplice := splice_append_right front back [0, 0] 0
    have hword := wordAt_append_right front back 0
    rw [hfront, Nat.add_zero] at hsplice hword
    rw [hsplice, hword, wordSum_append (hfront ▸ heven), wordSum_append (hfront ▸ heven),
      Nat.add_assoc, ← hfirst]
  · rw [splice_of_length_le hpos, wordAt_of_length_le hpos, Nat.add_zero]

/-- A word splits off from the sum of the string that it is written into. -/
theorem wordSum_splice {bytes : List UInt8} {pos : Nat} (heven : pos % 2 = 0)
    (hroom : pos + 2 ≤ bytes.length) (value : Nat) :
    wordSum (splice bytes pos (ofNat 2 value)) =
      wordSum (splice bytes pos [0, 0]) + value % 65536 := by
  have hrest : splice (splice bytes pos (ofNat 2 value)) pos [0, 0] = splice bytes pos [0, 0] :=
    splice_splice_self (length_ofNat ..)
  rw [wordSum_eq_add_wordAt heven, hrest, wordAt_splice hroom]

/-- A stored checksum is right when it is the one that was calculated; zero has two spellings. -/
def Fits (stored calculated : UInt16) : Prop :=
  stored = calculated ∨ calculated = 0 ∧ stored = 0xffff

theorem fits_iff_toNat {stored calculated : UInt16} :
    Fits stored calculated ↔
      stored.toNat = calculated.toNat ∨ calculated.toNat = 0 ∧ stored.toNat = 65535 := by
  rw [Fits, ← UInt16.toNat_inj, ← UInt16.toNat_inj, ← UInt16.toNat_inj]
  rfl

/-- A string sums up to zero when the word at an even place is right for the rest of it. -/
theorem internet_eq_zero_iff_fits {bytes : List UInt8} {pos : Nat} {stored : UInt16}
    (heven : pos % 2 = 0) (hsum : wordSum bytes < UInt32.size)
    (hstored : stored.toNat = wordAt bytes pos) :
    internet bytes = 0 ↔ Fits stored (internet (splice bytes pos [0, 0])) := by
  have hlt := stored.toNat_lt
  have hsplit := wordSum_eq_add_wordAt heven bytes
  rw [← hstored] at hsplit
  have hrest : wordSum (splice bytes pos [0, 0]) < UInt32.size := by omega
  rw [internet_eq_zero_iff_of_sum hsum, fits_iff_toNat, toNat_internet_of_sum hrest, fold_eq hrest]
  split <;> omega

theorem internet_splice_eq_zero_iff {bytes : List UInt8} {pos : Nat} (heven : pos % 2 = 0)
    (hroom : pos + 2 ≤ bytes.length) (hlen : bytes.length ≤ 131074) (stored : UInt16) :
    internet (splice bytes pos (ofNat 2 stored.toNat)) = 0 ↔
      Fits stored (internet (splice bytes pos [0, 0])) := by
  have hrest : splice (splice bytes pos (ofNat 2 stored.toNat)) pos [0, 0] =
      splice bytes pos [0, 0] := splice_splice_self (length_ofNat ..)
  have hword := wordAt_splice hroom stored.toNat
  rw [Nat.mod_eq_of_lt stored.toNat_lt] at hword
  rw [internet_eq_zero_iff_fits heven (wordSum_lt (by rwa [length_splice])) hword.symm, hrest]

@[simp] theorem length_pseudoHeader (ends : Endpoints) (protocol : UInt8) (length : Nat) :
    (pseudoHeader ends protocol length).length = 12 := by
  simp [pseudoHeader, ends.source.length_octets, ends.destination.length_octets]

/-- A transport checksum is the checksum of the segment with its pseudo-header in front. -/
theorem transport_eq_internet (ends : Endpoints) (protocol : UInt8) (segment : List UInt8) :
    transport ends protocol segment =
      internet (pseudoHeader ends protocol segment.length ++ segment) := by
  have heven : (pseudoHeader ends protocol segment.length).length % 2 = 0 := by
    rw [length_pseudoHeader]
  rw [transport, internet, accumulate_append heven]

theorem transport_splice (ends : Endpoints) (protocol : UInt8) (segment : List UInt8) (pos : Nat)
    (new : List UInt8) : transport ends protocol (splice segment pos new) =
      internet (splice (pseudoHeader ends protocol segment.length ++ segment) (12 + pos) new) := by
  rw [transport_eq_internet, length_splice, ← splice_append_right, length_pseudoHeader]

theorem transport_splice_eq_zero_iff {segment : List UInt8} {pos : Nat} (heven : pos % 2 = 0)
    (hroom : pos + 2 ≤ segment.length) (hlen : segment.length ≤ 131062) (ends : Endpoints)
    (protocol : UInt8) (stored : UInt16) :
    transport ends protocol (splice segment pos (ofNat 2 stored.toNat)) = 0 ↔
      Fits stored (transport ends protocol (splice segment pos [0, 0])) := by
  rw [transport_splice, transport_splice, internet_splice_eq_zero_iff (by omega)]
  · rw [List.length_append, length_pseudoHeader]
    omega
  · rw [List.length_append, length_pseudoHeader]
    omega

/-- With its pseudo-header a segment sums up to zero when the word at an even place is right for the
rest of both. -/
theorem transport_eq_zero_iff_fits {segment : List UInt8} {pos : Nat} {stored : UInt16}
    (heven : pos % 2 = 0) (hlen : segment.length ≤ 131062) (ends : Endpoints) (protocol : UInt8)
    (hstored : stored.toNat = wordAt segment pos) :
    transport ends protocol segment = 0 ↔
      Fits stored (transport ends protocol (splice segment pos [0, 0])) := by
  have hword := wordAt_append_right (pseudoHeader ends protocol segment.length) segment pos
  rw [length_pseudoHeader, ← hstored] at hword
  rw [transport_splice, transport_eq_internet]
  refine internet_eq_zero_iff_fits (by omega) (wordSum_lt ?_) hword.symm
  rw [List.length_append, length_pseudoHeader]
  omega

end PacketHeaders.Checksum

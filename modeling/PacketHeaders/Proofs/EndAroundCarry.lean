import Mathlib.Algebra.Ring.Nat
import PacketHeaders.Proofs.InternetChecksum

/-!
# What a checksum depends on

A checksum comes out of two loops. The first adds up the words of a string, in whatever order; the
second adds the carry of that sum back in until there is none. Every round of the second loop makes
the sum smaller, keeps its residue modulo 65535 and leaves zero to zero alone, so the loop ends, and
it ends with the one number up to 65535 of which all this is true. Words may therefore change places
and zero octets may follow, and the checksum stays.
-/

namespace PacketHeaders.Checksum

section Loop

/-- One round: the high half of the register is added to the low half. -/
def round (sum : UInt32) : UInt32 := (sum &&& (0xffff : UInt32)) + (sum >>> 16)

/-- The register before and after the loop that goes on while the high half is not zero. -/
inductive Settles : UInt32 → UInt32 → Prop
  | done {sum : UInt32} (settled : sum >>> 16 = 0) : Settles sum sum
  | step {sum final : UInt32} (unsettled : sum >>> 16 ≠ 0) (rest : Settles (round sum) final) :
      Settles sum final

theorem carry_lt {sum : Nat} (h : 65536 ≤ sum) : carry sum < sum := by
  simp only [carry]
  omega

theorem carry_mod (sum : Nat) : carry sum % 65535 = sum % 65535 := by
  simp only [carry]
  omega

theorem carry_eq_zero_iff {sum : Nat} : carry sum = 0 ↔ sum = 0 := by
  simp only [carry]
  omega

theorem toNat_high (sum : UInt32) : (sum >>> 16).toNat = sum.toNat / 65536 := by
  rw [UInt32.toNat_shiftRight]
  exact Nat.shiftRight_eq_div_pow sum.toNat 16

theorem high_eq_zero_iff {sum : UInt32} : sum >>> 16 = 0 ↔ sum.toNat < 65536 := by
  rw [← UInt32.toNat_inj, toNat_high, UInt32.toNat_zero]
  omega

/-- A round never wraps the register. -/
theorem toNat_round (sum : UInt32) : (round sum).toNat = carry sum.toNat := by
  have hlow : (sum &&& (0xffff : UInt32)).toNat = sum.toNat % 65536 := by
    rw [UInt32.toNat_and]
    exact Nat.and_two_pow_sub_one_eq_mod sum.toNat 16
  have hlt := sum.toNat_lt
  rw [round, UInt32.toNat_add, hlow, toNat_high, carry]
  omega

/-- A sum and what is left of it when all its carries are added back in. -/
structure Reduces (sum final : Nat) : Prop where
  lt : final < 65536
  mod_eq : final % 65535 = sum % 65535
  eq_zero_iff : final = 0 ↔ sum = 0

theorem Reduces.of_carry {sum final : Nat} (h : Reduces (carry sum) final) : Reduces sum final where
  lt := h.lt
  mod_eq := h.mod_eq.trans (carry_mod sum)
  eq_zero_iff := h.eq_zero_iff.trans carry_eq_zero_iff

theorem Reduces.eq {sum final : Nat} (h : Reduces sum final) :
    final = if sum = 0 then 0 else (sum - 1) % 65535 + 1 := by
  have hlt := h.lt
  have hmod := h.mod_eq
  have hzero := h.eq_zero_iff
  split <;> omega

variable {sum final : UInt32}

theorem Settles.reduces (h : Settles sum final) : Reduces sum.toNat final.toNat := by
  induction h with
  | done settled => exact ⟨high_eq_zero_iff.mp settled, rfl, Iff.rfl⟩
  | step _ _ ih =>
    rw [toNat_round] at ih
    exact ih.of_carry

/-- The loop ends, because a round with a carry makes the sum smaller. -/
theorem exists_settles (sum : UInt32) : ∃ final, Settles sum final := by
  induction hn : sum.toNat using Nat.strongRecOn generalizing sum with
  | _ n ih =>
    by_cases hhigh : sum >>> 16 = 0
    · exact ⟨sum, .done hhigh⟩
    · have hcarry : 65536 ≤ sum.toNat := Nat.le_of_not_lt (mt high_eq_zero_iff.mpr hhigh)
      have hsmaller : (round sum).toNat < n := by
        rw [toNat_round, ← hn]
        exact carry_lt hcarry
      obtain ⟨final, hfinal⟩ := ih _ hsmaller (round sum) rfl
      exact ⟨final, .step hhigh hfinal⟩

/-- Two rounds come to the same as the loop. -/
theorem Settles.toNat_eq (h : Settles sum final) : final.toNat = fold sum.toNat := by
  rw [h.reduces.eq, fold_eq sum.toNat_lt]

theorem Settles.ofSum_eq (h : Settles sum final) : ofSum sum = (~~~final).toUInt16 := by
  have hfinal : final.toUInt16 = .ofNat (fold sum.toNat) := by
    rw [← h.toNat_eq]
    rfl
  rw [UInt32.toUInt16_not, hfinal, ofSum]

end Loop

section Words

/-- The aligned words of a string of octets. -/
def words : List UInt8 → List Nat
  | [] => []
  | [a] => [word a 0]
  | a :: b :: rest => word a b :: words rest

theorem sum_words (bytes : List UInt8) : (words bytes).sum = wordSum bytes := by
  induction bytes using wordSum.induct with
  | case1 => rfl
  | case2 a => rfl
  | case3 a b rest ih => rw [words, List.sum_cons, ih, wordSum]

theorem wordSum_of_perm {bytes other : List UInt8} (h : (words other).Perm (words bytes)) :
    wordSum other = wordSum bytes := by
  rw [← sum_words, ← sum_words, h.sum_nat]

theorem wordSum_zeros (n : Nat) : wordSum (List.replicate n 0) = 0 := by
  induction n using Nat.strongRecOn with
  | _ n ih =>
    match n with
    | 0 | 1 => rfl
    | n + 2 => exact (Nat.zero_add _).trans (ih n (by omega))

/-- Zero octets fill up the last word, if it is not full, and make new words of nothing. -/
theorem wordSum_append_zeros (bytes : List UInt8) (n : Nat) :
    wordSum (bytes ++ List.replicate n 0) = wordSum bytes := by
  induction bytes using wordSum.induct with
  | case1 => exact wordSum_zeros n
  | case2 a =>
    cases n with
    | zero => rfl
    | succ n => exact congrArg (word a 0 + ·) (wordSum_zeros n)
  | case3 a b rest ih => exact congrArg (word a b + ·) ih

theorem word_eq_zero_iff {a b : UInt8} : word a b = 0 ↔ a = 0 ∧ b = 0 := by
  rw [← UInt8.toNat_inj, ← UInt8.toNat_inj, UInt8.toNat_zero, word]
  omega

theorem wordSum_eq_zero_iff {bytes : List UInt8} : wordSum bytes = 0 ↔ ∀ b ∈ bytes, b = 0 := by
  induction bytes using wordSum.induct with
  | case1 => simp [wordSum]
  | case2 a => simp [wordSum, word_eq_zero_iff]
  | case3 a b rest ih =>
    simp only [wordSum, Nat.add_eq_zero_iff, word_eq_zero_iff, ih, List.forall_mem_cons, and_assoc]

/-- The register holds the sum of the words as far as it can. -/
theorem accumulate_eq (sum : UInt32) (bytes : List UInt8) :
    accumulate sum bytes = sum + .ofNat (wordSum bytes) := by
  induction bytes using wordSum.induct generalizing sum with
  | case1 => exact (UInt32.add_zero sum).symm
  | case2 a => rfl
  | case3 a b rest ih => rw [accumulate, ih, wordSum, UInt32.ofNat_add, UInt32.add_assoc]

theorem internet_congr {bytes other : List UInt8} (h : wordSum other = wordSum bytes) :
    internet other = internet bytes := by
  rw [internet, internet, accumulate_eq, accumulate_eq, h]

end Words

variable {bytes : List UInt8}

theorem toNat_internet_eq (hlen : bytes.length ≤ 131074) : (internet bytes).toNat =
    if wordSum bytes = 0 then 65535 else 65535 - ((wordSum bytes - 1) % 65535 + 1) := by
  rw [toNat_internet hlen, fold_eq (wordSum_lt hlen)]
  split <;> rfl

theorem internet_eq_ones_iff (hlen : bytes.length ≤ 131074) :
    internet bytes = 0xffff ↔ ∀ b ∈ bytes, b = 0 := by
  have hones : (0xffff : UInt16).toNat = 65535 := rfl
  rw [← UInt16.toNat_inj, toNat_internet_eq hlen, hones, ← wordSum_eq_zero_iff]
  split <;> omega

/-- A checksum is the complement of the sum of the words, reduced to the numbers from 1 to 65535
unless it is zero. It is zero for the positive multiples of 65535, all ones for zero octets only,
and neither the order of the words nor zero octets at the end matter. -/
theorem checksum_is_residue_of_wordSum (hlen : bytes.length ≤ 131074) :
    (accumulate 0 bytes).toNat = wordSum bytes ∧
    ((∃ final, Settles (accumulate 0 bytes) final) ∧
      ∀ final, Settles (accumulate 0 bytes) final → internet bytes = (~~~final).toUInt16) ∧
    (internet bytes).toNat =
      (if wordSum bytes = 0 then 65535 else 65535 - ((wordSum bytes - 1) % 65535 + 1)) ∧
    (internet bytes = 0 ↔ 0 < wordSum bytes ∧ 65535 ∣ wordSum bytes) ∧
    (internet bytes = 0xffff ↔ ∀ b ∈ bytes, b = 0) ∧
    (∀ other, (words other).Perm (words bytes) → internet other = internet bytes) ∧
    ∀ n, internet (bytes ++ List.replicate n 0) = internet bytes := by
  have hexact : (accumulate 0 bytes).toNat = 0 + wordSum bytes :=
    toNat_accumulate (by rw [UInt32.toNat_zero, Nat.zero_add]; exact wordSum_lt hlen)
  refine ⟨hexact.trans (Nat.zero_add _), ⟨exists_settles _, ?_⟩, toNat_internet_eq hlen, ?_,
    internet_eq_ones_iff hlen, ?_, ?_⟩
  · intro final hfinal
    exact hfinal.ofSum_eq
  · rw [internet_eq_zero_iff hlen, Nat.dvd_iff_mod_eq_zero]
  · intro other hperm
    exact internet_congr (wordSum_of_perm hperm)
  · intro n
    exact internet_congr (wordSum_append_zeros bytes n)

/-- A last octet that is half a word, moved to the front as the whole word that it counts as. -/
theorem checksum_is_residue_of_wordSum_of_odd_string :
    let bytes : List UInt8 := [0xf0, 0x34, 0x0f, 0xcb, 0xff]
    let other : List UInt8 := [0xff, 0, 0x0f, 0xcb, 0xf0, 0x34]
    bytes.length ≤ 131074 ∧ (words other).Perm (words bytes) ∧
      (internet bytes).toNat = 255 ∧ internet other = internet bytes := by
  intro bytes other
  have hlen : bytes.length ≤ 131074 := by decide
  have hperm : (words other).Perm (words bytes) := by decide
  obtain ⟨-, -, hvalue, -, -, hwords, -⟩ := checksum_is_residue_of_wordSum hlen
  exact ⟨hlen, hperm, hvalue.trans (by decide), hwords other hperm⟩

end PacketHeaders.Checksum

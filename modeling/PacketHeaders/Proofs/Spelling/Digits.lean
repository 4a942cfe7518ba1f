import PacketHeaders.Proofs.Spelling.Groups
import PacketHeaders.Text.Digit

/-!
# Octets and their digits

Both readers of octets are exact. Two hexadecimal digits are read when in small letters they are the
two that spell the octet; a decimal number is read when it is the one that spells the octet, which
is the usual one without leading zeros.
-/

namespace PacketHeaders

theorem toNat_ofNat_of_ascii {n : Nat} (h : n < 128) : (Char.ofNat n).toNat = n := by
  rw [Char.ofNat, dif_pos (Or.inl (by omega))]
  rfl

namespace Hex

/-- A digit of either case. -/
def IsDigit (c : Char) : Prop := '0' ≤ c ∧ c ≤ '9' ∨ 'a' ≤ c ∧ c ≤ 'f' ∨ 'A' ≤ c ∧ c ≤ 'F'

theorem isDigit_iff {c : Char} : IsDigit c ↔
    48 ≤ c.toNat ∧ c.toNat ≤ 57 ∨ 97 ≤ c.toNat ∧ c.toNat ≤ 102 ∨ 65 ≤ c.toNat ∧ c.toNat ≤ 70 :=
  Iff.rfl

theorem not_isDigit_colon : ¬IsDigit ':' := by
  rw [isDigit_iff]
  decide

theorem toNat_digit {n : Nat} (h : n < 16) :
    (digit n).toNat = if n < 10 then 48 + n else 87 + n := by
  rw [digit, toNat_ofNat_of_ascii]
  split <;> omega

/-- Only the capitals of ASCII have another small letter. -/
theorem toNat_toLower (c : Char) :
    c.toLower.toNat = if 65 ≤ c.toNat ∧ c.toNat ≤ 90 then c.toNat + 32 else c.toNat := by
  have hcapital : c.val ≥ 'A'.val ∧ c.val ≤ 'Z'.val ↔ 65 ≤ c.toNat ∧ c.toNat ≤ 90 := Iff.rfl
  unfold Char.toLower
  split
  · next h =>
    have hlast := (hcapital.mp h).2
    rw [if_pos (hcapital.mp h)]
    change (c.val + 32).toNat = c.toNat + 32
    rw [UInt32.toNat_add]
    exact Nat.mod_eq_of_lt (by change c.toNat + 32 < _; omega)
  · next h => rw [if_neg (mt hcapital.mpr h)]

theorem value?_eq_some_iff_code {c : Char} {n : Nat} : value? c = some n ↔
    48 ≤ c.toNat ∧ c.toNat ≤ 57 ∧ n = c.toNat - 48 ∨
      97 ≤ c.toNat ∧ c.toNat ≤ 102 ∧ n = c.toNat - 87 ∨
      65 ≤ c.toNat ∧ c.toNat ≤ 70 ∧ n = c.toNat - 55 := by
  change (if 48 ≤ c.toNat ∧ c.toNat ≤ 57 then some (c.toNat - 48)
    else if 97 ≤ c.toNat ∧ c.toNat ≤ 102 then some (c.toNat - 87)
    else if 65 ≤ c.toNat ∧ c.toNat ≤ 70 then some (c.toNat - 55) else none) = some n ↔ _
  split
  · rw [Option.some.injEq]
    omega
  · split
    · rw [Option.some.injEq]
      omega
    · split
      · rw [Option.some.injEq]
        omega
      · simp only [reduceCtorEq, false_iff]
        omega

/-- A digit is read as the number that its small letter writes. -/
theorem value?_eq_some_iff {c : Char} {n : Nat} :
    value? c = some n ↔ n < 16 ∧ c.toLower = digit n := by
  have hlower := toNat_toLower c
  rw [value?_eq_some_iff_code]
  constructor
  · intro hcode
    have hn : n < 16 := by omega
    refine ⟨hn, Char.toNat_inj.mp ?_⟩
    rw [hlower, toNat_digit hn]
    split <;> split <;> omega
  · rintro ⟨hn, hdigit⟩
    have hcode := congrArg Char.toNat hdigit
    rw [hlower, toNat_digit hn] at hcode
    split at hcode <;> split at hcode <;> omega

theorem exists_value?_iff {c : Char} : (∃ n, value? c = some n) ↔ IsDigit c := by
  simp only [value?_eq_some_iff_code, isDigit_iff]
  constructor
  · rintro ⟨n, hcode⟩
    omega
  · rintro (h | h | h)
    · exact ⟨_, .inl ⟨h.1, h.2, rfl⟩⟩
    · exact ⟨_, .inr (.inl ⟨h.1, h.2, rfl⟩)⟩
    · exact ⟨_, .inr (.inr ⟨h.1, h.2, rfl⟩)⟩

theorem octet?_pair_eq_some_iff {high low : Char} {b : UInt8} :
    octet? [high, low] = some b ↔
      value? high = some (b.toNat / 16) ∧ value? low = some (b.toNat % 16) := by
  have hlt := b.toNat_lt
  simp only [octet?, Option.bind_eq_bind, Option.bind_eq_some_iff, Option.pure_def,
    Option.some.injEq]
  constructor
  · rintro ⟨x, hx, y, hy, rfl⟩
    have hx16 := (value?_eq_some_iff.mp hx).1
    have hy16 := (value?_eq_some_iff.mp hy).1
    have hnumber : (UInt8.ofNat (16 * x + y)).toNat = 16 * x + y := by
      rw [UInt8.toNat_ofNat']
      omega
    have hhigh : (16 * x + y) / 16 = x := by omega
    have hlow : (16 * x + y) % 16 = y := by omega
    rw [hnumber, hhigh, hlow]
    exact ⟨hx, hy⟩
  · rintro ⟨hx, hy⟩
    refine ⟨_, hx, _, hy, ?_⟩
    rw [Nat.div_add_mod, UInt8.ofNat_toNat]

/-- An octet is read from the two digits that spell it, in either case. -/
theorem octet?_eq_some_iff {group : List Char} {b : UInt8} :
    octet? group = some b ↔ group.map Char.toLower = ofOctet b := by
  match group with
  | [] | [_] | _ :: _ :: _ :: _ => simp [octet?, ofOctet]
  | [high, low] =>
    have hlt := b.toNat_lt
    have hhigh : b.toNat / 16 < 16 := by omega
    have hlow : b.toNat % 16 < 16 := by omega
    rw [octet?_pair_eq_some_iff, value?_eq_some_iff, value?_eq_some_iff, and_iff_right hhigh,
      and_iff_right hlow]
    simp [ofOctet]

theorem exists_octet?_iff {group : List Char} :
    (∃ b, octet? group = some b) ↔ group.length = 2 ∧ ∀ c ∈ group, IsDigit c := by
  match group with
  | [] | [_] | _ :: _ :: _ :: _ => simp [octet?]
  | [high, low] =>
    simp only [octet?, Option.bind_eq_bind, Option.bind_eq_some_iff, Option.pure_def,
      List.length_cons, List.length_nil, List.forall_mem_cons, ← exists_value?_iff]
    constructor
    · rintro ⟨_, x, hx, y, hy, -⟩
      exact ⟨trivial, ⟨x, hx⟩, ⟨y, hy⟩, by simp⟩
    · rintro ⟨-, ⟨x, hx⟩, ⟨y, hy⟩, -⟩
      exact ⟨_, x, hx, y, hy, rfl⟩

theorem octet?_ofOctet (b : UInt8) : octet? (ofOctet b) = some b := by
  have hlt := b.toNat_lt
  have hsmall {n : Nat} (hn : n < 16) : (digit n).toLower = digit n := by
    rw [← Char.toNat_inj, toNat_toLower, toNat_digit hn]
    split <;> split <;> omega
  have hhigh := hsmall (show b.toNat / 16 < 16 by omega)
  have hlow := hsmall (show b.toNat % 16 < 16 by omega)
  rw [octet?_eq_some_iff]
  simp [ofOctet, hhigh, hlow]

theorem colon_not_mem_ofOctet (b : UInt8) : ':' ∉ ofOctet b := by
  intro hcolon
  obtain ⟨-, hdigits⟩ := exists_octet?_iff.mp ⟨b, octet?_ofOctet b⟩
  exact not_isDigit_colon (hdigits _ hcolon)

theorem spelled : Groups.Spelled ':' Char.toLower octet? ofOctet where
  fold_eq_sep_iff c := by
    have hcolon : (':' : Char).toNat = 58 := rfl
    rw [← Char.toNat_inj, ← Char.toNat_inj, toNat_toLower, hcolon]
    split <;> omega
  read_eq_some_iff _ _ := octet?_eq_some_iff
  read_print := octet?_ofOctet
  sep_not_mem := colon_not_mem_ofOctet

end Hex

namespace Decimal

theorem toNat_digit {n : Nat} (h : n < 10) : (digit n).toNat = 48 + n :=
  toNat_ofNat_of_ascii (by omega)

theorem value?_eq_some_iff {c : Char} {n : Nat} : value? c = some n ↔ n < 10 ∧ c = digit n := by
  change (if 48 ≤ c.toNat ∧ c.toNat ≤ 57 then some (c.toNat - 48) else none) = some n ↔ _
  constructor
  · intro hcode
    split at hcode
    · cases hcode
      have hn : c.toNat - 48 < 10 := by omega
      refine ⟨hn, Char.toNat_inj.mp ?_⟩
      rw [toNat_digit hn]
      omega
    · cases hcode
  · rintro ⟨hn, rfl⟩
    rw [toNat_digit hn, if_pos (by omega), Nat.add_sub_cancel_left]

theorem mapM_value?_eq_some_iff {text : List Char} {digits : List Nat} :
    text.mapM value? = some digits ↔ (∀ n ∈ digits, n < 10) ∧ text = digits.map digit := by
  induction text generalizing digits with
  | nil => cases digits <;> simp
  | cons c text ih =>
    rw [Groups.mapM_cons_eq_some_iff]
    simp only [value?_eq_some_iff, ih]
    cases digits with
    | nil => simp
    | cons n digits =>
      simp only [List.cons.injEq, List.forall_mem_cons, List.map_cons]
      constructor
      · rintro ⟨_, _, ⟨hn, hc⟩, ⟨hdigits, htext⟩, rfl, rfl⟩
        exact ⟨⟨hn, hdigits⟩, hc, htext⟩
      · rintro ⟨⟨hn, hdigits⟩, hc, htext⟩
        exact ⟨_, _, ⟨hn, hc⟩, ⟨hdigits, htext⟩, rfl, rfl⟩

theorem digit_eq_digitChar {n : Nat} (h : n < 10) : digit n = n.digitChar := by
  rw [← Char.toNat_inj, toNat_digit h, Nat.toNat_digitChar_of_lt_ten h]

/-- An octet is spelled as numbers are everywhere. -/
theorem ofOctet_eq_toDigits (b : UInt8) : ofOctet b = Nat.toDigits 10 b.toNat := by
  have hlt := b.toNat_lt
  have hlast : digit (b.toNat % 10) = (b.toNat % 10).digitChar := digit_eq_digitChar (by omega)
  unfold ofOctet
  simp only
  split
  · next hone => rw [Nat.toDigits_of_lt_base hone, digit_eq_digitChar hone]
  · next hone =>
    rw [Nat.toDigits_eq_if (by decide), if_neg hone, hlast]
    split
    · next htwo =>
      have htens : b.toNat / 10 < 10 := by omega
      rw [Nat.toDigits_of_lt_base htens, digit_eq_digitChar htens]
      rfl
    · next htwo =>
      have hhundreds : b.toNat / 10 / 10 < 10 := by omega
      have htens : b.toNat / 10 % 10 < 10 := by omega
      have hdiv : b.toNat / 100 = b.toNat / 10 / 10 := by omega
      rw [Nat.toDigits_eq_if (by decide), if_neg (by omega), Nat.toDigits_of_lt_base hhundreds,
        hdiv, digit_eq_digitChar hhundreds, digit_eq_digitChar htens]
      rfl

theorem ofOctet_one {a : Nat} (ha : a < 10) : ofOctet (.ofNat a) = [digit a] := by
  have hnumber : (UInt8.ofNat a).toNat = a := by
    rw [UInt8.toNat_ofNat']
    omega
  simp only [ofOctet, hnumber, if_pos ha]

theorem ofOctet_two {a b : Nat} (ha : a < 10) (hb : b < 10) (hlead : a ≠ 0) :
    ofOctet (.ofNat (10 * a + b)) = [digit a, digit b] := by
  have hnumber : (UInt8.ofNat (10 * a + b)).toNat = 10 * a + b := by
    rw [UInt8.toNat_ofNat']
    omega
  have htens : (10 * a + b) / 10 = a := by omega
  have hunits : (10 * a + b) % 10 = b := by omega
  simp only [ofOctet, hnumber, htens, hunits]
  rw [if_neg (by omega), if_pos (by omega)]

theorem ofOctet_three {a b c : Nat} (hb : b < 10) (hc : c < 10) (hlead : a ≠ 0)
    (hle : 100 * a + 10 * b + c ≤ 255) :
    ofOctet (.ofNat (100 * a + 10 * b + c)) = [digit a, digit b, digit c] := by
  have hnumber : (UInt8.ofNat (100 * a + 10 * b + c)).toNat = 100 * a + 10 * b + c := by
    rw [UInt8.toNat_ofNat']
    omega
  have hhundreds : (100 * a + 10 * b + c) / 100 = a := by omega
  have htens : (100 * a + 10 * b + c) / 10 % 10 = b := by omega
  have hunits : (100 * a + 10 * b + c) % 10 = c := by omega
  simp only [ofOctet, hnumber, hhundreds, htens, hunits]
  rw [if_neg (by omega), if_neg (by omega)]

theorem ofOctet_of_octet? {group : List Char} {b : UInt8} (h : octet? group = some b) :
    ofOctet b = group := by
  unfold octet? at h
  split at h
  · next a hdigits =>
    obtain ⟨hlt, rfl⟩ := mapM_value?_eq_some_iff.mp hdigits
    simp only [List.forall_mem_cons] at hlt
    cases h
    exact ofOctet_one hlt.1
  · next a b hdigits =>
    obtain ⟨hlt, rfl⟩ := mapM_value?_eq_some_iff.mp hdigits
    simp only [List.forall_mem_cons] at hlt
    split at h
    · next hlead =>
      cases h
      exact ofOctet_two hlt.1 hlt.2.1 hlead
    · cases h
  · next a b c hdigits =>
    obtain ⟨hlt, rfl⟩ := mapM_value?_eq_some_iff.mp hdigits
    simp only [List.forall_mem_cons] at hlt
    split at h
    · next hle =>
      cases h
      exact ofOctet_three hlt.2.1 hlt.2.2.1 hle.1 hle.2
    · cases h
  · cases h

theorem octet?_ofOctet (b : UInt8) : octet? (ofOctet b) = some b := by
  have hlt := b.toNat_lt
  have hread (digits : List Nat) (h : ∀ n ∈ digits, n < 10) :
      (digits.map digit).mapM value? = some digits := mapM_value?_eq_some_iff.mpr ⟨h, rfl⟩
  unfold ofOctet
  simp only
  split
  · next hone =>
    have hdigits := hread [b.toNat] (by simpa using hone)
    simp only [List.map_cons, List.map_nil] at hdigits
    simp only [octet?, hdigits, UInt8.ofNat_toNat]
  · split
    · next htwo =>
      have hdigits := hread [b.toNat / 10, b.toNat % 10] (by simp; omega)
      simp only [List.map_cons, List.map_nil] at hdigits
      have hnumber : 10 * (b.toNat / 10) + b.toNat % 10 = b.toNat := by omega
      simp only [octet?, hdigits, hnumber, UInt8.ofNat_toNat]
      rw [if_pos (by omega)]
    · next htwo =>
      have hdigits := hread [b.toNat / 100, b.toNat / 10 % 10, b.toNat % 10] (by simp; omega)
      simp only [List.map_cons, List.map_nil] at hdigits
      have hnumber : 100 * (b.toNat / 100) + 10 * (b.toNat / 10 % 10) + b.toNat % 10 = b.toNat := by
        omega
      simp only [octet?, hdigits, hnumber, UInt8.ofNat_toNat]
      rw [if_pos (by omega)]

/-- An octet is read from the one number that spells it. -/
theorem octet?_eq_some_iff {group : List Char} {b : UInt8} :
    octet? group = some b ↔ group = ofOctet b := by
  constructor
  · intro h
    exact (ofOctet_of_octet? h).symm
  · rintro rfl
    exact octet?_ofOctet b

theorem exists_digits_of_octet? {group : List Char} {b : UInt8} (h : octet? group = some b) :
    ∃ digits, group.mapM value? = some digits := by
  unfold octet? at h
  split at h
  · next hdigits => exact ⟨_, hdigits⟩
  · next hdigits => exact ⟨_, hdigits⟩
  · next hdigits => exact ⟨_, hdigits⟩
  · cases h

theorem dot_not_mem_ofOctet (b : UInt8) : '.' ∉ ofOctet b := by
  intro hdot
  have hread := exists_digits_of_octet? (octet?_ofOctet b)
  obtain ⟨n, hvalue⟩ := Groups.exists_mapM_iff.mp hread _ hdot
  cases hvalue

theorem spelled : Groups.Spelled '.' id octet? ofOctet where
  fold_eq_sep_iff _ := Iff.rfl
  read_eq_some_iff group b := by rw [List.map_id, octet?_eq_some_iff]
  read_print := octet?_ofOctet
  sep_not_mem := dot_not_mem_ofOctet

end Decimal

end PacketHeaders

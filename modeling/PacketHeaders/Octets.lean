/-!
# Octet strings

Header fields are unsigned numbers spelled with their most significant octet first. A string of `w`
octets and a number below `limit w` determine each other. `slice` reads a run of octets and `splice`
overwrites one in place: a splice never changes the length of the string it writes into, is read
back by the slice at the same place, and is invisible to every slice beside it.
-/

namespace PacketHeaders.Octets

/-- How many strings of `width` octets there are. -/
def limit : Nat → Nat
  | 0 => 1
  | width + 1 => 256 * limit width

/-- The number that a string of octets spells. -/
def toNat : List UInt8 → Nat
  | [] => 0
  | b :: rest => b.toNat * limit rest.length + toNat rest

/-- The last `width` octets of the number `n`. -/
def ofNat : Nat → Nat → List UInt8
  | 0, _ => []
  | width + 1, n => UInt8.ofNat (n / limit width) :: ofNat width n

theorem limit_pos (width : Nat) : 0 < limit width := by
  induction width with
  | zero => exact Nat.one_pos
  | succ width ih => exact Nat.mul_pos (by decide) ih

@[simp] theorem length_ofNat (width n : Nat) : (ofNat width n).length = width := by
  induction width with
  | zero => rfl
  | succ width ih => simp [ofNat, ih]

theorem toNat_lt (bytes : List UInt8) : toNat bytes < limit bytes.length := by
  induction bytes with
  | nil => exact Nat.one_pos
  | cons b rest ih =>
    have hb : b.toNat + 1 ≤ 256 := b.toNat_lt
    calc b.toNat * limit rest.length + toNat rest
        < b.toNat * limit rest.length + limit rest.length := by omega
      _ = (b.toNat + 1) * limit rest.length := (Nat.succ_mul ..).symm
      _ ≤ 256 * limit rest.length := Nat.mul_le_mul_right _ hb

theorem toNat_ofNat (width n : Nat) : toNat (ofNat width n) = n % limit width := by
  induction width with
  | zero => exact (Nat.mod_one n).symm
  | succ width ih =>
    have hhead : (UInt8.ofNat (n / limit width)).toNat = n / limit width % 256 := UInt8.toNat_ofNat'
    rw [ofNat, toNat, length_ofNat, ih, hhead, limit, Nat.mul_comm 256, Nat.mod_mul,
      Nat.mul_comm, Nat.add_comm]

theorem ofNat_add_mul (width n k : Nat) : ofNat width (n + k * limit width) = ofNat width n := by
  induction width generalizing k with
  | zero => rfl
  | succ width ih =>
    have hmul : k * limit (width + 1) = k * 256 * limit width := (Nat.mul_assoc ..).symm
    have hdiv : (n + k * limit (width + 1)) / limit width = n / limit width + k * 256 := by
      rw [hmul, Nat.add_mul_div_right _ _ (limit_pos width)]
    have hhead : UInt8.ofNat (n / limit width + k * 256) = UInt8.ofNat (n / limit width) := by
      apply UInt8.toNat_inj.mp
      simp [UInt8.toNat_ofNat']
    rw [ofNat, ofNat, hdiv, hhead, hmul, ih]

theorem ofNat_toNat (bytes : List UInt8) : ofNat bytes.length (toNat bytes) = bytes := by
  induction bytes with
  | nil => rfl
  | cons b rest ih =>
    have hdiv : (b.toNat * limit rest.length + toNat rest) / limit rest.length = b.toNat := by
      rw [Nat.add_comm, Nat.add_mul_div_right _ _ (limit_pos _),
        Nat.div_eq_of_lt (toNat_lt rest), Nat.zero_add]
    have hrest : ofNat rest.length (b.toNat * limit rest.length + toNat rest) = rest := by
      rw [Nat.add_comm, ofNat_add_mul, ih]
    rw [List.length_cons, ofNat, toNat, hdiv, hrest, UInt8.ofNat_toNat]

/-- The `len` octets from position `pos` on, as far as there are any. -/
def slice (bytes : List UInt8) (pos len : Nat) : List UInt8 :=
  (bytes.drop pos).take len

/-- Writes `new` over the octets from position `pos` on; what would run past the end is lost. -/
def splice (bytes : List UInt8) (pos : Nat) (new : List UInt8) : List UInt8 :=
  (bytes.take pos ++ new ++ bytes.drop (pos + new.length)).take bytes.length

theorem length_slice {bytes : List UInt8} {pos len : Nat} (h : pos + len ≤ bytes.length) :
    (slice bytes pos len).length = len := by
  simp only [slice, List.length_take, List.length_drop]
  omega

theorem getElem?_slice (bytes : List UInt8) (pos len i : Nat) :
    (slice bytes pos len)[i]? = if i < len then bytes[pos + i]? else none := by
  simp [slice, List.getElem?_take, List.getElem?_drop]

@[simp] theorem length_splice (bytes : List UInt8) (pos : Nat) (new : List UInt8) :
    (splice bytes pos new).length = bytes.length := by
  simp only [splice, List.length_take, List.length_append, List.length_drop]
  omega

/-- Each position holds the new octet if there is one for it, and the old one otherwise. -/
theorem getElem?_splice (bytes : List UInt8) (pos : Nat) (new : List UInt8) (i : Nat) :
    (splice bytes pos new)[i]? =
      if i < bytes.length ∧ pos ≤ i ∧ i < pos + new.length then new[i - pos]? else bytes[i]? := by
  simp only [splice, List.append_assoc, List.getElem?_take, List.getElem?_append, List.length_take,
    List.getElem?_drop]
  by_cases hi : i < bytes.length
  · by_cases hp : i < pos
    · have h₁ : i < min pos bytes.length := by omega
      have h₂ : ¬pos ≤ i := by omega
      simp [hi, hp, h₁, h₂]
    · have h₁ : ¬i < min pos bytes.length := by omega
      have h₂ : min pos bytes.length = pos := by omega
      by_cases hn : i < pos + new.length
      · have h₃ : i - pos < new.length := by omega
        rw [if_pos hi, if_neg h₁, h₂, if_pos h₃, if_pos ⟨hi, by omega, hn⟩]
      · have h₃ : ¬i - pos < new.length := by omega
        have h₄ : pos + new.length + (i - pos - new.length) = i := by omega
        rw [if_pos hi, if_neg h₁, h₂, if_neg h₃, h₄, if_neg (by omega)]
  · rw [if_neg hi, if_neg (by omega), List.getElem?_eq_none (by omega)]

theorem slice_splice_self {bytes new : List UInt8} {pos : Nat}
    (h : pos + new.length ≤ bytes.length) : slice (splice bytes pos new) pos new.length = new := by
  apply List.ext_getElem?
  intro i
  rw [getElem?_slice, getElem?_splice]
  by_cases hi : i < new.length
  · have h₁ : pos + i < bytes.length := by omega
    simp [hi, h₁]
  · simp [hi]

theorem slice_splice_of_disjoint {bytes new : List UInt8} {pos start len : Nat}
    (h : start + len ≤ pos ∨ pos + new.length ≤ start) :
    slice (splice bytes pos new) start len = slice bytes start len := by
  apply List.ext_getElem?
  intro i
  rw [getElem?_slice, getElem?_slice, getElem?_splice]
  by_cases hi : i < len
  · have h₁ : ¬(start + i < bytes.length ∧ pos ≤ start + i ∧ start + i < pos + new.length) := by
      omega
    simp [hi, h₁]
  · simp [hi]

/-- Writing back what a slice holds changes nothing. -/
theorem splice_slice (bytes : List UInt8) (pos len : Nat) :
    splice bytes pos (slice bytes pos len) = bytes := by
  apply List.ext_getElem?
  intro i
  rw [getElem?_splice]
  split
  · rename_i h
    have hlen : (slice bytes pos len).length ≤ len := List.length_take_le ..
    rw [getElem?_slice, if_pos (by omega), show pos + (i - pos) = i by omega]
  · rfl

end PacketHeaders.Octets

import PacketHeaders.Field

/-!
# Single octets and splices

`octetAt` and `wordAt` read a string of octets at a position without regard to any header. A field
of one or two octets holds just what they read. A splice past the end writes nothing, splicing
commutes with cutting, and `ChangedWithin` says of two strings that one was made from the other by
writing between two positions only.
-/

namespace PacketHeaders

namespace Octets

/-- The octet at a position, zero past the end. -/
def octetAt (bytes : List UInt8) (pos : Nat) : Nat := (bytes.getD pos 0).toNat

/-- The 16-bit word at a position. -/
def wordAt (bytes : List UInt8) (pos : Nat) : Nat :=
  256 * octetAt bytes pos + octetAt bytes (pos + 1)

theorem octetAt_eq_getElem {bytes : List UInt8} {pos : Nat} (h : pos < bytes.length) :
    octetAt bytes pos = bytes[pos].toNat := by
  rw [octetAt, List.getD_eq_getElem?_getD, List.getElem?_eq_getElem h, Option.getD_some]

theorem octetAt_lt (bytes : List UInt8) (pos : Nat) : octetAt bytes pos < 256 :=
  (bytes.getD pos 0).toNat_lt

theorem wordAt_lt (bytes : List UInt8) (pos : Nat) : wordAt bytes pos < 65536 := by
  have := octetAt_lt bytes pos
  have := octetAt_lt bytes (pos + 1)
  simp only [wordAt]
  omega

theorem octetAt_append {bytes : List UInt8} {pos : Nat} (h : pos < bytes.length)
    (rest : List UInt8) : octetAt (bytes ++ rest) pos = octetAt bytes pos := by
  rw [octetAt, octetAt, List.getD_eq_getElem?_getD, List.getD_eq_getElem?_getD,
    List.getElem?_append_left h]

theorem wordAt_append {bytes : List UInt8} {pos : Nat} (h : pos + 1 < bytes.length)
    (rest : List UInt8) : wordAt (bytes ++ rest) pos = wordAt bytes pos := by
  rw [wordAt, wordAt, octetAt_append h, octetAt_append (by omega)]

theorem wordAt_drop (bytes : List UInt8) (start pos : Nat) :
    wordAt (bytes.drop start) pos = wordAt bytes (start + pos) := by
  simp only [wordAt, octetAt, List.getD_eq_getElem?_getD, List.getElem?_drop, Nat.add_assoc]

theorem wordAt_take {pos n : Nat} (h : pos + 2 ≤ n) (bytes : List UInt8) :
    wordAt (bytes.take n) pos = wordAt bytes pos := by
  simp only [wordAt, octetAt, List.getD_eq_getElem?_getD, List.getElem?_take]
  rw [if_pos (by omega), if_pos (by omega)]

theorem wordAt_append_right (front back : List UInt8) (pos : Nat) :
    wordAt (front ++ back) (front.length + pos) = wordAt back pos := by
  rw [← wordAt_drop, List.drop_left]

theorem wordAt_of_length_le {bytes : List UInt8} {pos : Nat} (h : bytes.length ≤ pos) :
    wordAt bytes pos = 0 := by
  simp only [wordAt, octetAt, List.getD_eq_getElem?_getD]
  rw [List.getElem?_eq_none h, List.getElem?_eq_none (by omega)]
  rfl

theorem toNat_slice_one {bytes : List UInt8} {pos : Nat} (h : pos + 1 ≤ bytes.length) :
    toNat (slice bytes pos 1) = octetAt bytes pos := by
  rw [slice, List.drop_eq_getElem_cons h, octetAt_eq_getElem h]
  simp only [List.take_succ_cons, List.take_zero, toNat, List.length_nil, limit]
  omega

theorem toNat_slice_two {bytes : List UInt8} {pos : Nat} (h : pos + 2 ≤ bytes.length) :
    toNat (slice bytes pos 2) = wordAt bytes pos := by
  have h₀ : pos < bytes.length := by omega
  have h₁ : pos + 1 < bytes.length := by omega
  rw [slice, List.drop_eq_getElem_cons h₀, List.drop_eq_getElem_cons h₁, wordAt,
    octetAt_eq_getElem h₀, octetAt_eq_getElem h₁]
  simp only [List.take_succ_cons, List.take_zero, toNat, List.length_nil, List.length_cons, limit]
  omega

theorem wordAt_splice {bytes : List UInt8} {pos : Nat} (h : pos + 2 ≤ bytes.length) (value : Nat) :
    wordAt (splice bytes pos (ofNat 2 value)) pos = value % 65536 := by
  have hroom : pos + (ofNat 2 value).length ≤ bytes.length := h
  have hread : slice (splice bytes pos (ofNat 2 value)) pos 2 = ofNat 2 value :=
    slice_splice_self hroom
  rw [← toNat_slice_two (by rwa [length_splice]), hread]
  exact toNat_ofNat 2 value

theorem splice_of_length_le {bytes new : List UInt8} {pos : Nat} (h : bytes.length ≤ pos) :
    splice bytes pos new = bytes := by
  apply List.ext_getElem?
  intro i
  rw [getElem?_splice, if_neg (by omega)]

/-- A splice leaves nothing of an earlier one at the same place and of the same length. -/
theorem splice_splice_self {bytes old new : List UInt8} {pos : Nat}
    (h : old.length = new.length) : splice (splice bytes pos old) pos new = splice bytes pos new := by
  apply List.ext_getElem?
  intro i
  rw [getElem?_splice, getElem?_splice, getElem?_splice, length_splice, h]
  split
  · rfl
  · rfl

/-- With room for it, a splice stands between what was in front of it and what was behind it. -/
theorem splice_eq_append {bytes new : List UInt8} {pos : Nat}
    (h : pos + new.length ≤ bytes.length) :
    splice bytes pos new = bytes.take pos ++ (new ++ bytes.drop (pos + new.length)) := by
  rw [splice, List.append_assoc, List.take_of_length_le]
  simp only [List.length_append, List.length_take, List.length_drop]
  omega

theorem take_splice (bytes : List UInt8) (pos : Nat) (new : List UInt8) (n : Nat) :
    (splice bytes pos new).take n = splice (bytes.take n) pos new := by
  have hlength (i : Nat) : i < (bytes.take n).length ↔ i < n ∧ i < bytes.length := by
    rw [List.length_take]
    omega
  apply List.ext_getElem?
  intro i
  rw [List.getElem?_take, getElem?_splice, getElem?_splice, List.getElem?_take]
  by_cases hi : i < n
  · simp only [hlength, hi, true_and, if_true]
  · simp only [hlength, hi, false_and, if_false]

theorem drop_splice (bytes : List UInt8) (start pos : Nat) (new : List UInt8) :
    (splice bytes (start + pos) new).drop start = splice (bytes.drop start) pos new := by
  have hlength (i : Nat) : i < (bytes.drop start).length ↔ start + i < bytes.length := by
    rw [List.length_drop]
    omega
  apply List.ext_getElem?
  intro i
  rw [List.getElem?_drop, getElem?_splice, getElem?_splice, List.getElem?_drop,
    Nat.add_sub_add_left]
  simp only [hlength, Nat.add_assoc, Nat.add_le_add_iff_left, Nat.add_lt_add_iff_left]

theorem splice_append_right (front back new : List UInt8) (pos : Nat) :
    splice (front ++ back) (front.length + pos) new = front ++ splice back pos new := by
  apply List.ext_getElem?
  intro i
  rw [getElem?_splice, List.getElem?_append, List.getElem?_append, getElem?_splice,
    List.length_append]
  by_cases hi : i < front.length
  · rw [if_pos hi, if_pos hi, if_neg (by omega)]
  · rw [if_neg hi, if_neg hi, Nat.sub_sub]
    split
    · rw [if_pos (by omega)]
    · rw [if_neg (by omega)]

/-- A slice sees what a splice writes inside it. -/
theorem slice_splice_within (bytes : List UInt8) (start len pos : Nat) (new : List UInt8) :
    slice (splice bytes (start + pos) new) start len = splice (slice bytes start len) pos new := by
  rw [slice, drop_splice, take_splice, slice]

/-- `new` is as long as `old` and has other octets at most from position `first` up to `stop`. -/
structure ChangedWithin (first stop : Nat) (old new : List UInt8) : Prop where
  length_eq : new.length = old.length
  getElem?_eq : ∀ i, i < first ∨ stop ≤ i → new[i]? = old[i]?

namespace ChangedWithin

variable {first stop : Nat} {old mid new : List UInt8}

theorem refl (first stop : Nat) (bytes : List UInt8) : ChangedWithin first stop bytes bytes :=
  ⟨rfl, fun _ _ => rfl⟩

theorem trans (h₁ : ChangedWithin first stop old mid) (h₂ : ChangedWithin first stop mid new) :
    ChangedWithin first stop old new where
  length_eq := h₂.length_eq.trans h₁.length_eq
  getElem?_eq i hi := (h₂.getElem?_eq i hi).trans (h₁.getElem?_eq i hi)

theorem mono (h : ChangedWithin first stop old new) {first' stop' : Nat} (hfirst : first' ≤ first)
    (hstop : stop ≤ stop') : ChangedWithin first' stop' old new where
  length_eq := h.length_eq
  getElem?_eq i hi := h.getElem?_eq i (by omega)

theorem upTo_length (h : ChangedWithin first stop old new) :
    ChangedWithin first old.length old new where
  length_eq := h.length_eq
  getElem?_eq i hi := by
    rcases hi with hi | hi
    · exact h.getElem?_eq i (.inl hi)
    · rw [List.getElem?_eq_none hi, List.getElem?_eq_none (by rw [h.length_eq]; exact hi)]

theorem splice (bytes : List UInt8) (pos : Nat) (new : List UInt8) :
    ChangedWithin pos (pos + new.length) bytes (splice bytes pos new) where
  length_eq := length_splice ..
  getElem?_eq i hi := by rw [getElem?_splice, if_neg (by omega)]

theorem slice_eq (h : ChangedWithin first stop old new) {pos len : Nat}
    (hpos : pos + len ≤ first ∨ stop ≤ pos) : slice new pos len = slice old pos len := by
  apply List.ext_getElem?
  intro i
  rw [getElem?_slice, getElem?_slice]
  by_cases hi : i < len
  · rw [if_pos hi, if_pos hi, h.getElem?_eq _ (by omega)]
  · rw [if_neg hi, if_neg hi]

theorem drop_eq (h : ChangedWithin first stop old new) {pos : Nat} (hpos : stop ≤ pos) :
    new.drop pos = old.drop pos := by
  apply List.ext_getElem?
  intro i
  rw [List.getElem?_drop, List.getElem?_drop]
  exact h.getElem?_eq _ (.inr (by omega))

theorem wordAt_eq (h : ChangedWithin first stop old new) {pos : Nat}
    (hpos : pos + 2 ≤ first ∨ stop ≤ pos) : wordAt new pos = wordAt old pos := by
  simp only [wordAt, octetAt, List.getD_eq_getElem?_getD]
  rw [h.getElem?_eq pos (by omega), h.getElem?_eq (pos + 1) (by omega)]

theorem append_right (h : ChangedWithin first stop old new) (back : List UInt8) :
    ChangedWithin first stop (old ++ back) (new ++ back) where
  length_eq := by rw [List.length_append, List.length_append, h.length_eq]
  getElem?_eq i hi := by
    rw [List.getElem?_append, List.getElem?_append, h.length_eq, h.getElem?_eq i hi]

theorem append_left (h : ChangedWithin first stop old new) (front : List UInt8) :
    ChangedWithin (front.length + first) (front.length + stop) (front ++ old) (front ++ new) where
  length_eq := by rw [List.length_append, List.length_append, h.length_eq]
  getElem?_eq i hi := by
    rw [List.getElem?_append, List.getElem?_append]
    split
    · rfl
    · exact h.getElem?_eq _ (by omega)

/-- Strings that differ in a stretch are equal once the stretch is overwritten. -/
theorem splice_eq (h : ChangedWithin first stop old new) {pos : Nat} {patch : List UInt8}
    (hfirst : pos ≤ first) (hstop : stop ≤ pos + patch.length) :
    Octets.splice new pos patch = Octets.splice old pos patch := by
  apply List.ext_getElem?
  intro i
  rw [getElem?_splice, getElem?_splice, h.length_eq]
  split
  · rfl
  · rename_i hout
    rcases Nat.lt_or_ge i old.length with hi | hi
    · exact h.getElem?_eq i (by omega)
    · rw [List.getElem?_eq_none hi, List.getElem?_eq_none (by rw [h.length_eq]; exact hi)]

end ChangedWithin

end Octets

namespace Window

variable {n : Nat} (w : Window n) (f : Field n)

theorem field_room : w.start + f.pos + f.width ≤ w.bytes.length := by
  have := w.room
  have := f.inside
  omega

theorem number_eq_octetAt (h : f.width = 1) :
    w.number f = Octets.octetAt w.bytes (w.start + f.pos) := by
  have hroom := w.field_room f
  rw [h] at hroom
  rw [number, octets, h, Octets.toNat_slice_one hroom]

theorem number_eq_wordAt (h : f.width = 2) :
    w.number f = Octets.wordAt w.bytes (w.start + f.pos) := by
  have hroom := w.field_room f
  rw [h] at hroom
  rw [number, octets, h, Octets.toNat_slice_two hroom]

/-- A field of one octet is shown in full. -/
theorem toNat_number8 (h : f.width = 1) :
    (w.number8 f).toNat = Octets.octetAt w.bytes (w.start + f.pos) := by
  rw [number8, w.number_eq_octetAt f h, UInt8.toNat_ofNat']
  exact Nat.mod_eq_of_lt (Octets.octetAt_lt ..)

/-- A field of two octets is shown in full. -/
theorem toNat_number16 (h : f.width = 2) :
    (w.number16 f).toNat = Octets.wordAt w.bytes (w.start + f.pos) := by
  rw [number16, w.number_eq_wordAt f h, UInt16.toNat_ofNat']
  exact Nat.mod_eq_of_lt (Octets.wordAt_lt ..)

end Window

end PacketHeaders

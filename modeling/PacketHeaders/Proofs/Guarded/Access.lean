import PacketHeaders.Checksum
import PacketHeaders.Proofs.Octets

/-!
# Guarded access to octets

Reading and writing octets where nothing is cut to size in silence: an index or a range that leaves
the octets at hand, a lower bound above its upper bound and a copy into room of another size all
give none. A window guarantees that its fields, its head and its tail can be read in this way, with
what the unguarded readings give, and that the frame behind it can be cut.
-/

namespace PacketHeaders

/-- The number nearest to `n` between two bounds. -/
def clamp? (n low high : Nat) : Option Nat :=
  if low ≤ high then some (min (max n low) high) else none

theorem clamp?_of_le {low high : Nat} (h : low ≤ high) (n : Nat) :
    clamp? n low high = some (min (max n low) high) := if_pos h

namespace Octets

/-- The octets from position `first` up to position `stop`. -/
def range? (bytes : List UInt8) (first stop : Nat) : Option (List UInt8) :=
  if first ≤ stop ∧ stop ≤ bytes.length then some ((bytes.take stop).drop first) else none

/-- The `len` octets from position `pos` on, each read by itself. -/
def each? (bytes : List UInt8) (pos : Nat) : Nat → Option (List UInt8)
  | 0 => some []
  | len + 1 => do return (← bytes[pos]?) :: (← each? bytes (pos + 1) len)

/-- A copy into room for `n` octets. -/
def copy? (n : Nat) (bytes : List UInt8) : Option { octets : List UInt8 // octets.length = n } :=
  if h : bytes.length = n then some ⟨bytes, h⟩ else none

/-- A copy into the room from position `first` up to position `stop`. -/
def overwrite? (bytes : List UInt8) (first stop : Nat) (new : List UInt8) :
    Option (List UInt8) := do
  let room ← range? bytes first stop
  let copied ← copy? room.length new
  return splice bytes first copied.val

theorem range?_of_le {bytes : List UInt8} {first stop : Nat} (h₁ : first ≤ stop)
    (h₂ : stop ≤ bytes.length) : range? bytes first stop = some ((bytes.take stop).drop first) :=
  if_pos ⟨h₁, h₂⟩

theorem range?_zero {bytes : List UInt8} {stop : Nat} (h : stop ≤ bytes.length) :
    range? bytes 0 stop = some (bytes.take stop) := range?_of_le (Nat.zero_le _) h

theorem range?_length {bytes : List UInt8} {first : Nat} (h : first ≤ bytes.length) :
    range? bytes first bytes.length = some (bytes.drop first) := by
  rw [range?_of_le h (Nat.le_refl _), List.take_length]

theorem range?_eq_slice {bytes : List UInt8} {pos len : Nat} (h : pos + len ≤ bytes.length) :
    range? bytes pos (pos + len) = some (slice bytes pos len) := by
  rw [range?_of_le (Nat.le_add_right ..) h, slice, List.drop_take, Nat.add_sub_cancel_left]

theorem each?_eq_slice {bytes : List UInt8} {pos len : Nat} (h : pos + len ≤ bytes.length) :
    each? bytes pos len = some (slice bytes pos len) := by
  induction len generalizing pos with
  | zero => simp [each?, slice]
  | succ len ih =>
    have hpos : pos < bytes.length := by omega
    have hcons : slice bytes pos (len + 1) = bytes[pos] :: slice bytes (pos + 1) len := by
      rw [slice, List.drop_eq_getElem_cons hpos, List.take_succ_cons]
      rfl
    rw [each?, List.getElem?_eq_getElem hpos, ih (by omega), hcons]
    rfl

theorem overwrite?_of_le {bytes new : List UInt8} {first : Nat}
    (h : first + new.length ≤ bytes.length) :
    overwrite? bytes first (first + new.length) new = some (splice bytes first new) := by
  have hroom : (slice bytes first new.length).length = new.length := length_slice h
  rw [overwrite?, range?_eq_slice h, Option.bind_eq_bind, Option.bind_some, copy?,
    dif_pos hroom.symm]
  rfl

/-- Room for two octets can be blanked. -/
theorem overwrite?_zeros {bytes : List UInt8} {first : Nat} (h : first + 2 ≤ bytes.length) :
    overwrite? bytes first (first + 2) [0, 0] = some (splice bytes first [0, 0]) :=
  have hroom : first + [(0 : UInt8), 0].length ≤ bytes.length := h
  overwrite?_of_le hroom

end Octets

namespace Span

def tail? (s : Span) : Option (List UInt8) := Octets.range? s.bytes s.start s.bytes.length

/-- The first `n` octets. -/
def head? (s : Span) (n : Nat) : Option (List UInt8) :=
  Octets.range? s.bytes s.start (s.start + n)

/-- The number in a field. -/
def number? {n : Nat} (s : Span) (f : Field n) : Option Nat :=
  (Octets.each? s.bytes (s.start + f.pos) f.width).map Octets.toNat

/-- The octets of a field, copied into room for as many. -/
def octets? {n : Nat} (s : Span) (f : Field n) :
    Option { octets : List UInt8 // octets.length = f.width } := do
  let octets ← Octets.range? s.bytes (s.start + f.pos) (s.start + f.pos + f.width)
  Octets.copy? f.width octets

def truncate? (s : Span) (stop keep : Nat) : Option Span := do
  let stop ← clamp? stop (min (s.start + keep) s.bytes.length) s.bytes.length
  let bytes ← Octets.range? s.bytes 0 stop
  return { s with bytes }

/-- The frame need not even hold what is kept. -/
theorem truncate?_eq (s : Span) (stop keep : Nat) :
    s.truncate? stop keep = some (s.truncate stop keep) := by
  have hlow : min (s.start + keep) s.bytes.length ≤ s.bytes.length := Nat.min_le_right ..
  rw [truncate?, clamp?_of_le hlow, Option.bind_eq_bind, Option.bind_some,
    Octets.range?_zero (Nat.min_le_right ..), Option.bind_eq_bind, Option.bind_some, truncate]
  congr 2
  rw [List.take_eq_take_iff]
  omega

end Span

namespace Window

variable {n : Nat} (w : Window n)

theorem length_tail : w.tail.length = w.bytes.length - w.start := List.length_drop

theorem le_length_tail : n ≤ w.tail.length := by
  have := w.room
  rw [w.length_tail]
  omega

theorem tail?_eq : w.tail? = some w.tail :=
  Octets.range?_length (Nat.le_trans (Nat.le_add_right ..) w.room)

theorem head?_eq_take {k : Nat} (h : k ≤ w.tail.length) : w.head? k = some (w.tail.take k) := by
  have hroom : w.start + k ≤ w.bytes.length := by
    have := w.room
    rw [w.length_tail] at h
    omega
  exact Octets.range?_eq_slice hroom

theorem head?_eq : w.head? n = some w.head := w.head?_eq_take w.le_length_tail

theorem octets?_eq (f : Field n) : w.octets? f = some ⟨w.octets f, w.length_octets f⟩ := by
  rw [Span.octets?, Octets.range?_eq_slice (w.field_room f), Option.bind_eq_bind,
    Option.bind_some]
  exact dif_pos (w.length_octets f)

theorem number?_eq (f : Field n) : w.number? f = some (w.number f) := by
  rw [Span.number?, Octets.each?_eq_slice (w.field_room f)]
  rfl

end Window

end PacketHeaders

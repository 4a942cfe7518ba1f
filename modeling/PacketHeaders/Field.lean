import PacketHeaders.Span

/-!
# Fields of a header

A field of a header of `n` octets is a run of octets inside it. A window of `n` octets can read and
write each of its fields, because the field lies inside the header and the header inside the frame.
A field that was written is read back; writing one leaves every field beside it and the length of
the frame alone.
-/

namespace PacketHeaders

structure Field (n : Nat) where
  pos : Nat
  width : Nat
  fits : (pos + width).ble n = true := by exact Eq.refl true
deriving DecidableEq, Repr

theorem Field.inside {n : Nat} (f : Field n) : f.pos + f.width ≤ n := Nat.le_of_ble_eq_true f.fits

/-- Two fields without a common octet. -/
def Field.Apart {n : Nat} (f g : Field n) : Prop :=
  f.pos + f.width ≤ g.pos ∨ g.pos + g.width ≤ f.pos

instance {n : Nat} (f g : Field n) : Decidable (f.Apart g) := by
  unfold Field.Apart
  infer_instance

theorem Field.Apart.symm {n : Nat} {f g : Field n} (h : f.Apart g) : g.Apart f := Or.symm h

namespace Window

variable {n : Nat}

/-- The octets that the window guarantees. -/
def head (w : Window n) : List UInt8 := w.tail.take n

def octets (w : Window n) (f : Field n) : List UInt8 :=
  Octets.slice w.bytes (w.start + f.pos) f.width

/-- The unsigned number in a field. -/
def number (w : Window n) (f : Field n) : Nat := Octets.toNat (w.octets f)

def number8 (w : Window n) (f : Field n) : UInt8 := .ofNat (w.number f)

def number16 (w : Window n) (f : Field n) : UInt16 := .ofNat (w.number f)

def number32 (w : Window n) (f : Field n) : UInt32 := .ofNat (w.number f)

/-- Overwrites the frame from `pos` octets after the start of the window. -/
def write (w : Window n) (pos : Nat) (new : List UInt8) : Window n where
  bytes := Octets.splice w.bytes (w.start + pos) new
  start := w.start
  room := by rw [Octets.length_splice]; exact w.room

def put (w : Window n) (f : Field n) (value : Nat) : Window n :=
  w.write f.pos (Octets.ofNat f.width value)

/-- The same place in another frame of the same size; a frame of another size is refused. -/
def adopt (w : Window n) (frame : List UInt8) : Window n :=
  if h : frame.length = w.bytes.length then ⟨⟨frame, w.start⟩, h ▸ w.room⟩ else w

@[simp] theorem start_adopt (w : Window n) (frame : List UInt8) :
    (w.adopt frame).start = w.start := by
  unfold adopt
  split <;> rfl

@[simp] theorem length_adopt (w : Window n) (frame : List UInt8) :
    (w.adopt frame).bytes.length = w.bytes.length := by
  unfold adopt
  split
  · assumption
  · rfl

theorem length_octets (w : Window n) (f : Field n) : (w.octets f).length = f.width :=
  Octets.length_slice (by have := w.room; have := f.inside; omega)

@[simp] theorem start_write (w : Window n) (pos : Nat) (new : List UInt8) :
    (w.write pos new).start = w.start := rfl

@[simp] theorem length_write (w : Window n) (pos : Nat) (new : List UInt8) :
    (w.write pos new).bytes.length = w.bytes.length := Octets.length_splice ..

theorem octets_write_self (w : Window n) (f : Field n) {new : List UInt8}
    (h : new.length = f.width) : (w.write f.pos new).octets f = new := by
  rw [octets, write, ← h]
  exact Octets.slice_splice_self (by have := w.room; have := f.inside; omega)

theorem octets_write_of_apart (w : Window n) {pos : Nat} {g : Field n} {new : List UInt8}
    (h : g.pos + g.width ≤ pos ∨ pos + new.length ≤ g.pos) :
    (w.write pos new).octets g = w.octets g :=
  Octets.slice_splice_of_disjoint (by simp only [start_write]; omega)

@[simp] theorem start_put (w : Window n) (f : Field n) (value : Nat) :
    (w.put f value).start = w.start := rfl

@[simp] theorem length_put (w : Window n) (f : Field n) (value : Nat) :
    (w.put f value).bytes.length = w.bytes.length := length_write ..

theorem number_put_self (w : Window n) (f : Field n) (value : Nat) :
    (w.put f value).number f = value % Octets.limit f.width := by
  rw [number, put, octets_write_self _ _ (Octets.length_ofNat ..), Octets.toNat_ofNat]

theorem octets_put_of_apart (w : Window n) {f g : Field n} (h : f.Apart g) (value : Nat) :
    (w.put f value).octets g = w.octets g :=
  octets_write_of_apart w (by rw [Octets.length_ofNat]; exact h.symm)

end Window

end PacketHeaders

import PacketHeaders.Fault
import PacketHeaders.Octets

/-!
# Places in a frame

A span is a frame together with a position in it; a window of `n` octets is a span with at least
`n` octets from its position on. Windows are the only way to a header: `Window.place` makes one
exactly when the frame is long enough, and everything read later rests on that one test. `truncate`
shortens the frame of a span without cutting into the octets that it is told to keep.
-/

namespace PacketHeaders

structure Span where
  bytes : List UInt8
  start : Nat
deriving DecidableEq, Repr

/-- A span with room for `n` octets. -/
structure Window (n : Nat) extends Span where
  room : start + n ≤ bytes.length
deriving DecidableEq, Repr

namespace Window

def place (bytes : List UInt8) (start n : Nat) : Except Fault (Window n) :=
  if h : start + n ≤ bytes.length then .ok ⟨⟨bytes, start⟩, h⟩
  else .error (.bounds start n (bytes.length - start))

theorem place_eq_ok_iff {bytes : List UInt8} {start n : Nat} {w : Window n} :
    place bytes start n = .ok w ↔ w.bytes = bytes ∧ w.start = start := by
  unfold place
  split
  · constructor
    · rintro ⟨⟩
      exact ⟨rfl, rfl⟩
    · obtain ⟨⟨b, s⟩, r⟩ := w
      rintro ⟨rfl, rfl⟩
      rfl
  · rename_i h
    constructor
    · rintro ⟨⟩
    · rintro ⟨rfl, rfl⟩
      exact absurd w.room h

theorem place_eq_error_iff {bytes : List UInt8} {start n : Nat} {f : Fault} :
    place bytes start n = .error f ↔
      bytes.length < start + n ∧ f = .bounds start n (bytes.length - start) := by
  unfold place
  split
  · simp; omega
  · simp [eq_comm]; omega

end Window

namespace Span

/-- The octets from the start of the span to the end of the frame. -/
def tail (s : Span) : List UInt8 := s.bytes.drop s.start

/-- The window of `n` octets that begins `skip` octets further on. -/
def child (s : Span) (skip n : Nat) : Except Fault (Window n) :=
  Window.place s.bytes (s.start + skip) n

/-- The same place in the frame cut at `stop`, or after the first `keep` octets if that is later. -/
def truncate (s : Span) (stop keep : Nat) : Span :=
  { s with bytes := s.bytes.take (max stop (s.start + keep)) }

@[simp] theorem start_truncate (s : Span) (stop keep : Nat) :
    (s.truncate stop keep).start = s.start := rfl

theorem length_truncate (s : Span) (stop keep : Nat) :
    (s.truncate stop keep).bytes.length = min (max stop (s.start + keep)) s.bytes.length :=
  List.length_take

theorem truncate_truncate (s : Span) (stop₁ stop₂ keep : Nat) :
    (s.truncate stop₁ keep).truncate stop₂ keep = s.truncate (min stop₁ stop₂) keep := by
  simp only [truncate, List.take_take]
  congr 2
  omega

end Span

end PacketHeaders

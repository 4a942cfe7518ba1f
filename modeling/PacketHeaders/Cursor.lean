import PacketHeaders.Span

/-!
# Moving over a frame

A cursor is the span reached so far. A move starts again somewhere in the frame, goes on to a child,
or cuts the frame of the span; a move that is refused leaves the cursor where it was. `descend`
follows children only and stops at the first that has no room.
-/

namespace PacketHeaders

inductive Move
  | place (start n : Nat)
  | child (skip n : Nat)
  | truncate (stop keep : Nat)
  /-- A move of no kind known here. -/
  | other
deriving DecidableEq, Repr

namespace Cursor

def move (bytes : List UInt8) (cursor : Option Span) : Move → Except Refusal Span
  | .place start n => Refusal.lift (·.toSpan) (Window.place bytes start n)
  | .child skip n =>
    match cursor with
    | some span => Refusal.lift (·.toSpan) (span.child skip n)
    | none => .error .noSuchStep
  | .truncate stop keep =>
    match cursor with
    | some span => .ok (span.truncate stop keep)
    | none => .error .noSuchStep
  | .other => .error .noSuchStep

/-- What each of a sequence of moves reaches. -/
def run (bytes : List UInt8) : Option Span → List Move → List (Except Refusal Span)
  | _, [] => []
  | cursor, m :: moves =>
    let reached := move bytes cursor m
    reached :: run bytes (reached.toOption.or cursor) moves

/-- The spans met from `start` on, each a number of octets after the one before it. -/
def descend (bytes : List UInt8) : Nat → List (Nat × Nat) → List (Except Fault Span)
  | _, [] => []
  | start, (skip, n) :: steps =>
    match Window.place bytes (start + skip) n with
    | .ok w => .ok w.toSpan :: descend bytes w.start steps
    | .error fault => [.error fault]

end Cursor

end PacketHeaders

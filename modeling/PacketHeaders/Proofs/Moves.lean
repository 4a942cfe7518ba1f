import Mathlib.Algebra.Ring.Nat
import PacketHeaders.Cursor
import PacketHeaders.Proofs.Guarded.Access
import PacketHeaders.Proofs.NextHeader

/-!
# Where moves lead

Whatever moves a cursor is given, it stays in the frame: its span lies in a front of the frame, and
starts as far on from the last place that was found as the children found since then have gone. A
place or a child is found exactly when there is room for it, and a cut never takes that room away
again. Cuts that keep the same octets come to the shortest of them, in whatever order they are made.
A chain of children answers like a cursor that is given the same moves and stops at the first that
is refused.
-/

namespace PacketHeaders

/-- How far from the start of its span a move goes on. -/
def Move.skip : Move → Nat
  | child skip _ => skip
  | _ => 0

def Move.need? : Move → Option Nat
  | place _ n => some n
  | child _ n => some n
  | _ => none

def Move.Restarts (m : Move) : Prop := ∃ start n, m = place start n

/-- What looking for room for `n` octets from a position on comes to. -/
def Span.found (bytes : List UInt8) (start n : Nat) : Except Fault Span :=
  if start + n ≤ bytes.length then .ok ⟨bytes, start⟩
  else .error (.bounds start n (bytes.length - start))

namespace Span

variable {s : Span} {n : Nat}

theorem eq_of_found {bytes : List UInt8} {start : Nat} (h : found bytes start n = .ok s) :
    s = ⟨bytes, start⟩ := by
  unfold found at h
  split at h
  · exact (Except.ok.inj h).symm
  · cases h

theorem room_truncate (h : s.start + n ≤ s.bytes.length) (stop : Nat) {keep : Nat}
    (hkeep : n ≤ keep) :
    (s.truncate stop keep).start + n ≤ (s.truncate stop keep).bytes.length := by
  rw [start_truncate, length_truncate]
  omega

end Span

namespace Cursor

variable (frame : List UInt8)

/-- Where a sequence of moves leads. A move that is refused leads nowhere. -/
def after : Option Span → List Move → Option Span
  | cursor, [] => cursor
  | cursor, m :: moves => after ((move frame cursor m).toOption.or cursor) moves

def taken : Option Span → List Move → List Move
  | _, [] => []
  | cursor, m :: moves =>
    match move frame cursor m with
    | .ok s => m :: taken (some s) moves
    | .error _ => taken cursor moves

/-- Behind the last place of a history, by what the moves since then have skipped. -/
def Position (history : List Move) (pos : Nat) : Prop :=
  ∃ before start n since, history = before ++ .place start n :: since ∧
    (∀ m ∈ since, ¬m.Restarts) ∧ pos = start + (since.map Move.skip).sum

/-- Where a cursor is after the moves that were taken: in a front of the frame, at their position. -/
structure Traced (history : List Move) (s : Span) : Prop where
  front : s.bytes <+: frame
  start_le : s.start ≤ s.bytes.length
  position : Position history s.start

variable {frame} {cursor : Option Span} {s s' : Span} {m : Move} {history : List Move}

theorem Position.snoc {pos : Nat} (h : Position history pos) (hm : ¬m.Restarts) :
    Position (history ++ [m]) (pos + m.skip) := by
  obtain ⟨before, start, n, since, rfl, hsince, rfl⟩ := h
  refine ⟨before, start, n, since ++ [m], ?_, ?_, ?_⟩
  · rw [List.append_assoc, List.cons_append]
  · intro m' hm'
    rcases List.mem_append.mp hm' with hm' | hm'
    · exact hsince m' hm'
    · rwa [List.mem_singleton.mp hm']
  · rw [List.map_append, List.sum_append, List.map_singleton, List.sum_singleton, Nat.add_assoc]

theorem traced_move (htraced : ∀ s, cursor = some s → Traced frame history s)
    (hmove : move frame cursor m = .ok s') : Traced frame (history ++ [m]) s' := by
  cases m with
  | place start n =>
    obtain ⟨w, hw, rfl⟩ := Refusal.lift_eq_ok_iff.mp hmove
    obtain ⟨rfl, rfl⟩ := Window.place_eq_ok_iff.mp hw
    refine ⟨List.prefix_rfl, Nat.le_trans (Nat.le_add_right ..) w.room, ?_⟩
    exact ⟨history, w.start, n, [], rfl, nofun, rfl⟩
  | child skip n =>
    cases cursor with
    | none => cases hmove
    | some s =>
      obtain ⟨w, hw, rfl⟩ := Refusal.lift_eq_ok_iff.mp hmove
      obtain ⟨hbytes, hstart⟩ := Window.place_eq_ok_iff.mp hw
      have hs := htraced s rfl
      refine ⟨hbytes ▸ hs.front, Nat.le_trans (Nat.le_add_right ..) w.room, ?_⟩
      rw [hstart]
      exact hs.position.snoc nofun
  | truncate stop keep =>
    cases cursor with
    | none => cases hmove
    | some s =>
      cases hmove
      have hs := htraced s rfl
      have hroom := Span.room_truncate (n := 0) hs.start_le stop (Nat.zero_le keep)
      exact ⟨(List.take_prefix ..).trans hs.front, hroom, hs.position.snoc nofun⟩
  | other => cases hmove

theorem traced_after {cursor : Option Span} {history : List Move} (moves : List Move)
    (htraced : ∀ s, cursor = some s → Traced frame history s)
    (hs : after frame cursor moves = some s) :
    Traced frame (history ++ taken frame cursor moves) s := by
  induction moves generalizing cursor history with
  | nil =>
    rw [taken, List.append_nil]
    exact htraced s hs
  | cons m moves ih =>
    cases hmove : move frame cursor m with
    | error refusal =>
      -- A refused move leaves no trace: neither the cursor nor the history goes on.
      rw [taken, hmove]
      rw [after, hmove] at hs
      exact ih htraced hs
    | ok s' =>
      rw [taken, hmove]
      rw [after, hmove] at hs
      have hnext : ∀ s, some s' = some s → Traced frame (history ++ [m]) s := by
        rintro _ ⟨⟩
        exact traced_move htraced hmove
      have hrest := ih hnext hs
      rwa [List.append_assoc] at hrest

theorem run_append (cursor : Option Span) (moves more : List Move) :
    run frame cursor (moves ++ more) =
      run frame cursor moves ++ run frame (after frame cursor moves) more := by
  induction moves generalizing cursor with
  | nil => rfl
  | cons m moves ih =>
    rw [List.cons_append, run, run, after, ih, List.cons_append]

theorem lift_place (bytes : List UInt8) (start n : Nat) :
    Refusal.lift (·.toSpan) (Window.place bytes start n) =
      Refusal.lift id (Span.found bytes start n) := by
  rw [Span.found, ← Window.place_map_toSpan]
  cases Window.place bytes start n <;> rfl

theorem room_of_move {n : Nat} (hneed : m.need? = some n) (hmove : move frame cursor m = .ok s) :
    s.start + n ≤ s.bytes.length := by
  cases m with
  | place start n =>
    cases hneed
    obtain ⟨w, -, rfl⟩ := Refusal.lift_eq_ok_iff.mp hmove
    exact w.room
  | child skip n =>
    cases hneed
    cases cursor with
    | none => cases hmove
    | some s =>
      obtain ⟨w, -, rfl⟩ := Refusal.lift_eq_ok_iff.mp hmove
      exact w.room
  | truncate | other => cases hneed

/-- Cuts, each behind a stop or behind the octets that it has to keep. -/
def cuts (stops : List (Nat × Nat)) : List Move :=
  stops.map fun (stop, keep) => .truncate stop keep

theorem room_after_cuts {n : Nat} {stops : List (Nat × Nat)}
    (hroom : s.start + n ≤ s.bytes.length) (hkeep : ∀ stop ∈ stops, n ≤ stop.2) :
    ∃ t, after frame (some s) (cuts stops) = some t ∧ t.start + n ≤ t.bytes.length := by
  induction stops generalizing s with
  | nil => exact ⟨s, rfl, hroom⟩
  | cons stop stops ih =>
    obtain ⟨hfirst, hrest⟩ := List.forall_mem_cons.mp hkeep
    exact ih (Span.room_truncate hroom stop.1 hfirst) hrest

section Chains

def children (steps : List (Nat × Nat)) : List Move :=
  steps.map fun (skip, n) => .child skip n

def untilRefused : List (Except Refusal Span) → List (Except Refusal Span)
  | [] => []
  | .ok s :: rest => .ok s :: untilRefused rest
  | .error refusal :: _ => [.error refusal]

theorem descend_cons (start skip n : Nat) (steps : List (Nat × Nat)) :
    descend frame start ((skip, n) :: steps) =
      Span.found frame (start + skip) n ::
        match Span.found frame (start + skip) n with
        | .ok s => descend frame s.start steps
        | .error _ => [] := by
  rw [descend, Span.found, ← Window.place_map_toSpan]
  cases Window.place frame (start + skip) n <;> rfl

theorem untilRefused_run_cons (cursor : Option Span) (m : Move) (moves : List Move) :
    untilRefused (run frame cursor (m :: moves)) =
      move frame cursor m ::
        match move frame cursor m with
        | .ok s => untilRefused (run frame (some s) moves)
        | .error _ => [] := by
  rw [run]
  cases move frame cursor m <;> rfl

theorem descend_eq_run (hs : s.bytes = frame) (steps : List (Nat × Nat)) :
    (descend frame s.start steps).map (Refusal.lift id) =
      untilRefused (run frame (some s) (children steps)) := by
  induction steps generalizing s with
  | nil => rfl
  | cons step steps ih =>
    obtain ⟨skip, n⟩ := step
    have hmove : move frame (some s) (.child skip n) =
        Refusal.lift id (Span.found frame (s.start + skip) n) := hs ▸ lift_place ..
    have hchildren : children ((skip, n) :: steps) = .child skip n :: children steps := rfl
    rw [descend_cons, hchildren, untilRefused_run_cons, hmove]
    cases hfound : Span.found frame (s.start + skip) n with
    | error fault => rfl
    | ok t =>
      obtain rfl := Span.eq_of_found hfound
      exact congrArg (_ :: ·) (ih rfl)

theorem descend_eq_run_place (start n : Nat) (steps : List (Nat × Nat)) :
    (descend frame 0 ((start, n) :: steps)).map (Refusal.lift id) =
      untilRefused (run frame none (.place start n :: children steps)) := by
  have hmove : move frame none (.place start n) =
      Refusal.lift id (Span.found frame start n) := lift_place ..
  rw [descend_cons, Nat.zero_add, untilRefused_run_cons, hmove]
  cases hfound : Span.found frame start n with
  | error fault => rfl
  | ok t =>
    obtain rfl := Span.eq_of_found hfound
    exact congrArg (_ :: ·) (descend_eq_run (s := ⟨frame, start⟩) rfl steps)

theorem getElem?_descend {start i : Nat} {steps : List (Nat × Nat)} {answer : Except Fault Span}
    (h : (descend frame start steps)[i]? = some answer) :
    ∃ skip n, steps[i]? = some (skip, n) ∧
      answer = Span.found frame (start + ((steps.take (i + 1)).map Prod.fst).sum) n := by
  induction steps generalizing start i with
  | nil => cases h
  | cons step steps ih =>
    obtain ⟨skip, n⟩ := step
    rw [descend_cons] at h
    cases i with
    | zero => exact ⟨skip, n, rfl, (Option.some.inj h).symm⟩
    | succ i =>
      rw [List.getElem?_cons_succ] at h
      cases hfound : Span.found frame (start + skip) n with
      | error fault =>
        rw [hfound] at h
        cases h
      | ok t =>
        rw [hfound, Span.eq_of_found hfound] at h
        obtain ⟨skip', n', hstep, hanswer⟩ := ih h
        refine ⟨skip', n', hstep, ?_⟩
        rw [hanswer, List.take_succ_cons, List.map_cons, List.sum_cons, Nat.add_assoc]

end Chains

/-- Wherever moves lead, they lead into a front of the frame and to the position that they add up
to. A place and a child are found when there is room for them and not otherwise, and the room stays
through all cuts that are told to keep it. Cuts come to the shortest of them. A chain of children is
answered as the moves of a cursor are, up to the first that is refused. -/
theorem cursor_stays_in_frame (frame : List UInt8) :
    (∀ moves s, after frame none moves = some s →
      (∃ n, s.bytes = frame.take n ∧ s.start ≤ n ∧ n ≤ frame.length ∧
        s.tail = (frame.take n).drop s.start) ∧
      Position (taken frame none moves) s.start) ∧
    (∀ moves m, run frame none (moves ++ [m]) =
      run frame none moves ++ [move frame (after frame none moves) m]) ∧
    (∀ cursor start n, move frame cursor (.place start n) =
      Refusal.lift id (Span.found frame start n)) ∧
    (∀ s skip n, move frame (some s) (.child skip n) =
      Refusal.lift id (Span.found s.bytes (s.start + skip) n)) ∧
    (∀ cursor m n s stops, m.need? = some n → move frame cursor m = .ok s →
      (∀ stop ∈ stops, n ≤ stop.2) →
      ∃ t, after frame (some s) (cuts stops) = some t ∧ n ≤ t.tail.length) ∧
    (∀ s stop keep, move frame (some s) (.truncate stop keep) = .ok (s.truncate stop keep) ∧
      s.truncate? stop keep = some (s.truncate stop keep) ∧
      (s.truncate stop keep).bytes.length = min (max stop (s.start + keep)) s.bytes.length) ∧
    (∀ (s : Span) stop₁ stop₂ keep,
      (s.truncate stop₁ keep).truncate stop₂ keep = s.truncate (min stop₁ stop₂) keep ∧
      (s.truncate stop₁ keep).truncate stop₁ keep = s.truncate stop₁ keep ∧
      (s.truncate stop₁ keep).truncate stop₂ keep =
        (s.truncate stop₂ keep).truncate stop₁ keep) ∧
    (∀ start n steps, (descend frame 0 ((start, n) :: steps)).map (Refusal.lift id) =
      untilRefused (run frame none (.place start n :: children steps))) ∧
    ∀ i (steps : List (Nat × Nat)) answer, (descend frame 0 steps)[i]? = some answer →
      ∃ skip n, steps[i]? = some (skip, n) ∧
        answer = Span.found frame ((steps.take (i + 1)).map Prod.fst).sum n := by
  refine ⟨fun moves s hs => ?_, fun moves m => run_append none moves [m],
    fun _ start n => lift_place frame start n, fun s skip n => lift_place ..,
    fun cursor m n s stops hneed hmove hkeep => ?_,
    fun s stop keep => ⟨rfl, s.truncate?_eq stop keep, s.length_truncate stop keep⟩,
    fun s stop₁ stop₂ keep => ⟨s.truncate_truncate .., ?_, ?_⟩, descend_eq_run_place,
    fun i steps answer hanswer => ?_⟩
  · have hnone : ∀ s, (none : Option Span) = some s → Traced frame [] s := nofun
    obtain ⟨hfront, hstart, hposition⟩ := traced_after moves hnone hs
    have hbytes : s.bytes = frame.take s.bytes.length := List.prefix_iff_eq_take.mp hfront
    exact ⟨⟨s.bytes.length, hbytes, hstart, hfront.length_le, by rw [← hbytes]; rfl⟩, hposition⟩
  · obtain ⟨t, ht, hroom⟩ := room_after_cuts (room_of_move hneed hmove) hkeep
    exact ⟨t, ht, Window.le_length_tail ⟨t, hroom⟩⟩
  · rw [s.truncate_truncate, Nat.min_self]
  · rw [s.truncate_truncate, s.truncate_truncate, Nat.min_comm]
  · obtain ⟨skip, n, hstep, hfound⟩ := getElem?_descend hanswer
    exact ⟨skip, n, hstep, by rw [hfound, Nat.zero_add]⟩

/-- A child that would reach past the cut is refused, and one that reaches right up to it is found. -/
theorem cursor_stays_in_frame_up_to_a_cut :
    let frame : List UInt8 := List.replicate 64 0
    let moves : List Move := [.place 0 14, .child 14 20, .truncate 40 20, .child 20 7, .child 20 6]
    let s : Span := ⟨frame.take 40, 34⟩
    after frame none moves = some s ∧
      taken frame none moves = [.place 0 14, .child 14 20, .truncate 40 20, .child 20 6] ∧
      Position (taken frame none moves) 34 ∧
      (∃ t, after frame (some s) (cuts [(0, 6), (39, 7)]) = some t ∧ 6 ≤ t.tail.length) ∧
      Span.found frame (14 + (20 + 0)) 31 = .error (.bounds 34 31 30) := by
  intro frame moves s
  obtain ⟨hreached, -, -, -, hroom, -, -, -, hchain⟩ := cursor_stays_in_frame frame
  have hs : after frame none moves = some s := by decide
  have hmove : move frame (some ⟨frame.take 40, 14⟩) (.child 20 6) = .ok s := rfl
  obtain ⟨_, _, hstep, hanswer⟩ := hchain 2 [(0, 14), (14, 20), (20, 31)]
    (.error (.bounds 34 31 30)) rfl
  cases hstep
  exact ⟨hs, by decide, (hreached moves s hs).2,
    hroom (some ⟨frame.take 40, 14⟩) (.child 20 6) 6 s _ rfl hmove (by decide),
    hanswer.symm⟩

end Cursor

end PacketHeaders

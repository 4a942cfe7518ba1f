import PacketHeaders.Proofs.Guarded.Marks
import PacketHeaders.Proofs.Nesting.Sessions

/-!
# One frame shared by all drafts

A session whose open drafts keep no frames of their own: there is one frame, marks in it, and every
access is guarded. It does what the session with drafts does, step by step, and nothing fails.
-/

namespace PacketHeaders

/-- A frame with marks in it, from the innermost outwards. -/
structure Shared where
  frame : List UInt8
  marks : List Mark
  skipping : Nat
deriving DecidableEq, Repr

namespace Shared

def start (frame : List UInt8) : Shared := ⟨frame, [], 0⟩

def skip (s : Shared) : Step → Shared
  | .begin _ _ | .enter _ => { s with skipping := s.skipping + 1 }
  | .close => { s with skipping := s.skipping - 1 }
  | _ => s

def goInside (s : Shared) : Except Refusal Mark → Shared
  | .ok m => { s with marks := m :: s.marks }
  | .error _ => { s with skipping := 1 }

/-- A call that is accepted leaves the frame that it wrote and the mark that it made. -/
def answered (s : Shared) (level : Level) (outer : List Mark) :
    Except Refusal (Bare × Reply) → Shared
  | .ok (b, _) => { s with frame := b.bytes, marks := .ofBare level b :: outer }
  | .error _ => s

/-- One step, with every access to the frame guarded. -/
def step? (s : Shared) (t : Step) : Option Shared :=
  if s.skipping ≠ 0 then some (s.skip t)
  else match t, s.marks with
    | .begin layer start, [] => some (s.goInside (Mark.place layer s.frame start))
    | .begin _ _, _ :: _ => some (s.goInside (.error .noSuchStep))
    | .enter _, [] => some (s.goInside (.error .noSuchStep))
    | .enter layer, m :: _ => (m.next? s.frame layer).map s.goInside
    | .close, marks => some { s with marks := marks.tail }
    | .poke pos bytes, [] => some { s with frame := Octets.splice s.frame pos bytes }
    | .header, m :: _ => (m.summary? s.frame).map fun _ => s
    | .call reading, m :: outer => (m.call? s.frame reading).map (s.answered m.level outer)
    | _, _ => some s

def after? (s : Shared) (steps : List Step) : Option Shared := steps.foldlM step? s

end Shared

namespace Session

/-- The same session with one frame for all drafts. -/
def shared (s : Session) : Shared := ⟨s.octets, s.drafts.map Draft.mark, s.skipping⟩

theorem step_of_skipping {s : Session} (h : s.skipping ≠ 0) (t : Step) :
    s.step t = (s.skip t, none) := if_pos h

theorem shared_skip (s : Session) (t : Step) : s.shared.skip t = (s.skip t).shared := by
  cases t with
  | begin | enter | close | poke | frame | dissect | walk | header | call => rfl

theorem shared_goInside {s : Session} {d? : Except Refusal Draft}
    (hframe : ∀ d, d? = .ok d → d.bytes = s.octets) :
    s.shared.goInside (d?.map Draft.mark) = (s.goInside d?).1.shared := by
  cases d? with
  | error refusal => rfl
  | ok d =>
    have hoctets : d.bytes = s.octets := hframe d rfl
    change Shared.mk s.octets _ _ = Shared.mk d.bytes _ _
    rw [hoctets]
    rfl

theorem bytes_of_place {layer : Layer} {frame : List UInt8} {start : Nat} {d : Draft}
    (h : Draft.place layer frame start = .ok d) : d.bytes = frame := by
  have hbytes {n : Nat} {α : Type} {mk : Window n → α} {wrap : α → Draft}
      (hwrap : ∀ w, (wrap (mk w)).bytes = w.bytes)
      (hplace : Refusal.lift wrap ((Window.place frame start n).map mk) = .ok d) :
      d.bytes = frame := by
    obtain ⟨_, hmap, rfl⟩ := Refusal.lift_eq_ok_iff.mp hplace
    obtain ⟨w, hw, rfl⟩ := Except.map_eq_ok_iff.mp hmap
    exact (hwrap w).trans (Window.place_eq_ok_iff.mp hw).1
  cases layer with
  | ethernet | ipv4 | icmp | udp => exact hbytes (fun _ => rfl) h
  | arp | tcp | other => cases h

theorem level_of_call {d d' : Draft} {reading : Reading} {reply : Reply}
    (h : d.call reading = .ok reply d') : d'.level = d.level := by
  rcases Draft.edited_of_call h with rfl | hedited
  · rfl
  · cases hedited <;> rfl

section Awake

variable (frame : List UInt8) (d : Draft) (outer : List Draft)

theorem step?_begin (layer : Layer) (start : Nat) :
    (shared ⟨frame, [], 0⟩).step? (.begin layer start) =
      some (step ⟨frame, [], 0⟩ (.begin layer start)).1.shared := by
  have hinside := shared_goInside (s := ⟨frame, [], 0⟩) fun d (hd : Draft.place layer frame start =
    .ok d) => bytes_of_place hd
  rw [← Draft.place_mark] at hinside
  exact congrArg some hinside

theorem step?_enter (layer : Layer) :
    (shared ⟨frame, d :: outer, 0⟩).step? (.enter layer) =
      some (step ⟨frame, d :: outer, 0⟩ (.enter layer)).1.shared := by
  have hinside := shared_goInside (s := ⟨frame, d :: outer, 0⟩) fun d' (hd : d.next layer =
    .ok d') => (Draft.of_next hd).2.2
  change (d.mark.next? d.bytes layer).map _ = _
  rw [Draft.next?_mark]
  exact congrArg some hinside

theorem step?_close (drafts : List Draft) (hn : Draft.Nested drafts) :
    (shared ⟨frame, drafts, 0⟩).step? .close = some (step ⟨frame, drafts, 0⟩ .close).1.shared := by
  match drafts with
  | [] => rfl
  | [d] => rfl
  | d :: outer :: rest =>
    have hlength := (hn.encloses_of_mem outer List.mem_cons_self).length_eq
    change some (Shared.mk d.bytes (outer.mark :: rest.map Draft.mark) 0) =
      some ⟨(outer.resume d.bytes).bytes, (outer.resume d.bytes).mark :: rest.map Draft.mark, 0⟩
    rw [Draft.bytes_resume hlength, Draft.mark_resume]

theorem step?_call (reading : Reading) :
    (shared ⟨frame, d :: outer, 0⟩).step? (.call reading) =
      some (step ⟨frame, d :: outer, 0⟩ (.call reading)).1.shared := by
  change (d.mark.call? d.bytes reading).map _ = _
  rw [Draft.call?_mark]
  cases hcall : d.call reading with
  | error refusal d' =>
    rw [step_call_of_error hcall]
    rfl
  | ok reply d' =>
    have hlevel : d'.level = d.mark.level := level_of_call hcall
    have hbytes : d'.bare.bytes = d'.bytes := by
      cases d' <;> rfl
    rw [step_call_of_ok hcall]
    change some (Shared.mk d'.bare.bytes (.ofBare d.mark.level d'.bare :: _) 0) = _
    rw [← hlevel, hbytes]
    rfl

theorem step?_header :
    (shared ⟨frame, d :: outer, 0⟩).step? .header =
      some (step ⟨frame, d :: outer, 0⟩ .header).1.shared := by
  change (d.mark.summary? d.bytes).map _ = _
  rw [Draft.summary?_mark]
  rfl

end Awake

/-- The shared frame goes the way of the drafts, and no access fails. -/
theorem step?_shared (s : Session) (hn : Draft.Nested s.drafts) (t : Step) :
    s.shared.step? t = some (s.step t).1.shared := by
  obtain ⟨frame, drafts, skipping⟩ := s
  by_cases hskip : skipping = 0
  · subst hskip
    cases drafts with
    | nil =>
      cases t with
      | begin layer start => exact step?_begin frame layer start
      | walk origin => cases origin <;> rfl
      | enter | close | poke | frame | dissect | header | call => rfl
    | cons d outer =>
      cases t with
      | enter layer => exact step?_enter frame d outer layer
      | close => exact step?_close frame _ hn
      | header => exact step?_header frame d outer
      | call reading => exact step?_call frame d outer reading
      | begin | poke | frame | dissect | walk => rfl
  · rw [step_of_skipping hskip]
    exact (if_pos hskip).trans (congrArg some (shared_skip _ t))

/-- Whatever the script, the shared frame goes the way of the drafts. -/
theorem after?_shared (frame : List UInt8) (steps : List Step) :
    (Shared.start frame).after? steps = some ((start frame).after steps).shared := by
  have hrun (s : Session) (hs : Draft.Nested s.drafts) :
      s.shared.after? steps = some (s.after steps).shared := by
    induction steps generalizing s with
    | nil => rfl
    | cons t ts ih =>
      rw [Shared.after?, List.foldlM_cons, step?_shared s hs t]
      exact ih _ (nested_of_shifts (s.shifts_step t) hs)
  exact hrun (start frame) .none

end Session

end PacketHeaders

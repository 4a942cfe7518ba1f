import PacketHeaders.Proofs.Guarded.Drafts
import PacketHeaders.Proofs.Guarded.Walk
import PacketHeaders.Proofs.Nesting.Headers
import PacketHeaders.Session

/-!
# Marks in a frame

A mark stands for an open draft in a frame that it shares with others: all it knows is its level,
where it starts, and how long the last payload was. What a draft can be told and asked is told and
asked here of a mark and a frame, guarded, with the same outcome.
-/

namespace PacketHeaders

structure Mark where
  level : Level
  start : Nat
  payloadLength : Nat
deriving DecidableEq, Repr

namespace Mark

def ofBare (level : Level) (b : Bare) : Mark := ⟨level, b.start, b.payloadLength⟩

/-- The mark of a message or a header that has just been begun. -/
def fresh {n : Nat} (level : Level) (w : Window n) : Mark := ⟨level, w.start, 0⟩

def place (layer : Layer) (frame : List UInt8) (start : Nat) : Except Refusal Mark :=
  match layer with
  | .ethernet => Refusal.lift (fresh .ethernet) (Window.place frame start 14)
  | .ipv4 => Refusal.lift (fresh .ipv4) (Window.place frame start 20)
  | .icmp => Refusal.lift (fresh .icmp) (Window.place frame start 8)
  | .udp => Refusal.lift (fresh .udp) (Window.place frame start 8)
  | _ => .error .noSuchStep

/-- How many octets the fixed part of the header has. -/
def fixedLength (m : Mark) : Nat :=
  match m.level with
  | .root => 0
  | .ethernet => 14
  | .ipv4 => 20
  | .icmp | .udp => 8

variable (m : Mark) (frame : List UInt8)

def bare : Bare := ⟨⟨frame, m.start⟩, m.payloadLength⟩

/-- What the header says about itself. -/
def summary? : Option Summary :=
  match m.level with
  | .root => none
  | .ethernet => Ethernet.Guarded.summary? (m.bare frame)
  | .ipv4 => Ipv4.Guarded.summary? (m.bare frame)
  | .icmp => Icmp.Guarded.summary? (m.bare frame)
  | .udp => Udp.Guarded.summary? (m.bare frame)

def call? (reading : Reading) : Option (Except Refusal (Bare × Reply)) :=
  match m.level with
  | .root => some (.error .noSuchStep)
  | .ethernet => answer? (Ethernet.Guarded.call? (m.bare frame)) reading.ethernet
  | .ipv4 => answer? (Ipv4.Guarded.call? (m.bare frame)) reading.ipv4
  | .icmp => answer? (Icmp.Guarded.call? (m.bare frame)) reading.icmp
  | .udp => answer? (Udp.Guarded.call? (m.bare frame)) reading.udp
where
  answer? {γ : Type} (run? : γ → Option (Except Fault (Bare × Reply))) :
      Option γ → Option (Except Refusal (Bare × Reply))
    | some c => (run? c).map (Refusal.lift id)
    | none => some (.error .noSuchStep)

def next? (layer : Layer) : Option (Except Refusal Mark) :=
  match m.level, layer with
  | .ethernet, .ipv4 => some (Refusal.lift (fresh .ipv4) ((m.bare frame).child 14 20))
  | .ipv4, .icmp =>
    (Ipv4.Guarded.nextDraft? (m.bare frame)).map (Refusal.lift fun s => ⟨.icmp, s.start, 0⟩)
  | .ipv4, .udp =>
    (Ipv4.Guarded.nextDraft? (m.bare frame)).map (Refusal.lift fun s => ⟨.udp, s.start, 0⟩)
  | _, _ => some (.error .noSuchStep)

end Mark

namespace Draft

def bare : Draft → Bare
  | ethernet d => d.bare
  | ipv4 d => d.bare
  | icmp d => d.bare
  | udp d => d.bare

def mark (d : Draft) : Mark := .ofBare d.level d.bare

variable (d : Draft)

/-- Header and payload lie inside the frame. -/
theorem mark_room :
    d.mark.start + d.mark.fixedLength + d.mark.payloadLength ≤ d.bytes.length := by
  cases d with
  | ethernet d => exact d.room
  | ipv4 d => exact d.room
  | icmp d => exact d.holds
  | udp d => exact d.holds

theorem summary?_mark : d.mark.summary? d.bytes = some d.header.summary := by
  cases d with
  | ethernet d => exact Ethernet.Guarded.summary?_bare d
  | ipv4 d => exact Ipv4.Guarded.summary?_bare d
  | icmp d => exact Icmp.Guarded.summary?_bare d
  | udp d => exact Udp.Guarded.summary?_bare d

theorem answer?_eq {γ δ : Type} {run? : γ → Option (Except Fault (Bare × Reply))}
    {run : γ → Writing δ Reply} {wrap : δ → Draft} {d : δ}
    (h : ∀ c, run? c = some ((run c d).accepted fun reply d' => ((wrap d').bare, reply)))
    (c? : Option γ) :
    Mark.call?.answer? run? c? =
      some ((call.answer run wrap c? d).accepted fun reply d' => (d'.bare, reply)) := by
  cases c? with
  | none => rfl
  | some c =>
    rw [Mark.call?.answer?, h, call.answer]
    cases run c d <;> rfl

theorem call?_mark (reading : Reading) :
    d.mark.call? d.bytes reading =
      some ((d.call reading).accepted fun reply d' => (d'.bare, reply)) := by
  cases d with
  | ethernet d => exact answer?_eq (Ethernet.Guarded.call?_bare d) _
  | ipv4 d => exact answer?_eq (Ipv4.Guarded.call?_bare d) _
  | icmp d => exact answer?_eq (Icmp.Guarded.call?_bare d) _
  | udp d => exact answer?_eq (Udp.Guarded.call?_bare d) _

/-- A draft that is made of a window has a fresh mark where the window is. -/
theorem lift_fresh {n : Nat} {α : Type} {level : Level} {mk : Window n → α} {wrap : α → Draft}
    (h : ∀ w, (wrap (mk w)).mark = .fresh level w) (x : Except Fault (Window n)) :
    Refusal.lift (Mark.fresh level) x = (Refusal.lift wrap (x.map mk)).map mark := by
  cases x with
  | error fault => rfl
  | ok w => exact congrArg Except.ok (h w).symm

theorem place_mark (layer : Layer) (frame : List UInt8) (start : Nat) :
    Mark.place layer frame start = (place layer frame start).map mark := by
  cases layer with
  | ethernet | ipv4 | icmp | udp => exact lift_fresh (fun _ => rfl) _
  | arp | tcp | other => rfl

theorem nextDraft?_fresh (d : Ipv4.Draft) (level : Level) :
    (Ipv4.Guarded.nextDraft? d.bare).map (Refusal.lift fun s => ⟨level, s.start, 0⟩) =
      some (Refusal.lift (Mark.fresh level) d.next) := by
  rw [Ipv4.Guarded.nextDraft?_bare]
  cases d.next <;> rfl

theorem next?_mark (layer : Layer) :
    d.mark.next? d.bytes layer = some ((d.next layer).map mark) := by
  cases d with
  | ethernet d =>
    cases layer with
    | ipv4 => exact congrArg some (lift_fresh (fun _ => rfl) (d.child 14 20))
    | ethernet | arp | icmp | udp | tcp | other => rfl
  | ipv4 d =>
    cases layer with
    | icmp => exact (nextDraft?_fresh d .icmp).trans (congrArg some (lift_fresh (fun _ => rfl) _))
    | udp => exact (nextDraft?_fresh d .udp).trans (congrArg some (lift_fresh (fun _ => rfl) _))
    | ethernet | arp | ipv4 | tcp | other => rfl
  | icmp | udp => rfl

@[simp] theorem mark_resume (frame : List UInt8) : (d.resume frame).mark = d.mark := by
  cases d with
  | ethernet d | ipv4 d => exact congrArg (Mark.mk _ · _) (Window.start_adopt ..)
  | icmp d | udp d => exact congrArg (Mark.mk _ · _) (Window.start_adopt ..)

/-- What can be done at an open draft in the frame as it is now. -/
structure Workable (frame : List UInt8) : Prop where
  room : d.mark.start + d.mark.fixedLength + d.mark.payloadLength ≤ frame.length
  span : (d.resume frame).header.span = ⟨frame, d.mark.start⟩
  readable : (d.resume frame).header.Readable
  summary : d.mark.summary? frame = some (d.resume frame).header.summary
  call : ∀ reading, d.mark.call? frame reading =
    some (((d.resume frame).call reading).accepted fun reply d' => (d'.bare, reply))
  next : ∀ layer, d.mark.next? frame layer = some (((d.resume frame).next layer).map mark)

theorem workable {frame : List UInt8} (h : frame.length = d.bytes.length) : d.Workable frame := by
  have hbytes : (d.resume frame).bytes = frame := bytes_resume h
  have hmark : (d.resume frame).mark = d.mark := d.mark_resume frame
  have hspan (d : Draft) : d.header.span = ⟨d.bytes, d.mark.start⟩ := by
    cases d <;> rfl
  have hroom := (d.resume frame).mark_room
  have hsummary := (d.resume frame).summary?_mark
  have hcall := (d.resume frame).call?_mark
  have hnext := (d.resume frame).next?_mark
  have hspan := hspan (d.resume frame)
  rw [hbytes, hmark] at hroom hsummary hcall hnext hspan
  exact ⟨hroom, hspan, Header.readable _, hsummary, hcall, hnext⟩

end Draft

end PacketHeaders

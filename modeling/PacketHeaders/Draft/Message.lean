import PacketHeaders.Field
import PacketHeaders.Writing

/-!
# Messages being written

ICMP and UDP headers have eight octets and a payload right behind them. A message remembers how long
the payload is that was written last; octets that an earlier, longer payload left behind do not
belong to it. Header and payload always lie inside the frame: a payload is written first and
remembered then, and neither without room for it.
-/

namespace PacketHeaders

structure Message extends Window 8 where
  payloadLength : Nat
  holds : start + 8 + payloadLength ≤ bytes.length
deriving DecidableEq, Repr

namespace Message

/-- A message without a payload, whatever the frame holds behind the header. -/
def ofWindow (w : Window 8) : Message := { toWindow := w, payloadLength := 0, holds := w.room }

def put (m : Message) (f : Field 8) (value : Nat) : Message where
  toWindow := m.toWindow.put f value
  payloadLength := m.payloadLength
  holds := by rw [Window.start_put, Window.length_put]; exact m.holds

/-- Copies octets behind the header, whatever is remembered of the payload. -/
def copy (m : Message) (payload : List UInt8) : Message where
  toWindow := m.write 8 payload
  payloadLength := m.payloadLength
  holds := by rw [Window.start_write, Window.length_write]; exact m.holds

def remember (m : Message) (payloadLength : Nat)
    (holds : m.start + 8 + payloadLength ≤ m.bytes.length) : Message where
  toWindow := m.toWindow
  payloadLength := payloadLength
  holds := holds

theorem copy_room {m : Message} {payload : List UInt8}
    (h : m.start + 8 + payload.length ≤ m.bytes.length) :
    (m.copy payload).start + 8 + payload.length ≤ (m.copy payload).bytes.length := by
  rw [copy, Window.start_write, Window.length_write]
  exact h

def setPayload (payload : List UInt8) : Writing Message Unit := do
  let m ← get
  let required := m.start + 8 + payload.length
  if h : required ≤ m.bytes.length then
    set (m.copy payload)
    set ((m.copy payload).remember payload.length (copy_room h))
  else throw (.overflow required m.bytes.length)

theorem setPayload_of_le {m : Message} {payload : List UInt8}
    (h : m.start + 8 + payload.length ≤ m.bytes.length) :
    setPayload payload m = .ok () ((m.copy payload).remember payload.length (copy_room h)) := by
  change (dite (m.start + 8 + payload.length ≤ m.bytes.length) _ _ : Writing Message Unit) m = _
  rw [dif_pos h]
  rfl

theorem setPayload_of_lt {m : Message} {payload : List UInt8}
    (h : m.bytes.length < m.start + 8 + payload.length) : setPayload payload m =
      .error (.overflow (m.start + 8 + payload.length) m.bytes.length) m := by
  change (dite (m.start + 8 + payload.length ≤ m.bytes.length) _ _ : Writing Message Unit) m = _
  rw [dif_neg (Nat.not_le_of_lt h)]
  rfl

/-- The same message in another frame of the same size. -/
def adopt (m : Message) (frame : List UInt8) : Message where
  toWindow := m.toWindow.adopt frame
  payloadLength := m.payloadLength
  holds := by rw [Window.start_adopt, Window.length_adopt]; exact m.holds

def length (m : Message) : Nat := 8 + m.payloadLength

/-- Header and payload. -/
def octets (m : Message) : List UInt8 := m.tail.take m.length

end Message

end PacketHeaders

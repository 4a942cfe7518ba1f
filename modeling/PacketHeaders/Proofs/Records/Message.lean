import PacketHeaders.Draft.Message
import PacketHeaders.Proofs.Refinement

/-!
# Message drafts as records

The record of a message holds the fields of its header and the payload written last. A header field
is invisible in the payload and the payload in the header, and the octets of the message are the one
followed by the other.
-/

namespace PacketHeaders

/-- The fields of a header and the payload behind it. -/
structure Content (φ : Type) where
  fields : φ
  payload : List UInt8

namespace Octets

theorem slice_add (bytes : List UInt8) (pos m n : Nat) :
    slice bytes pos (m + n) = slice bytes pos m ++ slice bytes (pos + m) n := by
  rw [slice, slice, slice, List.take_add, List.drop_drop]

end Octets

namespace Message

variable (m : Message)

/-- The payload that was written last. -/
def payload : List UInt8 := Octets.slice m.bytes (m.start + 8) m.payloadLength

theorem octets_room : m.start + m.length ≤ m.bytes.length := by
  have := m.holds
  simp only [length]
  omega

theorem length_octets : m.octets.length = 8 + m.payloadLength := Octets.length_slice m.octets_room

theorem length_payload : m.payload.length = m.payloadLength := Octets.length_slice m.holds

theorem octets_eq_append : m.octets = m.head ++ m.payload :=
  Octets.slice_add m.bytes m.start 8 m.payloadLength

theorem length_of_payload {m : Message} {payload : List UInt8} (h : m.payload = payload) :
    m.length = 8 + payload.length := by
  rw [length, ← m.length_payload, h]

theorem head_of_tail {m : Message} {w : Window 8} (h : w.tail = m.octets) : w.head = m.head := by
  have hlen : m.head.length = 8 := Octets.length_slice m.room
  rw [Window.head, h, octets_eq_append, List.take_left' hlen]

theorem drop_octets : m.octets.drop 8 = m.payload := by
  have hlen : m.head.length = 8 := Octets.length_slice m.room
  rw [octets_eq_append, List.drop_left' hlen]

theorem drop_tail {m : Message} {w : Window 8} (h : w.tail = m.octets) :
    w.tail.drop 8 = m.payload := by
  rw [h, drop_octets]

theorem payload_put (f : Field 8) (value : Nat) : (m.put f value).payload = m.payload := by
  have hinside := f.inside
  refine Octets.slice_splice_of_disjoint (Or.inr ?_)
  rw [Octets.length_ofNat]
  change m.start + f.pos + f.width ≤ m.start + 8
  omega

variable {φ : Type} (read : Window 8 → φ)

/-- The record of a message whose header is read by `read`. -/
def content : Content φ := ⟨read m.toWindow, m.payload⟩

theorem agree_put (f : Field 8) {value : Nat} {fields : φ}
    (h : read (m.toWindow.put f value) = fields) :
    Agree toWindow (content · read) 8 m (.ok () (m.put f value)) (.ok ⟨fields, m.payload⟩) := by
  refine .done ?_ (.put ..)
  rw [content, payload_put]
  exact congrArg (Content.mk · _) h

/-- A payload is accepted when the frame has room for it. -/
theorem agree_setPayload (hread : ∀ {w w' : Window 8}, w.head = w'.head → read w = read w')
    (payload : List UInt8) :
    Agree toWindow (content · read) (8 + payload.length) m (m.setPayload payload)
      (if m.start + 8 + payload.length ≤ m.bytes.length then .ok ⟨read m.toWindow, payload⟩
        else .error (.overflow (m.start + 8 + payload.length) m.bytes.length)) := by
  by_cases h : m.start + 8 + payload.length ≤ m.bytes.length
  · have hfields : read (m.write 8 payload) = read m.toWindow :=
      hread (m.head_write_of_le (Nat.le_refl _) payload)
    have hpayload : Octets.slice (m.write 8 payload).bytes (m.start + 8) payload.length = payload :=
      Octets.slice_splice_self h
    rw [if_pos h, setPayload_of_le h]
    refine .done ?_ (.write _ (Nat.le_refl _))
    refine (congrArg (Content.mk · _) hfields).trans ?_
    exact congrArg (Content.mk _) hpayload
  · rw [if_neg h, setPayload_of_lt (Nat.lt_of_not_le h)]
    exact .refused _

end Message

end PacketHeaders

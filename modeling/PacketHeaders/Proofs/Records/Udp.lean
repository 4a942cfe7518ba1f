import PacketHeaders.Draft.Udp
import PacketHeaders.Proofs.Records.Message

/-!
# UDP drafts as records

Neither the length nor the checksum follows the payload.
-/

namespace PacketHeaders.Udp

/-- How far an edit may write. -/
def Edit.extent : Edit → Nat
  | .payload bytes => 8 + bytes.length
  | _ => 8

def amend (start size : Nat) (c : Content Fields) : Edit → Except Fault (Content Fields)
  | .sourcePort value => .ok { c with fields.sourcePort := value }
  | .destinationPort value => .ok { c with fields.destinationPort := value }
  | .length value => .ok { c with fields.length := value }
  | .checksum value => .ok { c with fields.checksum := value }
  | .payload bytes =>
    if start + 8 + bytes.length ≤ size then .ok { c with payload := bytes }
    else .error (.overflow (start + 8 + bytes.length) size)

namespace Draft

def content (d : Draft) : Content Fields := d.toMessage.content fun w => (Header.mk w).fields

/-- Agreement of UDP drafts with their records. -/
abbrev Agrees (len : Nat) (d : Draft) :
    EStateM.Result Fault Draft Unit → Except Fault (Content Fields) → Prop :=
  Agree (fun d : Draft => d.toWindow) content len d

variable (d : Draft)

theorem agrees_put (f : Field 8) {value : Nat} {fields : Fields}
    (h : (Header.mk (d.toWindow.put f value)).fields = fields) :
    d.Agrees 8 (.ok () ⟨d.toMessage.put f value⟩) (.ok ⟨fields, d.toMessage.payload⟩) := by
  have hmessage := d.toMessage.agree_put (fun w => (Header.mk w).fields) f h
  exact hmessage.wrap mk

theorem agrees_edit (e : Edit) :
    d.Agrees e.extent (d.edit e) (amend d.start d.bytes.length d.content e) := by
  cases e with
  | payload bytes =>
    have hmessage := d.toMessage.agree_setPayload (fun w => (Header.mk w).fields)
      Header.fields_congr bytes
    exact hmessage.wrap mk
  | sourcePort | destinationPort | length | checksum =>
    apply agrees_put
    simp (disch := decide) [content, Message.content, Header.fields_mk]

def refinement : Refinement 8 Draft Edit (Content Fields) where
  window d := d.toWindow
  edit := edit
  record := content
  amend := amend
  extent := Edit.extent
  agree := agrees_edit

end Draft

end PacketHeaders.Udp

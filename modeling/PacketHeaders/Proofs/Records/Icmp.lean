import PacketHeaders.Draft.Icmp
import PacketHeaders.Proofs.Records.Message

/-!
# ICMP drafts as records

Type and code are amended together, and what is accepted depends on the type and the code that the
record holds.
-/

namespace PacketHeaders.Icmp

/-- How far an edit may write. -/
def Edit.extent : Edit → Nat
  | .payload bytes => 8 + bytes.length
  | _ => 8

/-- The number that the code of a record gets under a new type, if it has one there. -/
def Fields.carriedCode? (f : Fields) (type : IcmpType) : Option UInt8 :=
  if type.codes? = none ∨ f.code = .noCode ∨ f.code = .undefined then some 0
  else f.code.number? type

def amend (start size : Nat) (c : Content Fields) : Edit → Except Fault (Content Fields)
  | .type type =>
    match type.number? with
    | none => .error (.unsupported "Undefined icmp type has no type number")
    | some n =>
      match c.fields.carriedCode? type with
      | some code => .ok { c with fields.typeNumber := n, fields.codeNumber := code }
      | none => .error (foreignCode c.fields.code type ", change the code first")
  | .code code =>
    match code.number? c.fields.type with
    | some n => .ok { c with fields.codeNumber := n }
    | none => .error (foreignCode code c.fields.type "")
  | .checksum value => .ok { c with fields.checksum := value }
  | .id value => .ok { c with fields.id := value }
  | .sequenceNumber value => .ok { c with fields.sequenceNumber := value }
  | .payload bytes =>
    if start + 8 + bytes.length ≤ size then .ok { c with payload := bytes }
    else .error (.overflow (start + 8 + bytes.length) size)

namespace Draft

def content (d : Draft) : Content Fields := d.toMessage.content fun w => (Header.mk w).fields

/-- Agreement of ICMP drafts with their records. -/
abbrev Agrees (len : Nat) (d : Draft) :
    EStateM.Result Fault Draft Unit → Except Fault (Content Fields) → Prop :=
  Agree (fun d : Draft => d.toWindow) content len d

variable (d : Draft)

theorem agrees_put (f : Field 8) {value : Nat} {fields : Fields}
    (h : (Header.mk (d.toWindow.put f value)).fields = fields) :
    d.Agrees 8 (.ok () ⟨d.toMessage.put f value⟩) (.ok ⟨fields, d.toMessage.payload⟩) := by
  have hmessage := d.toMessage.agree_put (fun w => (Header.mk w).fields) f h
  exact hmessage.wrap mk

theorem agrees_putTypeAndCode (type code : UInt8) :
    d.Agrees 8 (.ok () ⟨(d.put Layout.type type.toNat).put Layout.code code.toNat⟩)
      (.ok { d.content with fields.typeNumber := type, fields.codeNumber := code }) := by
  refine .done ?_ (.trans (.put ..) (.put ..))
  rw [content, Message.content, Message.payload_put, Message.payload_put]
  simp (disch := decide) [content, Message.content, Message.put, Header.fields_mk]

theorem agrees_edit (e : Edit) :
    d.Agrees e.extent (d.edit e) (amend d.start d.bytes.length d.content e) := by
  cases e with
  | type type =>
    have hcarried : d.content.fields.carriedCode? type = d.carriedCode? type := rfl
    have hcode : d.content.fields.code = d.header.code := rfl
    rw [edit, setType_eq, amend, hcarried, hcode]
    cases type.number? with
    | none => exact .refused _
    | some n =>
      cases d.carriedCode? type with
      | none => exact .refused _
      | some code => exact d.agrees_putTypeAndCode n code
  | code code =>
    have htype : d.content.fields.type = d.header.type := rfl
    rw [edit, setCode_eq, amend, htype]
    cases code.number? d.header.type with
    | none => exact .refused _
    | some n =>
      apply agrees_put
      simp (disch := decide) [content, Message.content, Header.fields_mk]
  | payload bytes =>
    have hmessage := d.toMessage.agree_setPayload (fun w => (Header.mk w).fields)
      Header.fields_congr bytes
    exact hmessage.wrap mk
  | checksum | id | sequenceNumber =>
    apply agrees_put
    simp (disch := decide) [content, Message.content, Header.fields_mk]

def refinement : Refinement 8 Draft Edit (Content Fields) where
  window d := d.toWindow
  edit := edit
  record := content
  amend := amend
  extent := Edit.extent
  agree := agrees_edit

end Draft

end PacketHeaders.Icmp

import PacketHeaders.Draft.Message
import PacketHeaders.Header.Icmp

/-!
# Writing ICMP messages

Type and code are written together, because a code means something only under its type. A new type
takes over the code that the draft holds, if that code exists under the new type too; a type without
codes, or one that follows such a type, starts with zero.
-/

namespace PacketHeaders.Icmp

structure Draft extends Message

/-- The writing calls. -/
inductive Edit
  | type (type : IcmpType)
  | code (code : IcmpCode)
  | checksum (value : UInt16)
  | id (value : UInt16)
  | sequenceNumber (value : UInt16)
  | payload (bytes : List UInt8)
deriving DecidableEq, Repr

/-- The fault of a code that has no number under a type. -/
def foreignCode (code : IcmpCode) (type : IcmpType) (advice : String) : Fault :=
  .unsupported
    ("icmp code " ++ Named.name code ++ " is not valid for type " ++ Named.name type ++ advice)

namespace Draft

def ofWindow (w : Window 8) : Draft := ⟨.ofWindow w⟩

def place (bytes : List UInt8) (start : Nat) : Except Fault Draft :=
  (Window.place bytes start 8).map ofWindow

/-- What has been written so far, up to the end of the frame. -/
def header (d : Draft) : Header := ⟨d.toWindow⟩

/-- The number that the present code gets under a new type, if it has one there. -/
def carriedCode? (d : Draft) (type : IcmpType) : Option UInt8 :=
  if type.codes? = none ∨ d.header.code = .noCode ∨ d.header.code = .undefined then some 0
  else d.header.code.number? type

def setType (type : IcmpType) : Writing Draft Unit := do
  let n ← .demand type.number? (.unsupported "Undefined icmp type has no type number")
  let d ← get
  let code ← .demand (d.carriedCode? type)
    (foreignCode d.header.code type ", change the code first")
  -- Both numbers are known before the first octet is written.
  modify fun d => ⟨d.put Layout.type n.toNat⟩
  modify fun d => ⟨d.put Layout.code code.toNat⟩

def setCode (code : IcmpCode) : Writing Draft Unit := do
  let d ← get
  let n ← .demand (code.number? d.header.type) (foreignCode code d.header.type "")
  modify fun d => ⟨d.put Layout.code n.toNat⟩

theorem setType_eq (d : Draft) (type : IcmpType) :
    d.setType type =
      match type.number? with
      | some n =>
        match d.carriedCode? type with
        | some code => .ok () ⟨(d.put Layout.type n.toNat).put Layout.code code.toNat⟩
        | none => .error (foreignCode d.header.code type ", change the code first") d
      | none => .error (.unsupported "Undefined icmp type has no type number") d := by
  rw [setType, Writing.demand_bind]
  cases type.number? with
  | none => rfl
  | some n =>
    dsimp only
    rw [Writing.get_bind, Writing.demand_bind]
    cases d.carriedCode? type <;> rfl

theorem setCode_eq (d : Draft) (code : IcmpCode) :
    d.setCode code =
      match code.number? d.header.type with
      | some n => .ok () ⟨d.put Layout.code n.toNat⟩
      | none => .error (foreignCode code d.header.type "") d := by
  rw [setCode, Writing.get_bind, Writing.demand_bind]
  cases code.number? d.header.type <;> rfl

def setChecksum (d : Draft) (value : UInt16) : Draft := ⟨d.put Layout.checksum value.toNat⟩

def setId (d : Draft) (value : UInt16) : Draft := ⟨d.put Layout.id value.toNat⟩

def setSequenceNumber (d : Draft) (value : UInt16) : Draft :=
  ⟨d.put Layout.sequenceNumber value.toNat⟩

def setPayload (payload : List UInt8) : Writing Draft Unit :=
  fun d => (Message.setPayload payload d.toMessage).recast id mk

def edit : Edit → Writing Draft Unit
  | .type type => setType type
  | .code code => setCode code
  | .checksum value => modify (·.setChecksum value)
  | .id value => modify (·.setId value)
  | .sequenceNumber value => modify (·.setSequenceNumber value)
  | .payload bytes => setPayload bytes

/-- The checksum of the header and the payload written so far. -/
def defaultChecksum (d : Draft) : UInt16 := checksumOf d.toMessage.octets

end Draft

end PacketHeaders.Icmp

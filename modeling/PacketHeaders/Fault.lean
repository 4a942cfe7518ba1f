/-!
# Faults

Why a header could not be found in a frame or a value could not be written into one. The numbers in
a fault are those of the request that failed; `Fault.message` is the wording shown to a user.
-/

namespace PacketHeaders

inductive Fault
  /-- Fewer octets are left from `offset` on than the header needs. -/
  | bounds (offset required available : Nat)
  /-- A text is not the written form of an address. -/
  | format (detail : String)
  /-- A number does not fit its field. -/
  | range (field : String) (value max : UInt32)
  /-- A value has no representation on the wire. -/
  | unsupported (detail : String)
  /-- A payload ends past the end of the frame. -/
  | overflow (required capacity : Nat)
  /-- A stored header length is too short to hold the header it belongs to. -/
  | headerLength (layer : String) (length : Nat)
  /-- The device that carries frames failed. -/
  | transfer (detail : String)
deriving DecidableEq, Repr

def Fault.message : Fault → String
  | bounds offset required available =>
    s!"Buffer too small: header at offset {offset} needs {required} bytes, {available} available"
  | format detail => s!"Malformed address: {detail}"
  | range field value max => s!"Value {value.toNat} out of range for {field} (max {max.toNat})"
  | unsupported detail => s!"Unsupported value: {detail}"
  | overflow required capacity =>
    s!"Payload overflow: {required} bytes needed, buffer holds {capacity}"
  | headerLength layer length => s!"Invalid {layer} header length: {length} bytes"
  | transfer detail => s!"I/O error: {detail}"

/-- Why a step of a walk or a script was refused: it met a fault, or there is no such step there. -/
inductive Refusal
  | fault (fault : Fault)
  | noSuchStep
deriving DecidableEq, Repr

/-- What was found, as a `β`, or the fault that kept it from being found. -/
def Refusal.lift {α β : Type} (wrap : α → β) : Except Fault α → Except Refusal β
  | .ok found => .ok (wrap found)
  | .error f => .error (.fault f)

end PacketHeaders

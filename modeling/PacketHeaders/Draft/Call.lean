import PacketHeaders.Draft.Ipv4

/-!
# Calls to drafts

A call edits a draft or asks it something. Storing a checksum does both: it writes the checksum
that the draft had before and replies with it. An Ethernet draft has nothing to be asked, so its
calls are its edits.
-/

namespace PacketHeaders

/-- What a call gives back. -/
inductive Reply
  | nothing
  | number (n : Nat)
  | truth (b : Bool)
deriving DecidableEq, Repr

/-- Makes an edit, which has nothing to give back. -/
def answered {σ : Type} (edit : Writing σ Unit) : Writing σ Reply := do
  edit
  return .nothing

theorem answered_eq {σ : Type} (edit : Writing σ Unit) (s : σ) :
    answered edit s =
      match edit s with
      | .ok _ s' => .ok .nothing s'
      | .error fault s' => .error fault s' := by
  change (edit >>= fun _ => pure Reply.nothing).run s = _
  rw [EStateM.run_bind, EStateM.run]
  cases edit s <;> rfl

namespace Ipv4

inductive Call
  | edit (edit : Edit)
  | defaultChecksum
  | verifyChecksum
  | storeChecksum
deriving DecidableEq, Repr

def Draft.call : Call → Writing Draft Reply
  | .edit e => answered (edit e)
  | .defaultChecksum => return .number (← get).defaultChecksum.toNat
  | .verifyChecksum => return .truth (← get).header.verifyChecksum
  | .storeChecksum => do
    let checksum := (← get).defaultChecksum
    modify (·.setChecksum checksum)
    return .number checksum.toNat

end Ipv4

namespace Icmp

inductive Call
  | edit (edit : Edit)
  | defaultChecksum
  | storeChecksum
deriving DecidableEq, Repr

def Draft.call : Call → Writing Draft Reply
  | .edit e => answered (edit e)
  | .defaultChecksum => return .number (← get).defaultChecksum.toNat
  | .storeChecksum => do
    let checksum := (← get).defaultChecksum
    modify (·.setChecksum checksum)
    return .number checksum.toNat

end Icmp

namespace Udp

inductive Call
  | edit (edit : Edit)
  | datagramLength
  | defaultChecksum
  | transportChecksum (ends : Endpoints)
  | storeChecksum
  | storeTransportChecksum (ends : Endpoints)
deriving DecidableEq, Repr

def Draft.call : Call → Writing Draft Reply
  | .edit e => answered (edit e)
  | .datagramLength => return .number (← get).datagramLength
  | .defaultChecksum => return .number (← get).defaultChecksum.toNat
  | .transportChecksum ends => return .number ((← get).transportChecksum ends).toNat
  | .storeChecksum => do
    let checksum := (← get).defaultChecksum
    modify (·.setChecksum checksum)
    return .number checksum.toNat
  | .storeTransportChecksum ends => do
    let checksum := (← get).transportChecksum ends
    modify (·.setChecksum checksum)
    return .number checksum.toNat

end Udp

end PacketHeaders

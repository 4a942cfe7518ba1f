import PacketHeaders.Assigned.Named

/-!
# ARP hardware types and operations
-/

namespace PacketHeaders

inductive HardwareType
  | arp
  | rarp
  | undefined
deriving DecidableEq, Repr

namespace HardwareType

def ofNumber (n : UInt16) : HardwareType :=
  match n with
  | 1 => arp
  | 0 => rarp
  | _ => undefined

theorem ofNumber_eq_iff {n : UInt16} {hardware : HardwareType} (h : hardware ≠ undefined) :
    ofNumber n = hardware ↔ (n, hardware) ∈ [(0, rarp), (1, arp)] := by
  constructor
  · rintro rfl
    unfold ofNumber at h ⊢
    split at h
    all_goals first | decide | exact absurd rfl h
  · intro hmem
    simp only [List.mem_cons, Prod.mk.injEq, List.not_mem_nil, or_false] at hmem
    rcases hmem with ⟨rfl, rfl⟩ | ⟨rfl, rfl⟩ <;> rfl

/-- What texts call the hardware type. -/
def text : HardwareType → String
  | arp => "ARP"
  | rarp => "RARP"
  | undefined => "Undefined"

instance : Named HardwareType where
  all := [arp, rarp, undefined]
  name
    | arp => "Arp"
    | rarp => "Rarp"
    | undefined => "Undefined"
  find?_name value := by cases value <;> rfl

end HardwareType

inductive ArpOperation
  | arpRequest
  | arpReply
  | rarpRequest
  | rarpReply
  | inArpRequest
  | inArpReply
  | undefined
deriving DecidableEq, Repr

namespace ArpOperation

def ofNumber (n : UInt16) : ArpOperation :=
  match n with
  | 1 => arpRequest
  | 2 => arpReply
  | 3 => rarpRequest
  | 4 => rarpReply
  | 8 => inArpRequest
  | 9 => inArpReply
  | _ => undefined

theorem ofNumber_eq_iff {n : UInt16} {operation : ArpOperation} (h : operation ≠ undefined) :
    ofNumber n = operation ↔ (n, operation) ∈ [(1, arpRequest), (2, arpReply), (3, rarpRequest),
      (4, rarpReply), (8, inArpRequest), (9, inArpReply)] := by
  constructor
  · rintro rfl
    unfold ofNumber at h ⊢
    split at h
    all_goals first | decide | exact absurd rfl h
  · intro hmem
    simp only [List.mem_cons, Prod.mk.injEq, List.not_mem_nil, or_false] at hmem
    rcases hmem with ⟨rfl, rfl⟩ | ⟨rfl, rfl⟩ | ⟨rfl, rfl⟩ | ⟨rfl, rfl⟩ | ⟨rfl, rfl⟩ | ⟨rfl, rfl⟩ <;>
      rfl

instance : Named ArpOperation where
  all := [arpRequest, arpReply, rarpRequest, rarpReply, inArpRequest, inArpReply, undefined]
  name
    | arpRequest => "ArpRequest"
    | arpReply => "ArpReply"
    | rarpRequest => "RArpRequest"
    | rarpReply => "RArpReply"
    | inArpRequest => "InArpRequest"
    | inArpReply => "InArpReply"
    | undefined => "Undefined"
  find?_name value := by cases value <;> rfl

/-- Texts call an operation by its name. -/
def text (operation : ArpOperation) : String := Named.name operation

end ArpOperation

end PacketHeaders

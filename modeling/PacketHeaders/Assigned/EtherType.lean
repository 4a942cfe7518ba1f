import PacketHeaders.Assigned.Named

/-!
# Ethertypes

What an Ethernet frame carries. `undefined` stands for every number that is not assigned here and
has none of its own.
-/

namespace PacketHeaders

inductive EtherType
  | ipv4
  | arp
  | rarp
  | undefined
deriving DecidableEq, Repr

namespace EtherType

def ofNumber (n : UInt16) : EtherType :=
  match n with
  | 0x0800 => ipv4
  | 0x0806 => arp
  | 0x8035 => rarp
  | _ => undefined

def number? : EtherType → Option UInt16
  | ipv4 => some 0x0800
  | arp => some 0x0806
  | rarp => some 0x8035
  | undefined => none

/-- The number of a protocol is the one that means it. -/
theorem number?_eq_some_iff {protocol : EtherType} {n : UInt16} :
    protocol.number? = some n ↔ protocol ≠ undefined ∧ ofNumber n = protocol := by
  constructor
  · intro h
    cases protocol with
    | undefined => cases h
    | ipv4 | arp | rarp =>
      cases h
      exact ⟨by decide, rfl⟩
  · rintro ⟨hdefined, rfl⟩
    unfold ofNumber at hdefined ⊢
    split at hdefined
    all_goals first | rfl | exact absurd rfl hdefined

/-- What texts call the protocol. -/
def text : EtherType → String
  | ipv4 => "IP"
  | arp => "ARP"
  | rarp => "RARP"
  | undefined => "Undefined"

instance : Named EtherType where
  all := [ipv4, arp, rarp, undefined]
  name
    | ipv4 => "Ip"
    | arp => "Arp"
    | rarp => "Rarp"
    | undefined => "Undefined"
  find?_name value := by cases value <;> rfl

end EtherType

end PacketHeaders

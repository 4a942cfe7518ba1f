import PacketHeaders.Assigned.Named

/-!
# IP protocol numbers

What an IPv4 datagram carries. `undefined` stands for every number that is not assigned here and has
none of its own.
-/

namespace PacketHeaders

inductive IpProtocol
  | tcp
  | udp
  | icmp
  | undefined
deriving DecidableEq, Repr

namespace IpProtocol

def ofNumber (n : UInt8) : IpProtocol :=
  match n with
  | 6 => tcp
  | 17 => udp
  | 1 => icmp
  | _ => undefined

def number? : IpProtocol → Option UInt8
  | tcp => some 6
  | udp => some 17
  | icmp => some 1
  | undefined => none

/-- The number of a protocol is the one that means it. -/
theorem number?_eq_some_iff {protocol : IpProtocol} {n : UInt8} :
    protocol.number? = some n ↔ protocol ≠ undefined ∧ ofNumber n = protocol := by
  constructor
  · intro h
    cases protocol with
    | undefined => cases h
    | tcp | udp | icmp =>
      cases h
      exact ⟨by decide, rfl⟩
  · rintro ⟨hdefined, rfl⟩
    unfold ofNumber at hdefined ⊢
    split at hdefined
    all_goals first | rfl | exact absurd rfl hdefined

/-- What texts call the protocol. -/
def text : IpProtocol → String
  | tcp => "TCP"
  | udp => "UDP"
  | icmp => "ICMP"
  | undefined => "Undefined"

instance : Named IpProtocol where
  all := [tcp, udp, icmp, undefined]
  name
    | tcp => "Tcp"
    | udp => "Udp"
    | icmp => "Icmp"
    | undefined => "Undefined"
  find?_name value := by cases value <;> rfl

end IpProtocol

end PacketHeaders

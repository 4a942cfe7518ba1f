import PacketHeaders.Assigned.Named

/-!
# ICMP types and codes

A code has a meaning only together with its type: three types have a table of codes, numbered from
zero in the order of the table, and a message of any other type has no code. `undefined` stands for
every number that is not assigned here and has none of its own.
-/

namespace PacketHeaders

inductive IcmpType
  | echoRequest
  | echoReply
  | unreached
  | redirect
  | timeExceeded
  | infoRequest
  | infoReply
  | timeStamp
  | timeStampReply
  | parameterProblem
  | addressMaskRequest
  | addressMaskReply
  | undefined
deriving DecidableEq, Repr

namespace IcmpType

def ofNumber (n : UInt8) : IcmpType :=
  match n with
  | 8 => echoRequest
  | 0 => echoReply
  | 3 => unreached
  | 5 => redirect
  | 11 => timeExceeded
  | 15 => infoRequest
  | 16 => infoReply
  | 13 => timeStamp
  | 14 => timeStampReply
  | 12 => parameterProblem
  | 17 => addressMaskRequest
  | 18 => addressMaskReply
  | _ => undefined

def number? : IcmpType → Option UInt8
  | echoRequest => some 8
  | echoReply => some 0
  | unreached => some 3
  | redirect => some 5
  | timeExceeded => some 11
  | infoRequest => some 15
  | infoReply => some 16
  | timeStamp => some 13
  | timeStampReply => some 14
  | parameterProblem => some 12
  | addressMaskRequest => some 17
  | addressMaskReply => some 18
  | undefined => none

/-- The number of a type is the one that means it. -/
theorem number?_eq_some_iff {type : IcmpType} {n : UInt8} :
    type.number? = some n ↔ type ≠ undefined ∧ ofNumber n = type := by
  constructor
  · intro h
    cases type with
    | undefined => cases h
    | _ =>
      cases h
      exact ⟨by decide, rfl⟩
  · rintro ⟨hdefined, rfl⟩
    unfold ofNumber at hdefined ⊢
    split at hdefined
    all_goals first | rfl | exact absurd rfl hdefined

/-- Echo messages carry an identifier and a sequence number. -/
def isEcho : IcmpType → Bool
  | echoRequest | echoReply => true
  | _ => false

/-- What texts call the type. -/
def text : IcmpType → String
  | echoRequest => "Echo Request"
  | echoReply => "Echo Reply"
  | unreached => "Destination Unreachable"
  | redirect => "Redirect"
  | timeExceeded => "Time Exceeded"
  | infoRequest => "Information Request"
  | infoReply => "Information Reply"
  | timeStamp => "Timestamp Request"
  | timeStampReply => "Timestamp Reply"
  | parameterProblem => "Parameter Problem"
  | addressMaskRequest => "Address Mask Request"
  | addressMaskReply => "Address Mask Reply"
  | undefined => "Unknown"

instance : Named IcmpType where
  all :=
    [echoRequest, echoReply, unreached, redirect, timeExceeded, infoRequest, infoReply, timeStamp,
     timeStampReply, parameterProblem, addressMaskRequest, addressMaskReply, undefined]
  name
    | echoRequest => "EchoRequest"
    | echoReply => "EchoReply"
    | unreached => "Unreached"
    | redirect => "Redirect"
    | timeExceeded => "TimeExceeded"
    | infoRequest => "InfoRequest"
    | infoReply => "InfoReply"
    | timeStamp => "TimeStamp"
    | timeStampReply => "TimeStampReply"
    | parameterProblem => "ParameterProblem"
    | addressMaskRequest => "AddressMaskRequest"
    | addressMaskReply => "AddressMaskReply"
    | undefined => "Undefined"
  find?_name value := by cases value <;> rfl

end IcmpType

inductive IcmpCode
  | netUnreachable
  | hostUnreachable
  | protocolUnreachable
  | portUnreachable
  | fragmentationNeeded
  | sourceRouteFailed
  | netUnknown
  | hostUnknown
  | hostIsolated
  | netProhibited
  | hostProhibited
  | netUnreachableForTypeOfService
  | hostUnreachableForTypeOfService
  | packetFiltered
  | precedenceViolation
  | precedenceCutOff
  | redirectNet
  | redirectHost
  | redirectNetForTypeOfService
  | redirectHostForTypeOfService
  | ttlCountExceeded
  | fragmentReassemblyTimeExceeded
  | noCode
  | undefined
deriving DecidableEq, Repr

namespace IcmpCode

/-- What texts call the code. -/
def text : IcmpCode → String
  | netUnreachable => "Network Unreachable"
  | hostUnreachable => "Host Unreachable"
  | protocolUnreachable => "Protocol Unreachable"
  | portUnreachable => "Port Unreachable"
  | fragmentationNeeded => "Fragmentation Needed and Don't Fragment was Set"
  | sourceRouteFailed => "Source Route Failed"
  | netUnknown => "Network Unknown"
  | hostUnknown => "Host Unknown"
  | hostIsolated => "Host Isolated"
  | netProhibited => "Network Administratively Prohibited"
  | hostProhibited => "Host Administratively Prohibited"
  | netUnreachableForTypeOfService => "Network Unreachable for Type of Service"
  | hostUnreachableForTypeOfService => "Host Unreachable for Type of Service"
  | packetFiltered => "Packet Filtered"
  | precedenceViolation => "Precedence Violation"
  | precedenceCutOff => "Precedence Cut-off In Effect"
  | redirectNet => "Redirect Network"
  | redirectHost => "Redirect Host"
  | redirectNetForTypeOfService => "Redirect Network for Type of Service"
  | redirectHostForTypeOfService => "Redirect Host for Type of Service"
  | ttlCountExceeded => "TTL Count Exceeded"
  | fragmentReassemblyTimeExceeded => "Fragment Reassembly Time Exceeded"
  | noCode => "None"
  | undefined => "Unknown"

instance : Named IcmpCode where
  all :=
    [netUnreachable, hostUnreachable, protocolUnreachable, portUnreachable, fragmentationNeeded,
     sourceRouteFailed, netUnknown, hostUnknown, hostIsolated, netProhibited, hostProhibited,
     netUnreachableForTypeOfService, hostUnreachableForTypeOfService, packetFiltered,
     precedenceViolation, precedenceCutOff, redirectNet, redirectHost,
     redirectNetForTypeOfService, redirectHostForTypeOfService, ttlCountExceeded,
     fragmentReassemblyTimeExceeded, noCode, undefined]
  name
    | netUnreachable => "NetUnreachable"
    | hostUnreachable => "HostUnreachable"
    | protocolUnreachable => "ProtocolUnreachable"
    | portUnreachable => "PortUnreachable"
    | fragmentationNeeded => "FragmentationNeeded"
    | sourceRouteFailed => "SourceRouteFailed"
    | netUnknown => "NetUnknown"
    | hostUnknown => "HostUnknown"
    | hostIsolated => "HostIsolated"
    | netProhibited => "NetProhibited"
    | hostProhibited => "HostProhibited"
    | netUnreachableForTypeOfService => "NetUnreachableForTypeOfService"
    | hostUnreachableForTypeOfService => "HostUnreachableForTypeOfService"
    | packetFiltered => "PacketFiltered"
    | precedenceViolation => "PrecedenceViolation"
    | precedenceCutOff => "PrecedenceCutOff"
    | redirectNet => "RedirectNet"
    | redirectHost => "RedirectHost"
    | redirectNetForTypeOfService => "RedirectNetForTypeOfService"
    | redirectHostForTypeOfService => "RedirectHostForTypeOfService"
    | ttlCountExceeded => "TtlCountExceeded"
    | fragmentReassemblyTimeExceeded => "FragmentReassemblyTimeExceeded"
    | noCode => "None"
    | undefined => "Undefined"
  find?_name value := by cases value <;> rfl

end IcmpCode

/-- The codes of a type in the order of their numbers. -/
def IcmpType.codes? : IcmpType → Option (List IcmpCode)
  | unreached => some
      [.netUnreachable, .hostUnreachable, .protocolUnreachable, .portUnreachable,
       .fragmentationNeeded, .sourceRouteFailed, .netUnknown, .hostUnknown, .hostIsolated,
       .netProhibited, .hostProhibited, .netUnreachableForTypeOfService,
       .hostUnreachableForTypeOfService, .packetFiltered, .precedenceViolation, .precedenceCutOff]
  | redirect => some
      [.redirectNet, .redirectHost, .redirectNetForTypeOfService, .redirectHostForTypeOfService]
  | timeExceeded => some [.ttlCountExceeded, .fragmentReassemblyTimeExceeded]
  | _ => none

namespace IcmpCode

/-- The meaning of a code number under a type. -/
def ofNumber (type : IcmpType) (n : UInt8) : IcmpCode :=
  if type = .undefined then undefined
  else match type.codes? with
    | some codes => codes[n.toNat]?.getD undefined
    | none => noCode

/-- The number of a code under a type, if it belongs there. A type without codes has the number zero
for the absent code. -/
def number? (code : IcmpCode) (type : IcmpType) : Option UInt8 :=
  match type.codes? with
  | some codes => (codes.idxOf? code).map .ofNat
  | none => if type ≠ .undefined ∧ code = noCode then some 0 else none

end IcmpCode

end PacketHeaders

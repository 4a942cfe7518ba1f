import PacketHeaders.Text.Digit

/-!
# IPv4 addresses

Four octets, written as four decimal numbers with dots between them. Each address has one written
form and a reader accepts that form alone.
-/

namespace PacketHeaders

structure Ipv4Address where
  octets : List UInt8
  length_octets : octets.length = 4
deriving DecidableEq, Repr

namespace Ipv4Address

def ofOctets? (octets : List UInt8) : Option Ipv4Address :=
  if h : octets.length = 4 then some ⟨octets, h⟩ else none

def text (address : Ipv4Address) : String :=
  String.ofList (['.'].intercalate (address.octets.map Decimal.ofOctet))

def ofText? (text : String) : Option Ipv4Address :=
  match (text.toList.splitOn '.').mapM Decimal.octet? with
  | some octets => ofOctets? octets
  | none => none

end Ipv4Address

/-- The two ends of a datagram. -/
structure Endpoints where
  source : Ipv4Address
  destination : Ipv4Address
deriving DecidableEq, Repr

end PacketHeaders

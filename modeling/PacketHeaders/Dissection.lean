import PacketHeaders.Header.Ethernet

/-!
# Dissections

Everything known about the frame at the start of a string of octets. The ethertype and the protocol
number decide what to look for; a number that is not assigned ends the dissection quietly, and a
header that has no room is a fault.
-/

namespace PacketHeaders

inductive Network
  /-- ARP or reverse ARP. -/
  | arp (header : Arp.Header)
  | ipv4 (header : Ipv4.Header)
  | unknown (etherType : UInt16)

inductive Transport
  | icmp (header : Icmp.Header)
  | udp (header : Udp.Header)
  | tcp (header : Tcp.Header)
  | unknown (protocol : UInt8)
  /-- The network layer carries no transport header. -/
  | absent

structure Dissection where
  ethernet : Ethernet.Header
  network : Network
  transport : Transport

def Network.ofEthernet (h : Ethernet.Header) : Except Fault Network :=
  match h.protocol with
  | .arp | .rarp => h.arp.map .arp
  | .ipv4 => h.ipv4.map .ipv4
  | .undefined => .ok (.unknown h.etherType)

def Network.text : Network → String
  | arp h => h.listing.text
  | ipv4 h => h.listing.text
  | unknown etherType => "unknown ethertype " ++ Hex.ofWord etherType

def Transport.ofIpv4 (h : Ipv4.Header) : Except Fault Transport :=
  match h.protocol with
  | .icmp => h.icmp.map .icmp
  | .udp => h.udp.map .udp
  | .tcp => h.tcp.map .tcp
  | .undefined => .ok (.unknown h.protocolNumber)

def Transport.ofNetwork : Network → Except Fault Transport
  | .ipv4 h => ofIpv4 h
  | _ => .ok absent

def Transport.text? : Transport → Option String
  | icmp h => some h.listing.text
  | udp h => some h.listing.text
  | tcp h => some h.listing.text
  | unknown protocol => some ("unknown ip protocol " ++ toString protocol.toNat)
  | absent => none

def dissect (bytes : List UInt8) : Except Fault Dissection := do
  let ethernet ← Ethernet.Header.place bytes 0
  let network ← Network.ofEthernet ethernet
  let transport ← Transport.ofNetwork network
  return ⟨ethernet, network, transport⟩

/-- The texts of all layers, each ended by a line break. -/
def Dissection.text (d : Dissection) : String :=
  let layers := d.ethernet.listing.text :: d.network.text :: d.transport.text?.toList
  String.join (layers.map (· ++ "\n"))

end PacketHeaders

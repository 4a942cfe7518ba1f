import PacketHeaders.Header.Ethernet

/-!
# Headers of all layers

One type for a header of any layer, and walks from a header to the next. A walk names the layers to
look for; it stops at the first header that cannot be found. On the way it remembers the ends of the
innermost datagram, which a transport checksum needs.
-/

namespace PacketHeaders

inductive Layer
  | ethernet
  | arp
  | ipv4
  | icmp
  | udp
  | tcp
  /-- A layer without headers here. -/
  | other
deriving DecidableEq, Repr

inductive Header
  | ethernet (header : Ethernet.Header)
  | arp (header : Arp.Header)
  | ipv4 (header : Ipv4.Header)
  | icmp (header : Icmp.Header)
  | udp (header : Udp.Header)
  | tcp (header : Tcp.Header)

/-- What a header of any layer says about itself. -/
structure Summary where
  start : Nat
  headerLength : Nat
  headerBytes : List UInt8
  text : String
deriving DecidableEq, Repr

def Summary.payloadStart (s : Summary) : Nat := s.start + s.headerLength

namespace Header

def place (layer : Layer) (bytes : List UInt8) (start : Nat) : Except Refusal Header :=
  match layer with
  | .ethernet => Refusal.lift ethernet (Ethernet.Header.place bytes start)
  | .arp => Refusal.lift arp (Arp.Header.place bytes start)
  | .ipv4 => Refusal.lift ipv4 (Ipv4.Header.place bytes start)
  | .icmp => Refusal.lift icmp (Icmp.Header.place bytes start)
  | .udp => Refusal.lift udp (Udp.Header.place bytes start)
  | .tcp => Refusal.lift tcp (Tcp.Header.place bytes start)
  | .other => .error .noSuchStep

def next : Header → Layer → Except Refusal Header
  | ethernet h, .arp => Refusal.lift arp h.arp
  | ethernet h, .ipv4 => Refusal.lift ipv4 h.ipv4
  | ipv4 h, .icmp => Refusal.lift icmp h.icmp
  | ipv4 h, .udp => Refusal.lift udp h.udp
  | ipv4 h, .tcp => Refusal.lift tcp h.tcp
  | _, _ => .error .noSuchStep

def summary : Header → Summary
  | ethernet h => ⟨h.start, h.headerLength, h.headerBytes, h.listing.text⟩
  | arp h => ⟨h.start, h.headerLength, h.headerBytes, h.listing.text⟩
  | ipv4 h => ⟨h.start, h.headerLength, h.headerBytes, h.listing.text⟩
  | icmp h => ⟨h.start, h.headerLength, h.headerBytes, h.listing.text⟩
  | udp h => ⟨h.start, h.headerLength, h.headerBytes, h.listing.text⟩
  | tcp h => ⟨h.start, h.headerLength, h.headerBytes, h.listing.text⟩

/-- The ends of the datagram that the header opens. -/
def ends? : Header → Option Endpoints
  | ipv4 h => some h.ends
  | _ => none

end Header

/-- A header met on a walk, with the ends of the innermost datagram if they are known. -/
structure Sighting where
  header : Header
  ends : Option Endpoints

/-- The headers met when each layer is looked for behind the one before it. Only the last entry can
be a refusal. -/
def Sighting.walk (ends : Option Endpoints) :
    Except Refusal Header → List Layer → List (Except Refusal Sighting)
  | .error refusal, _ => [.error refusal]
  | .ok header, [] => [.ok ⟨header, header.ends?.or ends⟩]
  | .ok header, layer :: layers =>
    .ok ⟨header, header.ends?.or ends⟩ :: walk (header.ends?.or ends) (header.next layer) layers

end PacketHeaders

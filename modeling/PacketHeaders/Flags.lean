/-!
# Control flags

The flags of an IPv4 datagram are the top three bits of its fragment field, those of a TCP segment
the low six bits of an octet. Bits outside the flags are not kept.
-/

namespace PacketHeaders

structure Ipv4Flags where
  reserved : Bool
  dontFragment : Bool
  moreFragments : Bool
deriving DecidableEq, Repr, Inhabited

namespace Ipv4Flags

def ofBits (bits : UInt8) : Ipv4Flags where
  reserved := bits &&& 4 ≠ 0
  dontFragment := bits &&& 2 ≠ 0
  moreFragments := bits &&& 1 ≠ 0

def bits (flags : Ipv4Flags) : UInt8 :=
  (if flags.reserved then 4 else 0) ||| (if flags.dontFragment then 2 else 0) |||
    (if flags.moreFragments then 1 else 0)

/-- The flags of a sender, who leaves the reserved bit clear. -/
def fragmentation (dontFragment moreFragments : Bool) : Ipv4Flags :=
  ⟨false, dontFragment, moreFragments⟩

def dontFragmentOnly : Ipv4Flags := fragmentation true false

def moreFragmentsOnly : Ipv4Flags := fragmentation false true

end Ipv4Flags

structure TcpFlags where
  fin : Bool
  syn : Bool
  rst : Bool
  psh : Bool
  ack : Bool
  urg : Bool
deriving DecidableEq, Repr, Inhabited

namespace TcpFlags

def ofBits (bits : UInt8) : TcpFlags where
  fin := bits &&& 1 ≠ 0
  syn := bits &&& 2 ≠ 0
  rst := bits &&& 4 ≠ 0
  psh := bits &&& 8 ≠ 0
  ack := bits &&& 16 ≠ 0
  urg := bits &&& 32 ≠ 0

def bits (flags : TcpFlags) : UInt8 :=
  (if flags.fin then 1 else 0) ||| (if flags.syn then 2 else 0) ||| (if flags.rst then 4 else 0) |||
    (if flags.psh then 8 else 0) ||| (if flags.ack then 16 else 0) |||
    (if flags.urg then 32 else 0)

end TcpFlags

end PacketHeaders

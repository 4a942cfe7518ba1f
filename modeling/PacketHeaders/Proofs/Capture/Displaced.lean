import Mathlib.Data.List.Forall2
import PacketHeaders.Header
import PacketHeaders.Proofs.Fields
import PacketHeaders.Proofs.NextHeader

/-!
# Frames with octets in front

Octets in front of a frame displace everything that is found in it and change nothing else. Every
place counts from the start of the frame, also the one in a fault and the end of a datagram, and
all of them grow by the number of those octets; what is read there is what was read before. Placing
a window, cutting the frame and going from a header to the next keep to this, and so do whole walks.
-/

namespace PacketHeaders

/-- The same fault met `n` octets further on. -/
def Fault.displace (n : Nat) : Fault → Fault
  | .bounds offset required available => .bounds (n + offset) required available
  | fault => fault

def Refusal.displace (n : Nat) : Refusal → Refusal
  | .fault f => .fault (f.displace n)
  | .noSuchStep => .noSuchStep

/-- Both searches succeed, with findings that are related, or the second fails as the first does up
to the displacement of its fault. -/
inductive Follows {ε α : Type} (displace : ε → ε) (R : α → α → Prop) :
    Except ε α → Except ε α → Prop
  | found {a a' : α} (related : R a a') : Follows displace R (.ok a) (.ok a')
  | failed (e : ε) : Follows displace R (.error e) (.error (displace e))

namespace Follows

variable {α β : Type} {n : Nat} {R : α → α → Prop} {S : β → β → Prop}

theorem lift_map {γ : Type} {x x' : Except Fault α} (h : Follows (Fault.displace n) R x x')
    {mk : α → γ} {wrap : γ → β} (hwrap : ∀ a a', R a a' → S (wrap (mk a)) (wrap (mk a'))) :
    Follows (Refusal.displace n) S (Refusal.lift wrap (x.map mk))
      (Refusal.lift wrap (x'.map mk)) := by
  cases h with
  | found h => exact .found (hwrap _ _ h)
  | failed f => exact .failed (Refusal.fault f)

end Follows

/-- The same place in a frame with the octets `front` in front of it. -/
structure Span.DisplacedBy (front : List UInt8) (s s' : Span) : Prop where
  bytes_eq : s'.bytes = front ++ s.bytes
  start_eq : s'.start = front.length + s.start

namespace Span.DisplacedBy

variable {front : List UInt8} {s s' : Span}

theorem tail (h : s.DisplacedBy front s') : s'.tail = s.tail := by
  rw [Span.tail, Span.tail, h.bytes_eq, h.start_eq, List.drop_length_add_append]

theorem length_eq (h : s.DisplacedBy front s') :
    s'.bytes.length = front.length + s.bytes.length := by
  rw [h.bytes_eq, List.length_append]

theorem truncate (h : s.DisplacedBy front s') (stop keep : Nat) :
    (s.truncate stop keep).DisplacedBy front (s'.truncate (front.length + stop) keep) where
  bytes_eq := by
    rw [Span.truncate, Span.truncate, h.bytes_eq, h.start_eq, Nat.add_assoc, Nat.add_max_add_left,
      List.take_length_add_append]
  start_eq := h.start_eq

end Span.DisplacedBy

namespace Window

variable {n : Nat} {front : List UInt8}

/-- The second window, if there is one, is the first in the displaced frame. -/
abbrev Displaces (front : List UInt8) : Except Fault (Window n) → Except Fault (Window n) → Prop :=
  Follows (Fault.displace front.length) fun w w' => w.toSpan.DisplacedBy front w'.toSpan

theorem displaces_place (front bytes : List UInt8) (start n : Nat) :
    Displaces front (place bytes start n) (place (front ++ bytes) (front.length + start) n) := by
  have hlength : (front ++ bytes).length = front.length + bytes.length := List.length_append
  by_cases hroom : start + n ≤ bytes.length
  · have hroom' : front.length + start + n ≤ (front ++ bytes).length := by omega
    rw [place_of_le hroom, place_of_le hroom']
    exact .found ⟨rfl, rfl⟩
  · have hout' : (front ++ bytes).length < front.length + start + n := by omega
    rw [place_of_lt (Nat.lt_of_not_le hroom), place_of_lt hout', hlength, Nat.add_sub_add_left]
    exact .failed _

theorem head_of_displaced {w w' : Window n} (h : w.toSpan.DisplacedBy front w'.toSpan) :
    w'.head = w.head := by
  rw [head, head, h.tail]

end Window

theorem Span.DisplacedBy.child {front : List UInt8} {s s' : Span} (h : s.DisplacedBy front s')
    (skip n : Nat) : Window.Displaces front (s.child skip n) (s'.child skip n) := by
  rw [Span.child, Span.child, h.bytes_eq, h.start_eq, Nat.add_assoc]
  exact Window.displaces_place ..

namespace Ipv4.Header

/-- What two IPv4 headers say is the same, only that the datagram of the second ends `n` octets
further on. -/
structure Displaced (n : Nat) (h h' : Header) : Prop where
  fields_eq : h'.fields = h.fields
  datagramEnd_eq : h'.datagramEnd = n + h.datagramEnd
  payload_eq : h'.payload = h.payload
  calculateChecksum_eq : h'.calculateChecksum = h.calculateChecksum
  verifyChecksum_eq : h'.verifyChecksum = h.verifyChecksum

variable {front : List UInt8} {h h' : Header} (hd : h.toSpan.DisplacedBy front h'.toSpan)

include hd

theorem fields_of_displaced : h'.fields = h.fields := fields_congr (Window.head_of_displaced hd)

theorem headerLength_of_displaced : h'.headerLength = h.headerLength :=
  congrArg Fields.headerLength (fields_of_displaced hd)

theorem headerBytes_of_displaced : h'.headerBytes = h.headerBytes := by
  rw [headerBytes, headerBytes, hd.tail, headerLength_of_displaced hd]

theorem datagramEnd_of_displaced : h'.datagramEnd = front.length + h.datagramEnd := by
  have htotal : h'.totalLength = h.totalLength :=
    congrArg Fields.totalLength (fields_of_displaced hd)
  rw [datagramEnd, datagramEnd, htotal, headerLength_of_displaced hd, hd.length_eq, hd.start_eq]
  split
  · rfl
  · rw [Nat.add_assoc, Nat.add_min_add_left]

theorem payload_of_displaced : h'.payload = h.payload := by
  rw [payload, payload, payloadStart, payloadStart, headerLength_of_displaced hd,
    datagramEnd_of_displaced hd, hd.bytes_eq, hd.start_eq, List.take_length_add_append,
    Nat.add_assoc, List.drop_length_add_append]

theorem displaced : h.Displaced front.length h' where
  fields_eq := fields_of_displaced hd
  datagramEnd_eq := datagramEnd_of_displaced hd
  payload_eq := payload_of_displaced hd
  calculateChecksum_eq := by
    rw [calculateChecksum, calculateChecksum, headerBytes_of_displaced hd]
  verifyChecksum_eq := by
    rw [verifyChecksum, verifyChecksum, headerBytes_of_displaced hd, headerLength_of_displaced hd]

theorem displaces_next (n : Nat) : Window.Displaces front (h.next n) (h'.next n) := by
  rw [next, next, headerLength_of_displaced hd, datagramEnd_of_displaced hd]
  split
  · exact .failed _
  · exact (hd.truncate _ 20).child ..

end Ipv4.Header

namespace Icmp.Header

/-- Two ICMP headers have the same message behind them and say the same. -/
structure SameMessage (h h' : Header) : Prop where
  fields_eq : h'.fields = h.fields
  message_eq : h'.message = h.message
  payload_eq : h'.payload = h.payload
  calculateChecksum_eq : h'.calculateChecksum = h.calculateChecksum
  verifyChecksum_eq : h'.verifyChecksum = h.verifyChecksum

theorem sameMessage {front : List UInt8} {h h' : Header}
    (hd : h.toSpan.DisplacedBy front h'.toSpan) : h.SameMessage h' := by
  have hmessage : h'.message = h.message := hd.tail
  refine ⟨fields_congr (Window.head_of_displaced hd), hmessage, ?_, ?_, ?_⟩
  · rw [payload, payload, hmessage]
    rfl
  · rw [calculateChecksum, calculateChecksum, hmessage]
  · rw [verifyChecksum, verifyChecksum, hmessage]

end Icmp.Header

namespace Udp.Header

/-- Two UDP headers begin the same datagram and say the same. -/
structure SameDatagram (h h' : Header) : Prop where
  fields_eq : h'.fields = h.fields
  datagram_eq : h'.datagram = h.datagram
  payload_eq : h'.payload = h.payload
  calculateChecksum_eq : h'.calculateChecksum = h.calculateChecksum
  verifyChecksum_eq : h'.verifyChecksum = h.verifyChecksum
  verifyTransportChecksum_eq : ∀ ends, h'.verifyTransportChecksum ends =
    h.verifyTransportChecksum ends

theorem sameDatagram {front : List UInt8} {h h' : Header}
    (hd : h.toSpan.DisplacedBy front h'.toSpan) : h.SameDatagram h' := by
  have hfields : h'.fields = h.fields := fields_congr (Window.head_of_displaced hd)
  have hlength : h'.length = h.length := congrArg Fields.length hfields
  have hchecksum : h'.checksum = h.checksum := congrArg Fields.checksum hfields
  have hdatagram : h'.datagram = h.datagram := by
    rw [datagram, datagram, hd.tail, hlength]
    rfl
  refine ⟨hfields, hdatagram, ?_, ?_, ?_, fun ends => ?_⟩
  · rw [payload, payload, hdatagram]
    rfl
  · rw [calculateChecksum, calculateChecksum, hdatagram]
  · rw [verifyChecksum, verifyChecksum, hchecksum, hdatagram]
  · rw [verifyTransportChecksum, verifyTransportChecksum, hchecksum, hdatagram]

end Udp.Header

theorem Summary.eq_of_displaced {n : Nat} {s s' : Summary} (hstart : s'.start = n + s.start)
    (hlength : s'.headerLength = s.headerLength) (hbytes : s'.headerBytes = s.headerBytes)
    (htext : s'.text = s.text) : s' = { s with start := n + s.start } := by
  cases s'
  cases hstart
  cases hlength
  cases hbytes
  cases htext
  rfl

namespace Header

/-- What two headers of one layer say is the same, apart from places. -/
inductive SaysSame (n : Nat) : Header → Header → Prop
  | ethernet {h h' : Ethernet.Header} (fields_eq : h'.fields = h.fields) :
      SaysSame n (.ethernet h) (.ethernet h')
  | arp {h h' : Arp.Header} (fields_eq : h'.fields = h.fields) : SaysSame n (.arp h) (.arp h')
  | ipv4 {h h' : Ipv4.Header} (displaced : h.Displaced n h') : SaysSame n (.ipv4 h) (.ipv4 h')
  | icmp {h h' : Icmp.Header} (same : h.SameMessage h') : SaysSame n (.icmp h) (.icmp h')
  | udp {h h' : Udp.Header} (same : h.SameDatagram h') : SaysSame n (.udp h) (.udp h')
  | tcp {h h' : Tcp.Header} (fields_eq : h'.fields = h.fields) : SaysSame n (.tcp h) (.tcp h')

/-- The second header lies `n` octets further on than the first, and so does its payload; all else
is the same. -/
structure Displaced (n : Nat) (h h' : Header) : Prop where
  summary_eq : h'.summary = { h.summary with start := n + h.summary.start }
  payloadStart_eq : h'.summary.payloadStart = n + h.summary.payloadStart
  says_same : SaysSame n h h'

/-- A header of the same layer at the same place of the displaced frame. -/
inductive DisplacedBy (front : List UInt8) : Header → Header → Prop
  | ethernet {h h' : Ethernet.Header} (place : h.toSpan.DisplacedBy front h'.toSpan) :
      DisplacedBy front (.ethernet h) (.ethernet h')
  | arp {h h' : Arp.Header} (place : h.toSpan.DisplacedBy front h'.toSpan) :
      DisplacedBy front (.arp h) (.arp h')
  | ipv4 {h h' : Ipv4.Header} (place : h.toSpan.DisplacedBy front h'.toSpan) :
      DisplacedBy front (.ipv4 h) (.ipv4 h')
  | icmp {h h' : Icmp.Header} (place : h.toSpan.DisplacedBy front h'.toSpan) :
      DisplacedBy front (.icmp h) (.icmp h')
  | udp {h h' : Udp.Header} (place : h.toSpan.DisplacedBy front h'.toSpan) :
      DisplacedBy front (.udp h) (.udp h')
  | tcp {h h' : Tcp.Header} (place : h.toSpan.DisplacedBy front h'.toSpan) :
      DisplacedBy front (.tcp h) (.tcp h')

namespace DisplacedBy

variable {front : List UInt8} {h h' : Header}

theorem says_same (hd : DisplacedBy front h h') : SaysSame front.length h h' := by
  cases hd with
  | ethernet place => exact .ethernet (Ethernet.Header.fields_congr (Window.head_of_displaced place))
  | arp place => exact .arp (Arp.Header.fields_congr (Window.head_of_displaced place))
  | ipv4 place => exact .ipv4 (Ipv4.Header.displaced place)
  | icmp place => exact .icmp (Icmp.Header.sameMessage place)
  | udp place => exact .udp (Udp.Header.sameDatagram place)
  | tcp place => exact .tcp (Tcp.Header.fields_congr (Window.head_of_displaced place))

theorem summary_eq (hd : DisplacedBy front h h') :
    h'.summary = { h.summary with start := front.length + h.summary.start } := by
  cases hd with
  | ethernet place =>
    have hfields := Ethernet.Header.fields_congr (Window.head_of_displaced place)
    exact Summary.eq_of_displaced place.start_eq rfl (Window.head_of_displaced place)
      (congrArg (·.listing.text) hfields)
  | arp place =>
    have hfields := Arp.Header.fields_congr (Window.head_of_displaced place)
    exact Summary.eq_of_displaced place.start_eq rfl (Window.head_of_displaced place)
      (congrArg (·.listing.text) hfields)
  | ipv4 place =>
    exact Summary.eq_of_displaced place.start_eq (Ipv4.Header.headerLength_of_displaced place)
      (Ipv4.Header.headerBytes_of_displaced place)
      (congrArg (·.listing.text) (Ipv4.Header.fields_of_displaced place))
  | icmp place =>
    have hfields := Icmp.Header.fields_congr (Window.head_of_displaced place)
    exact Summary.eq_of_displaced place.start_eq rfl (Window.head_of_displaced place)
      (congrArg (·.listing.text) hfields)
  | udp place =>
    have hfields := Udp.Header.fields_congr (Window.head_of_displaced place)
    exact Summary.eq_of_displaced place.start_eq rfl (Window.head_of_displaced place)
      (congrArg (·.listing.text) hfields)
  | tcp place =>
    have hfields := Tcp.Header.fields_congr (Window.head_of_displaced place)
    exact Summary.eq_of_displaced place.start_eq (congrArg Tcp.Fields.headerLength hfields)
      (Window.head_of_displaced place) (congrArg (·.listing.text) hfields)

theorem displaced (hd : DisplacedBy front h h') : h.Displaced front.length h' where
  summary_eq := hd.summary_eq
  payloadStart_eq := by
    rw [Summary.payloadStart, Summary.payloadStart, hd.summary_eq, Nat.add_assoc]
  says_same := hd.says_same

theorem ends?_eq (hd : DisplacedBy front h h') : h'.ends? = h.ends? := by
  cases hd with
  | ipv4 place =>
    have hfields := Ipv4.Header.fields_of_displaced place
    exact congrArg (fun f : Ipv4.Fields => some (Endpoints.mk f.source f.destination)) hfields
  | ethernet | arp | icmp | udp | tcp => rfl

theorem next (hd : DisplacedBy front h h') (layer : Layer) :
    Follows (Refusal.displace front.length) (DisplacedBy front) (h.next layer) (h'.next layer) := by
  cases hd with
  | ethernet place =>
    cases layer with
    | arp => exact (place.child 14 28).lift_map fun _ _ => .arp
    | ipv4 => exact (place.child 14 20).lift_map fun _ _ => .ipv4
    | ethernet | icmp | udp | tcp | other => exact .failed Refusal.noSuchStep
  | ipv4 place =>
    cases layer with
    | icmp => exact (Ipv4.Header.displaces_next place 8).lift_map fun _ _ => .icmp
    | udp => exact (Ipv4.Header.displaces_next place 8).lift_map fun _ _ => .udp
    | tcp => exact (Ipv4.Header.displaces_next place 20).lift_map fun _ _ => .tcp
    | ethernet | arp | ipv4 | other => exact .failed Refusal.noSuchStep
  | arp | icmp | udp | tcp =>
    cases layer <;> exact .failed Refusal.noSuchStep

end DisplacedBy

theorem follows_place (layer : Layer) (front bytes : List UInt8) (start : Nat) :
    Follows (Refusal.displace front.length) (DisplacedBy front) (place layer bytes start)
      (place layer (front ++ bytes) (front.length + start)) := by
  cases layer with
  | ethernet => exact (Window.displaces_place ..).lift_map fun _ _ => .ethernet
  | arp => exact (Window.displaces_place ..).lift_map fun _ _ => .arp
  | ipv4 => exact (Window.displaces_place ..).lift_map fun _ _ => .ipv4
  | icmp => exact (Window.displaces_place ..).lift_map fun _ _ => .icmp
  | udp => exact (Window.displaces_place ..).lift_map fun _ _ => .udp
  | tcp => exact (Window.displaces_place ..).lift_map fun _ _ => .tcp
  | other => exact .failed Refusal.noSuchStep

end Header

namespace Sighting

/-- The same header `n` octets further on, met inside the same datagram. -/
structure Displaced (n : Nat) (s s' : Sighting) : Prop where
  header : s.header.Displaced n s'.header
  ends_eq : s'.ends = s.ends

theorem displaced_of_header {front : List UInt8} {h h' : Header} (hd : h.DisplacedBy front h')
    (ends : Option Endpoints) :
    Displaced front.length ⟨h, h.ends?.or ends⟩ ⟨h', h'.ends?.or ends⟩ :=
  ⟨hd.displaced, congrArg (·.or ends) hd.ends?_eq⟩

theorem follows_walk {front : List UInt8} (layers : List Layer) (ends : Option Endpoints)
    {x x' : Except Refusal Header}
    (h : Follows (Refusal.displace front.length) (Header.DisplacedBy front) x x') :
    List.Forall₂ (Follows (Refusal.displace front.length) (Displaced front.length))
      (walk ends x layers) (walk ends x' layers) := by
  induction layers generalizing ends x x' with
  | nil =>
    cases h with
    | found hd => exact .cons (.found (displaced_of_header hd ends)) .nil
    | failed refusal => exact .cons (.failed refusal) .nil
  | cons layer layers ih =>
    cases h with
    | failed refusal => exact .cons (.failed refusal) .nil
    | found hd =>
      rw [walk, walk]
      refine .cons (.found (displaced_of_header hd ends)) ?_
      rw [hd.ends?_eq]
      exact ih _ (hd.next layer)

/-- With octets in front of the frame, a walk meets the same headers, and the same fault if it meets
one, just as many octets further on. -/
theorem walk_is_displaced_with_its_frame (front bytes : List UInt8) (start : Nat) (layer : Layer)
    (layers : List Layer) (ends : Option Endpoints) :
    List.Forall₂ (Follows (Refusal.displace front.length) (Displaced front.length))
      (walk ends (Header.place layer bytes start) layers)
      (walk ends (Header.place layer (front ++ bytes) (front.length + start)) layers) := by
  apply follows_walk
  exact Header.follows_place layer front bytes start

end Sighting

end PacketHeaders

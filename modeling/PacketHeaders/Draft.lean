import PacketHeaders.Draft.Call
import PacketHeaders.Draft.Ethernet
import PacketHeaders.Header

/-!
# Drafts of all layers

One type for a draft of any layer. A draft begun behind another works on the same frame; when it is
done, the outer draft goes on in the frame that it leaves behind.
-/

namespace PacketHeaders

inductive Draft
  | ethernet (draft : Ethernet.Draft)
  | ipv4 (draft : Ipv4.Draft)
  | icmp (draft : Icmp.Draft)
  | udp (draft : Udp.Draft)

/-- What one written call means to a draft of each layer, where it means anything. -/
structure Reading where
  ethernet : Option Ethernet.Edit
  ipv4 : Option Ipv4.Call
  icmp : Option Icmp.Call
  udp : Option Udp.Call
deriving DecidableEq, Repr

namespace Draft

def place (layer : Layer) (bytes : List UInt8) (start : Nat) : Except Refusal Draft :=
  match layer with
  | .ethernet => Refusal.lift ethernet (Ethernet.Draft.place bytes start)
  | .ipv4 => Refusal.lift ipv4 (Ipv4.Draft.place bytes start)
  | .icmp => Refusal.lift icmp (Icmp.Draft.place bytes start)
  | .udp => Refusal.lift udp (Udp.Draft.place bytes start)
  | _ => .error .noSuchStep

/-- The draft of a layer right behind this one. -/
def next : Draft → Layer → Except Refusal Draft
  | ethernet d, .ipv4 => Refusal.lift ipv4 d.ipv4
  | ipv4 d, .icmp => Refusal.lift icmp d.icmp
  | ipv4 d, .udp => Refusal.lift udp d.udp
  | _, _ => .error .noSuchStep

def bytes : Draft → List UInt8
  | ethernet d => d.bytes
  | ipv4 d => d.bytes
  | icmp d => d.bytes
  | udp d => d.bytes

def header : Draft → Header
  | ethernet d => .ethernet d.header
  | ipv4 d => .ipv4 d.header
  | icmp d => .icmp d.header
  | udp d => .udp d.header

def payloadLength? : Draft → Option Nat
  | ethernet _ | ipv4 _ => none
  | icmp d => some d.payloadLength
  | udp d => some d.payloadLength

def call (reading : Reading) : EStateM Refusal Draft Reply
  | ethernet d => answer (fun e => answered (Ethernet.Draft.edit e)) ethernet reading.ethernet d
  | ipv4 d => answer Ipv4.Draft.call ipv4 reading.ipv4 d
  | icmp d => answer Icmp.Draft.call icmp reading.icmp d
  | udp d => answer Udp.Draft.call udp reading.udp d
where
  answer {γ δ : Type} (run : γ → Writing δ Reply) (wrap : δ → Draft) :
      Option γ → δ → EStateM.Result Refusal Draft Reply
    | some c, d => (run c d).recast .fault wrap
    | none, d => .error .noSuchStep (wrap d)

/-- The same draft in the frame that an inner draft leaves behind. A frame of another size is not
the frame of this draft and changes nothing. -/
def resume (d : Draft) (frame : List UInt8) : Draft :=
  match d with
  | ethernet d => ethernet ⟨d.toWindow.adopt frame⟩
  | ipv4 d => ipv4 ⟨d.toWindow.adopt frame⟩
  | icmp d => icmp ⟨d.toMessage.adopt frame⟩
  | udp d => udp ⟨d.toMessage.adopt frame⟩

end Draft

end PacketHeaders

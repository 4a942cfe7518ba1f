import PacketHeaders.Fault
import PacketHeaders.Text.Digit

/-!
# MAC addresses

Six octets, written as six groups of two hexadecimal digits with colons between them. The written
form is in lower case; a reader accepts either case and nothing else.
-/

namespace PacketHeaders

structure MacAddress where
  octets : List UInt8
  length_octets : octets.length = 6
deriving DecidableEq, Repr

namespace MacAddress

/-- The address of every station on the link. -/
def broadcast : MacAddress := ⟨List.replicate 6 0xff, rfl⟩

instance : Inhabited MacAddress := ⟨⟨List.replicate 6 0, rfl⟩⟩

def isBroadcast (address : MacAddress) : Bool := address == broadcast

/-- The first six octets of a string, if it has as many. -/
def ofOctets? (bytes : List UInt8) : Option MacAddress :=
  if h : 6 ≤ bytes.length then some ⟨bytes.take 6, by rw [List.length_take]; omega⟩ else none

def text (address : MacAddress) : String :=
  String.ofList ([':'].intercalate (address.octets.map Hex.ofOctet))

def ofText? (text : String) : Option MacAddress :=
  match (text.toList.splitOn ':').mapM Hex.octet? with
  | some octets => if h : octets.length = 6 then some ⟨octets, h⟩ else none
  | none => none

def ofText (text : String) : Except Fault MacAddress :=
  match ofText? text with
  | some address => .ok address
  | none => .error (.format s!"invalid mac-address \"{text}\"")

end MacAddress

end PacketHeaders

import PacketHeaders.Address.Mac
import PacketHeaders.Assigned.Arp
import PacketHeaders.Assigned.EtherType
import PacketHeaders.Assigned.Icmp
import PacketHeaders.Assigned.IpProtocol
import PacketHeaders.Flags

/-!
# Serialized values

Addresses, flags and assigned names as values of a document format. A value is always written in one
form and read back from it; flags and names may be read from a second one.
-/

namespace PacketHeaders

inductive Document
  | null
  | truth (b : Bool)
  | whole (n : Int)
  /-- A number that is not written as a whole one. -/
  | fraction
  | text (s : String)
  | list (items : List Document)
  | record (fields : List (String × Document))
deriving Inhabited

class Documented (α : Type) where
  write : α → Document
  read? : Document → Option α
  read?_write (value : α) : read? (write value) = some value

namespace Document

def octet? : Document → Option UInt8
  | whole n => if 0 ≤ n ∧ n < 256 then some (.ofNat n.toNat) else none
  | _ => none

theorem mapM_octet? (octets : List UInt8) :
    (octets.map fun b => whole b.toNat).mapM octet? = some octets := by
  have hoctet (b : UInt8) : octet? (whole b.toNat) = some b := by
    have hlt := b.toNat_lt
    rw [octet?, if_pos (by omega), Int.toNat_natCast, UInt8.ofNat_toNat]
  induction octets with
  | nil => rfl
  | cons b octets ih =>
    rw [List.map_cons, List.mapM_cons, hoctet, ih]
    rfl

def truth? : Document → Option Bool
  | truth b => some b
  | _ => none

/-- The values of the named fields of a record, or all the items of a list, in order. -/
def truths? (names : List String) : Document → Option (List Bool)
  | record fields => names.mapM fun name => (fields.lookup name).bind truth?
  | list items => items.mapM truth?
  | _ => none

end Document

open Document

/-- An address is a list of its six octets. -/
instance : Documented MacAddress where
  write address := .list (address.octets.map fun b => .whole b.toNat)
  read?
    | .list items =>
      match items.mapM octet? with
      | some octets => if h : octets.length = 6 then some ⟨octets, h⟩ else none
      | none => none
    | _ => none
  read?_write address := by
    dsimp only
    rw [mapM_octet?]
    exact dif_pos address.length_octets

/-- A name is itself, or a record of one empty field of that name. -/
instance {α : Type} [Named α] : Documented α where
  write value := .text (Named.name value)
  read?
    | .text name => Named.find? α name
    | .record [(name, .null)] => Named.find? α name
    | _ => none
  read?_write := Named.find?_name

instance : Documented Ipv4Flags where
  write flags := .record [
    ("reserved", .truth flags.reserved),
    ("dont_fragment", .truth flags.dontFragment),
    ("more_fragments", .truth flags.moreFragments)]
  read? document :=
    match document.truths? ["reserved", "dont_fragment", "more_fragments"] with
    | some [reserved, dontFragment, moreFragments] =>
      some ⟨reserved, dontFragment, moreFragments⟩
    | _ => none
  read?_write _ := rfl

instance : Documented TcpFlags where
  write flags := .record [
    ("fin", .truth flags.fin),
    ("syn", .truth flags.syn),
    ("rst", .truth flags.rst),
    ("psh", .truth flags.psh),
    ("ack", .truth flags.ack),
    ("urg", .truth flags.urg)]
  read? document :=
    match document.truths? ["fin", "syn", "rst", "psh", "ack", "urg"] with
    | some [fin, syn, rst, psh, ack, urg] => some ⟨fin, syn, rst, psh, ack, urg⟩
    | _ => none
  read?_write _ := rfl

/-- A document is what no more than one value is written as. -/
theorem Documented.eq_of_write_eq {α : Type} [Documented α] {a b : α} (h : write a = write b) :
    a = b := by
  have hread := read?_write a
  rw [h, read?_write b] at hread
  exact (Option.some.inj hread).symm

end PacketHeaders

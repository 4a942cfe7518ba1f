import PacketHeaders.Address.Ipv4
import PacketHeaders.Octets

/-!
# The Internet checksum

The checksum of a string of octets is the complement of the sum of its 16-bit words, with every
carry added back in at the low end; a last odd octet is the high half of a word. The running sum is
a 32-bit register: `toNat_accumulate` says that it holds the exact sum `wordSum` as long as that sum
fits.
-/

namespace PacketHeaders.Checksum

def word (a b : UInt8) : Nat := 256 * a.toNat + b.toNat

/-- The exact sum of the words of a string of octets. -/
def wordSum : List UInt8 → Nat
  | [] => 0
  | [a] => word a 0
  | a :: b :: rest => word a b + wordSum rest

/-- Adds the words of a string of octets to the register, which wraps when the sum no longer fits.
A build with overflow checks panics there instead, and so agrees wherever it comes to an end. -/
def accumulate (sum : UInt32) : List UInt8 → UInt32
  | [] => sum
  | [a] => sum + .ofNat (word a 0)
  | a :: b :: rest => accumulate (sum + .ofNat (word a b)) rest

/-- Adds what is above the low 16 bits to them. -/
def carry (sum : Nat) : Nat := sum % 65536 + sum / 65536

/-- A sum of 32 bits with all its carries added back in: one round leaves at most one carry. -/
def fold (sum : Nat) : Nat := carry (carry sum)

def ofSum (sum : UInt32) : UInt16 := ~~~ UInt16.ofNat (fold sum.toNat)

def internet (bytes : List UInt8) : UInt16 := ofSum (accumulate 0 bytes)

/-- What a transport checksum covers ahead of the segment. The length field has 16 bits and stops at
its largest value. -/
def pseudoHeader (ends : Endpoints) (protocol : UInt8) (length : Nat) : List UInt8 :=
  ends.source.octets ++ ends.destination.octets ++ 0 :: protocol ::
    Octets.ofNat 2 (min length 65535)

def transport (ends : Endpoints) (protocol : UInt8) (segment : List UInt8) : UInt16 :=
  ofSum (accumulate (accumulate 0 (pseudoHeader ends protocol segment.length)) segment)

theorem word_lt (a b : UInt8) : word a b < 65536 := by
  have ha := a.toNat_lt
  have hb := b.toNat_lt
  simp only [word]
  omega

theorem fold_lt {sum : Nat} (h : sum < UInt32.size) : fold sum < 65536 := by
  simp only [UInt32.size] at h
  simp only [fold, carry]
  omega

theorem toNat_add_word {sum : UInt32} {a b : UInt8} (h : sum.toNat + word a b < UInt32.size) :
    (sum + .ofNat (word a b)).toNat = sum.toNat + word a b := by
  have hw := word_lt a b
  simp only [UInt32.size] at h
  rw [UInt32.toNat_add, UInt32.toNat_ofNat']
  omega

theorem toNat_accumulate {bytes : List UInt8} {sum : UInt32}
    (h : sum.toNat + wordSum bytes < UInt32.size) :
    (accumulate sum bytes).toNat = sum.toNat + wordSum bytes := by
  induction bytes using wordSum.induct generalizing sum with
  | case1 => rfl
  | case2 a => exact toNat_add_word h
  | case3 a b rest ih =>
    simp only [wordSum] at h
    have hab : (sum + .ofNat (word a b)).toNat = sum.toNat + word a b :=
      toNat_add_word (by omega)
    rw [accumulate, ih (by omega), hab, wordSum, Nat.add_assoc]

end PacketHeaders.Checksum

/-!
# Octets in digits

The two ways in which addresses spell an octet: two hexadecimal digits, written in lower case and
read in either, and a decimal number without leading zeros. Only ASCII digits count; a sign, a blank
or a digit of another script is no digit.
-/

namespace PacketHeaders

namespace Hex

def digit (n : Nat) : Char := Char.ofNat (if n < 10 then 48 + n else 87 + n)

def value? (c : Char) : Option Nat :=
  if '0' ≤ c ∧ c ≤ '9' then some (c.toNat - 48)
  else if 'a' ≤ c ∧ c ≤ 'f' then some (c.toNat - 87)
  else if 'A' ≤ c ∧ c ≤ 'F' then some (c.toNat - 55)
  else none

def ofOctet (b : UInt8) : List Char := [digit (b.toNat / 16), digit (b.toNat % 16)]

def octet? : List Char → Option UInt8
  | [high, low] => do return UInt8.ofNat (16 * (← value? high) + (← value? low))
  | _ => none

/-- A checksum as it is shown in texts, four digits after the mark of the base. -/
def ofWord (w : UInt16) : String :=
  String.ofList ('0' :: 'x' ::
    (ofOctet (UInt8.ofNat (w.toNat / 256)) ++ ofOctet (UInt8.ofNat w.toNat)))

end Hex

namespace Decimal

def digit (n : Nat) : Char := Char.ofNat (48 + n)

def value? (c : Char) : Option Nat :=
  if '0' ≤ c ∧ c ≤ '9' then some (c.toNat - 48) else none

def ofOctet (b : UInt8) : List Char :=
  let n := b.toNat
  if n < 10 then [digit n]
  else if n < 100 then [digit (n / 10), digit (n % 10)]
  else [digit (n / 100), digit (n / 10 % 10), digit (n % 10)]

/-- One to three digits, no leading zero, at most 255. -/
def octet? (text : List Char) : Option UInt8 :=
  match text.mapM value? with
  | some [a] => some (.ofNat a)
  | some [a, b] => if a ≠ 0 then some (.ofNat (10 * a + b)) else none
  | some [a, b, c] =>
    if a ≠ 0 ∧ 100 * a + 10 * b + c ≤ 255 then some (.ofNat (100 * a + 10 * b + c)) else none
  | _ => none

end Decimal

end PacketHeaders

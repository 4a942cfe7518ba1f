import PacketHeaders.Proofs.EndAroundCarry

/-!
# Segments behind their pseudo-header

A transport checksum adds up two strings in one register, the pseudo-header and then the segment. It
is the checksum of the one string followed by the other, because the first has an even number of
octets. In a register that must not wrap, the sum comes out exactly when the exact sum of the words
fits. Behind a pseudo-header that is so for every segment of up to 131063 octets. The two strings
together may then be longer than a string of which nothing is known, since the protocol is only the
low half of a word. From 131064 octets on there are segments that overflow.
-/

namespace PacketHeaders.Checksum

open Octets

section Register

/-- The register with a number added to it, unless that needs more than its 32 bits. -/
def add? (sum : UInt32) (n : Nat) : Option UInt32 :=
  if sum.toNat + n < UInt32.size then some (sum + .ofNat n) else none

def accumulate? (sum : UInt32) : List UInt8 → Option UInt32
  | [] => some sum
  | [a] => add? sum (word a 0)
  | a :: b :: rest => do accumulate? (← add? sum (word a b)) rest

/-- The checksum of a string of octets, unless a sum overflows on the way. -/
def unwrapped? (bytes : List UInt8) : Option UInt16 := (accumulate? 0 bytes).map ofSum

def unwrappedTransport? (ends : Endpoints) (protocol : UInt8) (segment : List UInt8) :
    Option UInt16 := do
  let sum ← accumulate? 0 (pseudoHeader ends protocol segment.length)
  (accumulate? sum segment).map ofSum

variable {sum : UInt32} {bytes : List UInt8}

theorem add?_of_lt {n : Nat} (h : sum.toNat + n < UInt32.size) :
    add? sum n = some (sum + .ofNat n) := if_pos h

theorem add?_of_le {n : Nat} (h : UInt32.size ≤ sum.toNat + n) : add? sum n = none :=
  if_neg (Nat.not_lt.mpr h)

/-- The sums on the way are no larger than the last one, so none of them is the first to overflow
unless the last one does. -/
theorem accumulate?_of_lt (h : sum.toNat + wordSum bytes < UInt32.size) :
    accumulate? sum bytes = some (accumulate sum bytes) := by
  induction bytes using wordSum.induct generalizing sum with
  | case1 => rfl
  | case2 a => exact add?_of_lt h
  | case3 a b rest ih =>
    simp only [wordSum] at h
    have hab : sum.toNat + word a b < UInt32.size := by omega
    have hrest : (sum + .ofNat (word a b)).toNat + wordSum rest < UInt32.size := by
      rw [toNat_add_word hab]
      omega
    rw [accumulate?, add?_of_lt hab, Option.bind_eq_bind, Option.bind_some, ih hrest, accumulate]

theorem accumulate?_of_le (h : UInt32.size ≤ sum.toNat + wordSum bytes) :
    accumulate? sum bytes = none := by
  induction bytes using wordSum.induct generalizing sum with
  | case1 => exact absurd sum.toNat_lt (Nat.not_lt.mpr h)
  | case2 a => exact add?_of_le h
  | case3 a b rest ih =>
    simp only [wordSum] at h
    rcases Nat.lt_or_ge (sum.toNat + word a b) UInt32.size with hab | hab
    · have hrest : UInt32.size ≤ (sum + .ofNat (word a b)).toNat + wordSum rest := by
        rw [toNat_add_word hab]
        omega
      rw [accumulate?, add?_of_lt hab, Option.bind_eq_bind, Option.bind_some, ih hrest]
    · rw [accumulate?, add?_of_le hab, Option.bind_eq_bind, Option.bind_none]

theorem unwrapped?_of_lt (h : wordSum bytes < UInt32.size) :
    unwrapped? bytes = some (internet bytes) := by
  have hsum : (0 : UInt32).toNat + wordSum bytes < UInt32.size := by
    rwa [UInt32.toNat_zero, Nat.zero_add]
  rw [unwrapped?, accumulate?_of_lt hsum, internet]
  rfl

variable {ends : Endpoints} {protocol : UInt8} {segment : List UInt8}

def transportSum (ends : Endpoints) (protocol : UInt8) (segment : List UInt8) : Nat :=
  wordSum (pseudoHeader ends protocol segment.length) + wordSum segment

theorem wordSum_pseudoHeader_append :
    wordSum (pseudoHeader ends protocol segment.length ++ segment) =
      transportSum ends protocol segment :=
  wordSum_append (by rw [length_pseudoHeader]) segment

theorem toNat_accumulate_pseudoHeader (ends : Endpoints) (protocol : UInt8) (length : Nat) :
    accumulate? 0 (pseudoHeader ends protocol length) =
        some (accumulate 0 (pseudoHeader ends protocol length)) ∧
      (accumulate 0 (pseudoHeader ends protocol length)).toNat =
        wordSum (pseudoHeader ends protocol length) := by
  have hsum : (0 : UInt32).toNat + wordSum (pseudoHeader ends protocol length) < UInt32.size := by
    rw [UInt32.toNat_zero, Nat.zero_add]
    exact wordSum_lt (by rw [length_pseudoHeader]; decide)
  refine ⟨accumulate?_of_lt hsum, (toNat_accumulate hsum).trans ?_⟩
  rw [UInt32.toNat_zero, Nat.zero_add]

theorem unwrappedTransport?_of_lt (h : transportSum ends protocol segment < UInt32.size) :
    unwrappedTransport? ends protocol segment = some (transport ends protocol segment) := by
  obtain ⟨hfront, hsum⟩ := toNat_accumulate_pseudoHeader ends protocol segment.length
  rw [unwrappedTransport?, hfront, Option.bind_eq_bind, Option.bind_some,
    accumulate?_of_lt (hsum ▸ h), transport]
  rfl

theorem unwrappedTransport?_of_le (h : UInt32.size ≤ transportSum ends protocol segment) :
    unwrappedTransport? ends protocol segment = none := by
  obtain ⟨hfront, hsum⟩ := toNat_accumulate_pseudoHeader ends protocol segment.length
  rw [unwrappedTransport?, hfront, Option.bind_eq_bind, Option.bind_some,
    accumulate?_of_le (hsum ▸ h), Option.map_none]

end Register

section Bounds

/-- Four words of addresses, the protocol as the low half of a word, and a length. -/
theorem wordSum_pseudoHeader_le (ends : Endpoints) (protocol : UInt8) (length : Nat) :
    wordSum (pseudoHeader ends protocol length) ≤ 5 * 65535 + 255 := by
  have hsource := wordSum_le ends.source.octets
  have hdestination := wordSum_le ends.destination.octets
  have hlength := wordSum_le (ofNat 2 (min length 65535))
  have hprotocol := protocol.toNat_lt
  rw [ends.source.length_octets] at hsource
  rw [ends.destination.length_octets] at hdestination
  rw [length_ofNat] at hlength
  have hends : (ends.source.octets ++ ends.destination.octets).length % 2 = 0 := by
    rw [List.length_append, ends.source.length_octets, ends.destination.length_octets]
  rw [pseudoHeader, wordSum_append hends, wordSum_append (by rw [ends.source.length_octets]),
    wordSum, word, UInt8.toNat_zero]
  omega

/-- At 131063 octets of ones the register is full. -/
theorem transportSum_lt {segment : List UInt8} (hlen : segment.length ≤ 131063) (ends : Endpoints)
    (protocol : UInt8) : transportSum ends protocol segment < UInt32.size := by
  have hfront := wordSum_pseudoHeader_le ends protocol segment.length
  have hsegment := wordSum_le_words segment
  simp only [transportSum, UInt32.size]
  omega

theorem wordSum_ones (n : Nat) :
    wordSum (List.replicate n 0xff) = 65535 * (n / 2) + 65280 * (n % 2) := by
  induction n using Nat.strongRecOn with
  | _ n ih =>
    match n with
    | 0 | 1 => rfl
    | n + 2 =>
      have hfirst : word 0xff 0xff = 65535 := rfl
      rw [List.replicate_succ, List.replicate_succ, wordSum, ih n (by omega), hfirst]
      omega

def onesEnds : Endpoints := ⟨⟨List.replicate 4 0xff, rfl⟩, ⟨List.replicate 4 0xff, rfl⟩⟩

theorem transportSum_ones {n : Nat} (h : 65535 ≤ n) :
    transportSum onesEnds 0xff (List.replicate n 0xff) =
      5 * 65535 + 255 + (65535 * (n / 2) + 65280 * (n % 2)) := by
  have hfront : wordSum (pseudoHeader onesEnds 0xff n) = 5 * 65535 + 255 := by
    rw [pseudoHeader, Nat.min_eq_right h]
    rfl
  rw [transportSum, List.length_replicate, hfront, wordSum_ones]

end Bounds

theorem pseudoHeader_eq (ends : Endpoints) (protocol : UInt8) (length : Nat) :
    pseudoHeader ends protocol length = ends.source.octets ++ ends.destination.octets ++
      [0, protocol] ++ ofNat 2 (min length 65535) := by
  rw [List.append_assoc _ [0, protocol]]
  rfl

/-- The checksum of a segment behind its pseudo-header is that of the twelve octets of the
pseudo-header followed by the segment. Up to 131063 octets of the segment no sum overflows in
either, and there is no larger number of which that is true. -/
theorem transport_sums_concatenation :
    (∀ (ends : Endpoints) (protocol : UInt8) (segment : List UInt8), segment.length ≤ 131063 →
      let front := ends.source.octets ++ ends.destination.octets ++ [0, protocol] ++
        ofNat 2 (min segment.length 65535)
      front.length = 12 ∧
        transport ends protocol segment = internet (front ++ segment) ∧
        unwrappedTransport? ends protocol segment = some (transport ends protocol segment) ∧
        unwrapped? (front ++ segment) = some (internet (front ++ segment))) ∧
    ∀ length, 131063 < length → ∃ ends protocol segment, segment.length = length ∧
      unwrappedTransport? ends protocol segment = none := by
  constructor
  · intro ends protocol segment hlen front
    have hfront : front = pseudoHeader ends protocol segment.length := (pseudoHeader_eq ..).symm
    have hsum := transportSum_lt hlen ends protocol
    rw [hfront]
    refine ⟨length_pseudoHeader .., transport_eq_internet .., unwrappedTransport?_of_lt hsum,
      unwrapped?_of_lt ?_⟩
    rwa [wordSum_pseudoHeader_append]
  · intro length hlen
    refine ⟨onesEnds, 0xff, List.replicate length 0xff, List.length_replicate, ?_⟩
    apply unwrappedTransport?_of_le
    rw [transportSum_ones (by omega), UInt32.size]
    omega

/-- Ones throughout the longest segment fill the register to its last bit. -/
theorem transport_sums_concatenation_of_all_ones :
    let segment : List UInt8 := List.replicate 131063 0xff
    segment.length ≤ 131063 ∧ 131074 < 12 + segment.length ∧
      transportSum onesEnds 0xff segment = UInt32.size - 1 ∧
      unwrappedTransport? onesEnds 0xff segment = some 0 := by
  intro segment
  have hlen : segment.length = 131063 := List.length_replicate
  have hsum : transportSum onesEnds 0xff segment = UInt32.size - 1 := transportSum_ones (by decide)
  obtain ⟨-, hwhole, hregister, -⟩ :=
    transport_sums_concatenation.1 onesEnds 0xff segment (Nat.le_of_eq hlen)
  have hzero : transport onesEnds 0xff segment = 0 := by
    rw [hwhole, ← pseudoHeader_eq, internet_eq_zero_iff_of_sum, wordSum_pseudoHeader_append, hsum]
    · decide
    · rw [wordSum_pseudoHeader_append, hsum]
      decide
  exact ⟨Nat.le_of_eq hlen, by omega, hsum, hregister.trans (congrArg some hzero)⟩

end PacketHeaders.Checksum

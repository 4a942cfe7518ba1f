import PacketHeaders.Proofs.Guarded.Access
import PacketHeaders.Proofs.NextHeader

/-!
# Guarded readings of IPv4 headers

The header length and the total length are whatever the sender claims, so each range they take part
in is cut first to the frame. The checksum is taken over a scratch area of 60 octets, the longest
header there is.
-/

namespace PacketHeaders.Ipv4.Guarded

section Readings

variable (s : Span)

def fields? : Option Fields := do
  let versionAndLength ← s.number? Layout.versionAndLength
  let typeOfService ← s.number? Layout.typeOfService
  let totalLength ← s.number? Layout.totalLength
  let id ← s.number? Layout.id
  let fragment ← s.number? Layout.fragment
  let ttl ← s.number? Layout.ttl
  let protocol ← s.number? Layout.protocol
  let checksum ← s.number? Layout.checksum
  let source ← s.octets? Layout.source
  let destination ← s.octets? Layout.destination
  return {
    version := .ofNat (versionAndLength / 16)
    lengthInWords := .ofNat (versionAndLength % 16)
    typeOfService := .ofNat typeOfService
    totalLength := .ofNat totalLength
    id := .ofNat id
    flags := .ofBits (.ofNat (fragment / 8192))
    fragmentOffset := .ofNat (fragment % 8192)
    ttl := .ofNat ttl
    protocolNumber := .ofNat protocol
    checksum := .ofNat checksum
    source := ⟨source.val, source.property⟩
    destination := ⟨destination.val, destination.property⟩ }

def headerLength? : Option Nat := do return (← fields? s).headerLength

def headerBytes? : Option (List UInt8) := do
  let length ← headerLength? s
  let tail ← s.tail?
  s.head? (min length tail.length)

def datagramEnd? : Option Nat := do
  let fields ← fields? s
  if fields.totalLength.toNat < fields.headerLength then return s.bytes.length
  else return min (s.start + fields.totalLength.toNat) s.bytes.length

def payload? : Option (List UInt8) := do
  let stop ← datagramEnd? s
  let length ← headerLength? s
  Octets.range? s.bytes (min (s.start + length) stop) stop

def checksumOf? (header : List UInt8) : Option UInt16 := do
  let length := min header.length 60
  let copied ← Octets.range? header 0 length
  let scratch ← Octets.overwrite? (List.replicate 60 0) 0 length copied
  let scratch ← if 12 ≤ length then Octets.overwrite? scratch 10 12 [0, 0] else some scratch
  return Checksum.internet (← Octets.range? scratch 0 length)

def calculateChecksum? : Option UInt16 := do checksumOf? (← headerBytes? s)

def verifyChecksum? : Option Bool := do
  let length ← headerLength? s
  let header ← headerBytes? s
  return 20 ≤ length && header.length == length && Checksum.internet header == 0

/-- The search for the next header, in the frame cut at the end of the datagram. -/
def next? (n : Nat) : Option (Except Fault Span) := do
  let length ← headerLength? s
  if length < 20 then return .error (shortLength length)
  else
    let cut ← s.truncate? (← datagramEnd? s) 20
    return (cut.child length n).map (·.toSpan)

end Readings

structure Readable (h : Header) : Prop where
  fields : fields? h.toSpan = some h.fields
  headerLength : headerLength? h.toSpan = some h.headerLength
  headerBytes : headerBytes? h.toSpan = some h.headerBytes
  datagramEnd : datagramEnd? h.toSpan = some h.datagramEnd
  payload : payload? h.toSpan = some h.payload
  calculateChecksum : calculateChecksum? h.toSpan = some h.calculateChecksum
  verifyChecksum : verifyChecksum? h.toSpan = some h.verifyChecksum
  text : (fields? h.toSpan).map (·.listing.text) = some h.listing.text
  next : ∀ n, next? h.toSpan n = some ((h.next n).map (·.toSpan))

theorem fields?_eq (h : Header) : fields? h.toSpan = some h.fields := by
  simp only [fields?, Window.octets?_eq, Window.number?_eq, Option.bind_eq_bind, Option.bind_some]
  rfl

theorem headerLength?_eq (h : Header) : headerLength? h.toSpan = some h.headerLength := by
  rw [headerLength?, fields?_eq]
  rfl

theorem headerBytes?_eq (h : Header) : headerBytes? h.toSpan = some h.headerBytes := by
  rw [headerBytes?, headerLength?_eq, h.tail?_eq]
  simp only [Option.bind_eq_bind, Option.bind_some]
  rw [h.head?_eq_take (Nat.min_le_right ..), ← List.take_eq_take_min]
  rfl

theorem datagramEnd?_eq (h : Header) : datagramEnd? h.toSpan = some h.datagramEnd := by
  rw [datagramEnd?, fields?_eq]
  simp only [Option.bind_eq_bind, Option.bind_some, Option.pure_def, ← apply_ite some]
  rfl

theorem payload?_eq (h : Header) : payload? h.toSpan = some h.payload := by
  have hend := h.datagramEnd_le
  rw [payload?, datagramEnd?_eq, headerLength?_eq]
  simp only [Option.bind_eq_bind, Option.bind_some]
  rw [Octets.range?_of_le (Nat.min_le_right ..) hend, Header.payload, Header.payloadStart]
  rcases Nat.le_total (h.start + h.headerLength) h.datagramEnd with hle | hle
  · rw [Nat.min_eq_left hle]
  · have hlen : (h.bytes.take h.datagramEnd).length ≤ h.datagramEnd := List.length_take_le ..
    rw [Nat.min_eq_right hle, List.drop_eq_nil_of_le hlen,
      List.drop_eq_nil_of_le (Nat.le_trans hlen hle)]

/-- A header shorter than it claims is cut by the frame, which holds at least 20 octets of it. -/
theorem length_headerBytes (h : Header) :
    h.headerBytes.length = h.headerLength ∨
      20 ≤ h.headerBytes.length ∧ h.headerBytes.length < h.headerLength := by
  have htail : 20 ≤ h.tail.length := h.le_length_tail
  simp only [Header.headerBytes, List.length_take]
  omega

/-- A scratch area that the header was copied into holds the header at its front. -/
theorem take_scratch {header : List UInt8} (h : header.length ≤ 60) :
    (Octets.splice (List.replicate 60 0) 0 header).take header.length = header := by
  apply List.ext_getElem?
  intro i
  rw [List.getElem?_take, Octets.getElem?_splice, List.length_replicate]
  by_cases hi : i < header.length
  · rw [if_pos hi, if_pos ⟨by omega, Nat.zero_le i, by omega⟩, Nat.sub_zero]
  · rw [if_neg hi, List.getElem?_eq_none (by omega)]

/-- Below 12 octets nothing is blanked; with 11 of them a blank would still reach into the header. -/
theorem checksumOf?_eq {header : List UInt8} (hle : header.length ≤ 60) (hne : header.length ≠ 11) :
    checksumOf? header = some (checksumOf header) := by
  have hroom : 0 + header.length ≤ (List.replicate 60 (0 : UInt8)).length := by
    rw [List.length_replicate]
    omega
  have hcopy := Octets.overwrite?_of_le hroom
  have hfront := take_scratch hle
  have hlen : (Octets.splice (List.replicate 60 0) 0 header).length = 60 :=
    (Octets.length_splice ..).trans List.length_replicate
  rw [checksumOf?, Nat.min_eq_left hle, Octets.range?_zero (Nat.le_refl _), List.take_length,
    Option.bind_eq_bind, Option.bind_some, ← Nat.zero_add header.length, hcopy, Nat.zero_add]
  generalize Octets.splice (List.replicate 60 0) 0 header = scratch at hfront hlen
  simp only [Option.bind_some]
  by_cases hlong : 12 ≤ header.length
  · have hblank : 10 + 2 ≤ scratch.length := by omega
    rw [if_pos hlong, Octets.overwrite?_zeros hblank, Option.bind_some,
      Octets.range?_zero (by rw [Octets.length_splice]; omega), Octets.take_splice, hfront]
    rfl
  · have hshort : header.length ≤ 10 := by omega
    rw [if_neg hlong, Octets.range?_zero (by omega), hfront]
    exact congrArg (some ∘ Checksum.internet) (Octets.splice_of_length_le hshort).symm

theorem calculateChecksum?_eq (h : Header) :
    calculateChecksum? h.toSpan = some h.calculateChecksum := by
  have hlen := length_headerBytes h
  have hle := h.headerLength_le
  rw [calculateChecksum?, headerBytes?_eq]
  refine checksumOf?_eq (by omega) ?_
  rcases hlen with heq | hlt
  · rw [heq, Header.headerLength]
    omega
  · omega

theorem next?_eq (h : Header) (n : Nat) :
    next? h.toSpan n = some ((h.next n).map (·.toSpan)) := by
  rw [next?, headerLength?_eq, datagramEnd?_eq]
  simp only [Option.bind_eq_bind, Option.bind_some, Span.truncate?_eq, Option.pure_def,
    ← apply_ite some, Header.next]
  split <;> rfl

theorem readable (h : Header) : Readable h where
  fields := fields?_eq h
  headerLength := headerLength?_eq h
  headerBytes := headerBytes?_eq h
  datagramEnd := datagramEnd?_eq h
  payload := payload?_eq h
  calculateChecksum := calculateChecksum?_eq h
  verifyChecksum := by rw [verifyChecksum?, headerLength?_eq, headerBytes?_eq]; rfl
  text := by rw [fields?_eq]; rfl
  next := next?_eq h

end PacketHeaders.Ipv4.Guarded

import PacketHeaders.Dissection
import PacketHeaders.Proofs.NextHeader

/-!
# What a dissection finds

`forecast` says from the length and a handful of octets of a frame where its headers lie, or which
fault keeps them from being found. The outline of a dissection, which is all of it that a header
depends on, is exactly the forecast.
-/

namespace PacketHeaders

open Octets

inductive NetworkOutline
  | arp (place : Span)
  | ipv4 (place : Span)
  | unknown (etherType : UInt16)
deriving DecidableEq, Repr

inductive TransportOutline
  | icmp (place : Span)
  | udp (place : Span)
  | tcp (place : Span)
  | unknown (protocol : UInt8)
  | absent
deriving DecidableEq, Repr

/-- The places of the headers of a frame. -/
structure Outline where
  ethernet : Span
  network : NetworkOutline
  transport : TransportOutline
deriving DecidableEq, Repr

def Network.outline : Network → NetworkOutline
  | arp h => .arp h.toSpan
  | ipv4 h => .ipv4 h.toSpan
  | unknown etherType => .unknown etherType

def Transport.outline : Transport → TransportOutline
  | icmp h => .icmp h.toSpan
  | udp h => .udp h.toSpan
  | tcp h => .tcp h.toSpan
  | unknown protocol => .unknown protocol
  | absent => .absent

def Dissection.outline (d : Dissection) : Outline where
  ethernet := d.ethernet.toSpan
  network := d.network.outline
  transport := d.transport.outline

theorem Network.outline_inj {m n : Network} : m.outline = n.outline ↔ m = n := by
  constructor
  · intro h
    rcases m with ⟨⟨_, _⟩⟩ | ⟨⟨_, _⟩⟩ | _ <;> rcases n with ⟨⟨_, _⟩⟩ | ⟨⟨_, _⟩⟩ | _ <;>
      cases h <;> rfl
  · rintro rfl
    rfl

theorem Transport.outline_inj {t u : Transport} : t.outline = u.outline ↔ t = u := by
  constructor
  · intro h
    rcases t with ⟨⟨_, _⟩⟩ | ⟨⟨_, _⟩⟩ | ⟨⟨_, _⟩⟩ | _ | _ <;>
      rcases u with ⟨⟨_, _⟩⟩ | ⟨⟨_, _⟩⟩ | ⟨⟨_, _⟩⟩ | _ | _ <;> cases h <;> rfl
  · rintro rfl
    rfl

/-- Nothing of a dissection is lost in its outline. -/
theorem Dissection.outline_inj {c d : Dissection} : c.outline = d.outline ↔ c = d := by
  constructor
  · intro h
    obtain ⟨⟨⟨_, _⟩⟩, m, t⟩ := c
    obtain ⟨⟨⟨_, _⟩⟩, n, u⟩ := d
    obtain ⟨hs, hn, ht⟩ := Outline.mk.inj h
    obtain rfl : m = n := Network.outline_inj.mp hn
    obtain rfl : t = u := Transport.outline_inj.mp ht
    cases hs
    rfl
  · rintro rfl
    rfl

/-- The place of `n` octets behind the IPv4 header of a frame. -/
def forecastSegment (bytes : List UInt8) (n : Nat) : Except Fault Span :=
  let length := 4 * (octetAt bytes 14 % 16)
  let total := wordAt bytes 16
  let stop := if total < length then bytes.length else min (14 + total) bytes.length
  if octetAt bytes 14 % 16 < 5 then .error (.headerLength "IP" length)
  else if stop < 14 + length + n then .error (.bounds (14 + length) n (stop - (14 + length)))
  else .ok ⟨bytes.take stop, 14 + length⟩

def forecastTransport (bytes : List UInt8) : Except Fault TransportOutline :=
  if octetAt bytes 23 = 1 then (forecastSegment bytes 8).map .icmp
  else if octetAt bytes 23 = 17 then (forecastSegment bytes 8).map .udp
  else if octetAt bytes 23 = 6 then (forecastSegment bytes 20).map .tcp
  else .ok (.unknown (.ofNat (octetAt bytes 23)))

def forecast (bytes : List UInt8) : Except Fault Outline :=
  if bytes.length < 14 then .error (.bounds 0 14 bytes.length)
  else if wordAt bytes 12 = 0x0806 ∨ wordAt bytes 12 = 0x8035 then
    if 42 ≤ bytes.length then .ok ⟨⟨bytes, 0⟩, .arp ⟨bytes, 14⟩, .absent⟩
    else .error (.bounds 14 28 (bytes.length - 14))
  else if wordAt bytes 12 = 0x0800 then
    if bytes.length < 34 then .error (.bounds 14 20 (bytes.length - 14))
    else (forecastTransport bytes).map fun t => ⟨⟨bytes, 0⟩, .ipv4 ⟨bytes, 14⟩, t⟩
  else .ok ⟨⟨bytes, 0⟩, .unknown (.ofNat (wordAt bytes 12)), .absent⟩

theorem EtherType.ofNumber_eq (n : UInt16) :
    ofNumber n = if n.toNat = 0x0800 then ipv4 else if n.toNat = 0x0806 then arp
      else if n.toNat = 0x8035 then rarp else undefined := by
  have hne {m : UInt16} (h : ¬n = m) : n.toNat ≠ m.toNat := fun e => h (UInt16.toNat_inj.mp e)
  unfold ofNumber
  split
  · rfl
  · rfl
  · rfl
  · rename_i hipv4 harp hrarp
    exact (if_neg (hne hipv4)).trans ((if_neg (hne harp)).trans (if_neg (hne hrarp))) |>.symm

theorem IpProtocol.ofNumber_eq (n : UInt8) :
    ofNumber n = if n.toNat = 1 then icmp else if n.toNat = 17 then udp
      else if n.toNat = 6 then tcp else undefined := by
  have hne {m : UInt8} (h : ¬n = m) : n.toNat ≠ m.toNat := fun e => h (UInt8.toNat_inj.mp e)
  unfold ofNumber
  split
  · rfl
  · rfl
  · rfl
  · rename_i htcp hudp hicmp
    exact (if_neg (hne hicmp)).trans ((if_neg (hne hudp)).trans (if_neg (hne htcp))) |>.symm

/-- The IPv4 header right behind the Ethernet header of a frame. -/
def Ipv4.Header.first {bytes : List UInt8} (h : 34 ≤ bytes.length) : Ipv4.Header :=
  ⟨⟨⟨bytes, 14⟩, h⟩⟩

section Ipv4

variable {bytes : List UInt8} (hlen : 34 ≤ bytes.length)

theorem headerLength_first :
    (Ipv4.Header.first hlen).headerLength = 4 * (octetAt bytes 14 % 16) := by
  have hoctet : (Ipv4.Header.first hlen).number Ipv4.Layout.versionAndLength = octetAt bytes 14 :=
    Window.number_eq_octetAt _ _ rfl
  rw [Ipv4.Header.headerLength, Ipv4.Header.lengthInWords, hoctet, UInt8.toNat_ofNat']
  omega

theorem datagramEnd_first :
    (Ipv4.Header.first hlen).datagramEnd =
      if wordAt bytes 16 < 4 * (octetAt bytes 14 % 16) then bytes.length
      else min (14 + wordAt bytes 16) bytes.length := by
  have htotal : (Ipv4.Header.first hlen).totalLength.toNat = wordAt bytes 16 :=
    Window.toNat_number16 _ _ rfl
  rw [Ipv4.Header.datagramEnd, headerLength_first, htotal]
  rfl

theorem next_first (n : Nat) :
    ((Ipv4.Header.first hlen).next n).map (·.toSpan) = forecastSegment bytes n := by
  rw [Ipv4.Header.next_map_toSpan, Ipv4.Header.payloadStart, headerLength_first,
    datagramEnd_first, forecastSegment]
  have hshort : 4 * (octetAt bytes 14 % 16) < 20 ↔ octetAt bytes 14 % 16 < 5 := by omega
  simp only [hshort, ← Nat.not_lt, ite_not]
  rfl

theorem transport_first :
    (Transport.ofIpv4 (Ipv4.Header.first hlen)).map Transport.outline = forecastTransport bytes := by
  have hprotocol : (Ipv4.Header.first hlen).protocolNumber.toNat = octetAt bytes 23 :=
    Window.toNat_number8 _ _ rfl
  have hnumber : (Ipv4.Header.first hlen).protocolNumber = .ofNat (octetAt bytes 23) := by
    rw [← hprotocol, UInt8.ofNat_toNat]
  rw [Transport.ofIpv4, Ipv4.Header.protocol, IpProtocol.ofNumber_eq, hprotocol, hnumber,
    forecastTransport, ← next_first hlen, ← next_first hlen]
  by_cases hicmp : octetAt bytes 23 = 1
  · rw [if_pos hicmp, if_pos hicmp, Ipv4.Header.icmp]
    cases (Ipv4.Header.first hlen).next 8 <;> rfl
  · rw [if_neg hicmp, if_neg hicmp]
    by_cases hudp : octetAt bytes 23 = 17
    · rw [if_pos hudp, if_pos hudp, Ipv4.Header.udp]
      cases (Ipv4.Header.first hlen).next 8 <;> rfl
    · rw [if_neg hudp, if_neg hudp]
      by_cases htcp : octetAt bytes 23 = 6
      · rw [if_pos htcp, if_pos htcp, Ipv4.Header.tcp]
        cases (Ipv4.Header.first hlen).next 20 <;> rfl
      · rw [if_neg htcp, if_neg htcp]
        rfl

end Ipv4

/-- The walk behind an Ethernet header, once the network header is known. -/
theorem map_outline_bind (e : Ethernet.Header) (x : Except Fault Network) :
    (x >>= fun n => Transport.ofNetwork n >>= fun t => pure ⟨e, n, t⟩ :
      Except Fault Dissection).map Dissection.outline =
    x >>= fun n => ((Transport.ofNetwork n).map Transport.outline).map
      fun t => ⟨e.toSpan, n.outline, t⟩ := by
  cases x with
  | error fault => rfl
  | ok n =>
    change (Transport.ofNetwork n >>= _).map _ = ((Transport.ofNetwork n).map _).map _
    cases Transport.ofNetwork n <;> rfl

/-- A dissection finds what the forecast says, and meets the fault that it says. -/
theorem dissect_map_outline (bytes : List UInt8) :
    (dissect bytes).map Dissection.outline = forecast bytes := by
  by_cases hlen : bytes.length < 14
  · rw [forecast, if_pos hlen, dissect, Ethernet.Header.place, Window.place_of_lt (by omega)]
    rfl
  have hroom : 0 + 14 ≤ bytes.length := by omega
  let e : Ethernet.Header := ⟨⟨⟨bytes, 0⟩, hroom⟩⟩
  have htype : e.etherType.toNat = wordAt bytes 12 := Window.toNat_number16 _ _ rfl
  have hnumber : e.etherType = .ofNat (wordAt bytes 12) := by rw [← htype, UInt16.ofNat_toNat]
  have hdissect : (dissect bytes).map Dissection.outline = Network.ofEthernet e >>= fun n =>
      ((Transport.ofNetwork n).map Transport.outline).map fun t => ⟨⟨bytes, 0⟩, n.outline, t⟩ := by
    rw [dissect, Ethernet.Header.place, Window.place_of_le hroom]
    exact map_outline_bind e (Network.ofEthernet e)
  have harp : e.arp = (Window.place bytes 14 28).map .mk := rfl
  have hipv4 : e.ipv4 = (Window.place bytes 14 20).map .mk := rfl
  rw [hdissect, forecast, if_neg hlen, Network.ofEthernet, Ethernet.Header.protocol,
    EtherType.ofNumber_eq, htype, hnumber, harp, hipv4]
  by_cases h₁ : wordAt bytes 12 = 0x0800
  · rw [if_pos h₁, if_neg (show ¬(wordAt bytes 12 = 0x0806 ∨ wordAt bytes 12 = 0x8035) by omega),
      if_pos h₁]
    by_cases hroom : bytes.length < 34
    · rw [if_pos hroom, Window.place_of_lt (show bytes.length < 14 + 20 from hroom)]
      rfl
    · have hfits : 34 ≤ bytes.length := Nat.le_of_not_lt hroom
      rw [if_neg hroom, Window.place_of_le (show 14 + 20 ≤ bytes.length from hfits),
        ← transport_first hfits]
      rfl
  · rw [if_neg h₁]
    by_cases h₂ : wordAt bytes 12 = 0x0806 ∨ wordAt bytes 12 = 0x8035
    · rw [if_pos h₂]
      by_cases hroom : 42 ≤ bytes.length
      · rw [if_pos hroom, Window.place_of_le (show 14 + 28 ≤ bytes.length from hroom)]
        rcases h₂ with h₂ | h₂ <;> rw [h₂] <;> rfl
      · rw [if_neg hroom, Window.place_of_lt (show bytes.length < 14 + 28 by omega)]
        rcases h₂ with h₂ | h₂ <;> rw [h₂] <;> rfl
    · rw [if_neg h₂, if_neg h₁, if_neg fun h => h₂ (.inl h), if_neg fun h => h₂ (.inr h)]
      rfl

end PacketHeaders

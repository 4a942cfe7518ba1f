import PacketHeaders.Proofs.Building.Script
import PacketHeaders.Proofs.Nesting.Headers
import PacketHeaders.Proofs.Refusals.Scripts

/-!
# Layers keep to themselves

The open drafts of a session share one frame. At every moment of every script each draft begins where
the header of the one outside it ends, as that header stood when the draft was begun, and the header
is still as it stood. A step writes at most where the innermost draft may: an Ethernet or IPv4 draft
in the fixed octets of its header, a message from its start on. So the headers outside keep their
fields, their options and their checksums, and a step of an IPv4 draft keeps its options and the
message behind them.
-/

namespace PacketHeaders

open Octets

inductive Draft.Nested : List Draft → Prop
  | none : Nested []
  | outermost (d : Draft) : Nested [d]
  | inside {d outer : Draft} {rest : List Draft} (start_eq : d.start = outer.payloadStart)
      (encloses : outer.Encloses d) (nested : Nested (outer :: rest)) : Nested (d :: outer :: rest)

namespace Draft.Nested

variable {d d' outer : Draft} {rest : List Draft}

/-- Every draft outside encloses the innermost one, not only the next. -/
theorem encloses_of_mem (h : Nested (d :: rest)) : ∀ o ∈ rest, o.Encloses d := by
  induction rest generalizing d with
  | nil =>
    intro o ho
    cases ho
  | cons outer rest ih =>
    cases h with
    | inside hstart hencloses hnested =>
      intro o ho
      rcases List.mem_cons.mp ho with rfl | ho
      · exact hencloses
      · exact (ih hnested o ho).trans hencloses

theorem replace (h : Nested (d :: rest)) {stop : Nat} (hstart : d'.start = d.start)
    (hchanged : ChangedWithin d.start stop d.bytes d'.bytes) : Nested (d' :: rest) := by
  cases h with
  | outermost => exact .outermost d'
  | inside hplace hencloses hnested =>
    refine .inside (hstart.trans hplace) ?_ hnested
    exact hencloses.of_changed (Nat.le_refl _) (Nat.le_of_eq hstart.symm) hchanged

theorem next (h : Nested (d :: rest)) {layer : Layer} (hn : d.next layer = .ok d') :
    Nested (d' :: d :: rest) :=
  .inside (Draft.of_next hn).2.1 (Draft.encloses_next hn) h

theorem resume (h : Nested (d :: outer :: rest)) : Nested (outer.resume d.bytes :: rest) := by
  cases h with
  | inside _ hencloses hnested =>
    have hchanged : ChangedWithin outer.start outer.bytes.length outer.bytes
        (outer.resume d.bytes).bytes := by
      rw [Draft.bytes_resume hencloses.length_eq]
      exact hencloses.changed.mono outer.start_le_payloadStart (Nat.le_refl _)
    exact hnested.replace (outer.start_resume _) hchanged

end Draft.Nested

namespace Session

/-- The frame as it is now, whoever has it. -/
def octets (s : Session) : List UInt8 :=
  match s.drafts with
  | [] => s.frame
  | d :: _ => d.bytes

/-- What a step can make of the frame and the open drafts. -/
inductive Shifts (s s' : Session) : Prop
  | kept (frame_eq : s'.frame = s.frame) (now : s'.drafts = s.drafts)
  | poked (root : s.drafts = []) (now : s'.drafts = [])
  | begun {layer : Layer} {start : Nat} {d : Draft} (root : s.drafts = [])
      (placed : Draft.place layer s.frame start = .ok d) (now : s'.drafts = [d])
  | entered {layer : Layer} {d d' : Draft} {outer : List Draft} (before : s.drafts = d :: outer)
      (next : d.next layer = .ok d') (now : s'.drafts = d' :: d :: outer)
  | called {reading : Reading} {reply : Reply} {d d' : Draft} {outer : List Draft}
      (before : s.drafts = d :: outer) (call : d.call reading = .ok reply d')
      (now : s'.drafts = d' :: outer)
  | resumed {d outer : Draft} {rest : List Draft} (before : s.drafts = d :: outer :: rest)
      (now : s'.drafts = outer.resume d.bytes :: rest)
  | closed {d : Draft} (before : s.drafts = [d]) (frame_eq : s'.frame = d.bytes)
      (now : s'.drafts = [])

theorem shifts_goInside {s : Session} {t : Step} {draft : Except Refusal Draft}
    (h : s.beginning? t = some draft) : s.Shifts (s.goInside draft).1 := by
  cases draft with
  | error refusal => exact .kept rfl rfl
  | ok d =>
    obtain ⟨frame, drafts, skipping⟩ := s
    cases t with
    | begin layer start =>
      cases drafts with
      | nil => exact .begun rfl (Option.some.inj h) rfl
      | cons d outer => cases Option.some.inj h
    | enter layer =>
      cases drafts with
      | nil => cases Option.some.inj h
      | cons d outer => exact .entered rfl (Option.some.inj h) rfl
    | _ => cases h

theorem shifts_close (s : Session) : s.Shifts s.close.1 := by
  obtain ⟨frame, drafts, skipping⟩ := s
  match drafts with
  | [] => exact .kept rfl rfl
  | [d] => exact .closed rfl rfl rfl
  | d :: outer :: rest => exact .resumed rfl rfl

theorem shifts_atRoot {s : Session} (hs : s.drafts = []) (t : Step) : s.Shifts (s.atRoot t).1 := by
  unfold atRoot
  split
  · exact .poked hs hs
  all_goals exact .kept rfl rfl

theorem shifts_atDraft {s : Session} {d : Draft} {outer : List Draft} (hs : s.drafts = d :: outer)
    (t : Step) : s.Shifts (s.atDraft d outer t).1 := by
  unfold atDraft
  split
  · exact .kept rfl rfl
  · exact .kept rfl rfl
  · next reading =>
    cases hcall : d.call reading with
    | error refusal d' =>
      obtain rfl := Draft.call_checksFirst reading hcall
      exact .kept rfl hs.symm
    | ok reply d' => exact .called hs hcall rfl
  · exact .kept rfl rfl

theorem shifts_skip (s : Session) (t : Step) : s.Shifts (s.skip t) := by
  cases t with
  | begin | enter | close | poke | frame | dissect | walk | header | call => exact .kept rfl rfl

theorem shifts_step (s : Session) (t : Step) : s.Shifts (s.step t).1 := by
  unfold step
  split
  · exact s.shifts_skip t
  · split
    · next hbegin => exact shifts_goInside hbegin
    · split
      · exact s.shifts_close
      · next hs _ => exact shifts_atRoot hs _
      · next hs _ => exact shifts_atDraft hs _

variable {s s' : Session}

theorem octets_of_drafts {d : Draft} {outer : List Draft} (h : s.drafts = d :: outer) :
    s.octets = d.bytes := by
  rw [octets, h]

theorem nested_of_shifts (h : s.Shifts s') (hn : Draft.Nested s.drafts) :
    Draft.Nested s'.drafts := by
  cases h with
  | kept _ hnow => exact hnow ▸ hn
  | poked _ hnow | closed _ _ hnow => exact hnow ▸ .none
  | begun _ _ hnow => exact hnow ▸ .outermost _
  | entered hs hnext hnow =>
    rw [hs] at hn
    exact hnow ▸ hn.next hnext
  | called hs hcall hnow =>
    rw [hs] at hn
    have hconfined := Draft.confined_call hcall
    exact hnow ▸ hn.replace hconfined.start_eq hconfined.changed
  | resumed hs hnow =>
    rw [hs] at hn
    exact hnow ▸ hn.resume

theorem nested_after (frame : List UInt8) (steps : List Step) :
    Draft.Nested ((start frame).after steps).drafts := by
  have hrun (s : Session) (hs : Draft.Nested s.drafts) : Draft.Nested (s.after steps).drafts := by
    induction steps generalizing s with
    | nil => exact hs
    | cons t ts ih => exact ih _ (nested_of_shifts (s.shifts_step t) hs)
  exact hrun _ .none

theorem changed_of_shifts (h : s.Shifts s') {d : Draft} {outer : List Draft}
    (hs : s.drafts = d :: outer) (hn : Draft.Nested s.drafts) :
    ChangedWithin d.start d.reach d.bytes s'.octets := by
  cases h with
  | kept _ hnow =>
    rw [octets_of_drafts (hnow.trans hs)]
    exact .refl ..
  | poked hroot | begun hroot =>
    rw [hroot] at hs
    cases hs
  | entered hs' hnext hnow =>
    cases hs'.symm.trans hs
    rw [octets_of_drafts hnow, (Draft.of_next hnext).2.2]
    exact .refl ..
  | called hs' hcall hnow =>
    cases hs'.symm.trans hs
    rw [octets_of_drafts hnow]
    exact (Draft.confined_call hcall).changed
  | resumed hs' hnow =>
    cases hs'.symm.trans hs
    rw [hs'] at hn
    have hlength := (hn.encloses_of_mem _ List.mem_cons_self).length_eq
    rw [octets_of_drafts hnow, Draft.bytes_resume hlength]
    exact .refl ..
  | closed hs' hframe hnow =>
    cases hs'.symm.trans hs
    rw [octets, hnow, hframe]
    exact .refl ..

/-- The frame that a step at the draft `d` leaves, where the drafts `outer` are open outside it. -/
structure Isolates (d : Draft) (outer : List Draft) (frame : List UInt8) : Prop where
  changed : ChangedWithin d.start d.reach d.bytes frame
  outer_same : ∀ o ∈ outer, (o.resume d.bytes).SameHeader (o.resume frame)
  behind_same : ∀ ip, d = .ipv4 ip → ∀ words, 5 ≤ words →
    frame.drop (ip.start + 4 * words) = ip.bytes.drop (ip.start + 4 * words)

theorem isolates_of_nested {d : Draft} {outer : List Draft} (hn : Draft.Nested (d :: outer))
    {frame : List UInt8} (hchanged : ChangedWithin d.start d.reach d.bytes frame) :
    Isolates d outer frame := by
  refine ⟨hchanged, ?_, ?_⟩
  · intro o ho
    have hencloses := hn.encloses_of_mem o ho
    have hbehind := hencloses.changed_behind (Nat.le_refl _) hchanged
    exact hencloses.sameHeader.symm.trans (Draft.sameHeader_resume hencloses.opens hbehind)
  · rintro ip rfl words hwords
    refine hchanged.drop_eq ?_
    change ip.start + 20 ≤ _
    omega

/-- Wherever a script has led to, the open drafts are nested, and the headers outside the innermost
draft are as they were when the next draft was begun behind them. Whatever the next step is, it
keeps within its layer, and a draft that it begins starts behind the header of the one outside. -/
theorem layers_keep_to_themselves (frame : List UInt8) (steps : List Step) (t : Step) :
    let s := (start frame).after steps
    Draft.Nested s.drafts ∧ ∀ d outer, s.drafts = d :: outer →
      (∀ o ∈ outer, o.SameHeader (o.resume d.bytes)) ∧
      Isolates d outer (s.step t).1.octets ∧
      ∀ layer d', d.next layer = .ok d' → d.Opens ∧ d'.start = d.payloadStart := by
  intro s
  have hn : Draft.Nested s.drafts := nested_after frame steps
  refine ⟨hn, fun d outer hs => ?_⟩
  have hchanged := changed_of_shifts (s.shifts_step t) hs hn
  rw [hs] at hn
  refine ⟨fun o ho => (hn.encloses_of_mem o ho).sameHeader, isolates_of_nested hn hchanged, ?_⟩
  intro layer d' hnext
  obtain ⟨hopens, hstart, -⟩ := Draft.of_next hnext
  exact ⟨hopens, hstart⟩

/-- A datagram behind an IPv4 header with options begins behind the options, and writing its length
leaves both outer headers alone. -/
theorem layers_keep_to_themselves_behind_options :
    let s := (start (List.replicate 60 0xaa)).after
      [.begin .ethernet 0, .enter .ipv4, .ipv4 (.edit .defaults), .ipv4 (.edit (.headerLength 24)),
       .enter .udp, .udp (.edit (.payload [1, 2, 3]))]
    ∃ u ip e, s.drafts = [.udp u, .ipv4 ip, .ethernet e] ∧ u.start = 38 ∧
      Isolates (.udp u) [.ipv4 ip, .ethernet e] (s.step (.udp (.edit (.length 11)))).1.octets := by
  intro s
  obtain ⟨-, hall⟩ := layers_keep_to_themselves (List.replicate 60 0xaa)
    [.begin .ethernet 0, .enter .ipv4, .ipv4 (.edit .defaults), .ipv4 (.edit (.headerLength 24)),
     .enter .udp, .udp (.edit (.payload [1, 2, 3]))] (.udp (.edit (.length 11)))
  exact ⟨_, _, _, rfl, rfl, (hall _ _ rfl).2.1⟩

end Session

end PacketHeaders

import PacketHeaders.Proofs.Nesting.Headers
import PacketHeaders.Proofs.Refusals.Scripts

/-!
# Balanced scripts

In a balanced script each step that begins a draft has its own closing step. Run at a draft, such a
script comes back to that draft: what was begun behind it was closed again, or was passed over as a
whole because it could not be begun. So whatever calls respect, and returns from drafts behind,
balanced scripts respect.
-/

namespace PacketHeaders

namespace Step

def Begins : Step → Prop
  | begin _ _ | enter _ => True
  | _ => False

/-- The step begins no draft and closes none. -/
def Stays : Step → Prop
  | begin _ _ | enter _ | close => False
  | _ => True

end Step

/-- A draft is begun, is the scene of some steps and is closed. -/
def excursion (opening : Step) (inside : List Step) : List Step := opening :: (inside ++ [.close])

inductive Balanced : List Step → Prop
  | nil : Balanced []
  | stay {t : Step} (stays : t.Stays) : Balanced [t]
  | excursion {opening : Step} {inside : List Step} (begins : opening.Begins)
      (balanced : Balanced inside) : Balanced (excursion opening inside)
  | append {first second : List Step} (left : Balanced first) (right : Balanced second) :
      Balanced (first ++ second)

theorem Balanced.cons {t : Step} {steps : List Step} (stays : t.Stays) (h : Balanced steps) :
    Balanced (t :: steps) :=
  (Balanced.stay stays).append h

namespace Draft

/-- The same place in a frame that was changed from there on only. -/
structure Advanced (d d' : Draft) : Prop where
  start_eq : d'.start = d.start
  changed : Octets.ChangedWithin d.start d.bytes.length d.bytes d'.bytes

/-- A relation that holds between a draft and what calls to it, and drafts behind it, leave. -/
structure Respected (R : Draft → Draft → Prop) : Prop where
  refl (d : Draft) : R d d
  trans {d d' d'' : Draft} : R d d' → R d' d'' → R d d''
  call {d d' : Draft} {reading : Reading} {reply : Reply} :
    d.call reading = .ok reply d' → R d d'
  resume {d inner : Draft} : d.Encloses inner → R d (d.resume inner.bytes)

theorem respected_advanced : Respected Advanced where
  refl d := ⟨rfl, .refl ..⟩
  trans h h' := by
    refine ⟨h'.start_eq.trans h.start_eq, h.changed.trans ?_⟩
    rw [← h.start_eq, ← h.changed.length_eq]
    exact h'.changed
  call h := by
    have hconfined := confined_call h
    exact ⟨hconfined.start_eq, hconfined.changed.upTo_length⟩
  resume {d inner} h := by
    refine ⟨d.start_resume _, ?_⟩
    rw [bytes_resume h.length_eq]
    exact h.changed.mono d.start_le_payloadStart (Nat.le_refl _)

theorem Encloses.of_advanced {outer inner inner' : Draft} (h : outer.Encloses inner)
    (ha : inner.Advanced inner') : outer.Encloses inner' :=
  h.of_changed (Nat.le_refl _) (Nat.le_of_eq ha.start_eq.symm) ha.changed

end Draft

namespace Session

theorem after_append (s : Session) (first second : List Step) :
    s.after (first ++ second) = (s.after first).after second := List.foldl_append

variable {frame : List UInt8} {drafts outer : List Draft} {d : Draft} {t : Step}
  {steps inside : List Step}

theorem after_skipping (h : Balanced steps) (n : Nat) :
    after ⟨frame, drafts, n + 1⟩ steps = ⟨frame, drafts, n + 1⟩ := by
  induction h generalizing n with
  | nil => rfl
  | @stay t hstays =>
    cases t with
    | begin | enter | close => exact hstays.elim
    | poke | frame | dissect | walk | header | call => rfl
  | @excursion opening inside hbegins _ ih =>
    have hopened : (step ⟨frame, drafts, n + 1⟩ opening).1 = ⟨frame, drafts, n + 2⟩ := by
      cases opening with
      | begin | enter => rfl
      | close | poke | frame | dissect | walk | header | call => exact hbegins.elim
    change after (step ⟨frame, drafts, n + 1⟩ opening).1 (inside ++ [.close]) = _
    rw [hopened, after_append, ih (n + 1)]
    rfl
  | append _ _ ihfirst ihsecond => rw [after_append, ihfirst, ihsecond]

theorem step_of_begins (h : t.Begins) :
    (∃ layer inner, d.next layer = .ok inner ∧
      (step ⟨frame, d :: outer, 0⟩ t).1 = ⟨frame, inner :: d :: outer, 0⟩) ∨
    (step ⟨frame, d :: outer, 0⟩ t).1 = ⟨frame, d :: outer, 1⟩ := by
  cases t with
  | begin layer start => exact .inr rfl
  | enter layer =>
    cases hnext : d.next layer with
    | error refusal =>
      refine .inr ?_
      simp only [step, beginning?, hnext]
      rfl
    | ok inner =>
      refine .inl ⟨layer, inner, hnext, ?_⟩
      simp only [step, beginning?, hnext]
      rfl
  | close | poke | frame | dissect | walk | header | call => exact h.elim

theorem step_of_stays (h : t.Stays) :
    (step ⟨frame, d :: outer, 0⟩ t).1 = ⟨frame, d :: outer, 0⟩ ∨
    ∃ reading d' reply, t = .call reading ∧ d.call reading = .ok reply d' ∧
      (step ⟨frame, d :: outer, 0⟩ t).1 = ⟨frame, d' :: outer, 0⟩ := by
  cases t with
  | begin | enter | close => exact h.elim
  | poke | frame | dissect | walk | header => exact .inl rfl
  | call reading =>
    cases hcall : d.call reading with
    | error refusal d' => exact .inl (congrArg Prod.fst (step_call_of_error hcall))
    | ok reply d' =>
      exact .inr ⟨reading, d', reply, rfl, hcall, congrArg Prod.fst (step_call_of_ok hcall)⟩

theorem after_excursion_of_inside (hbegins : t.Begins) (hbalanced : Balanced inside)
    (hinside : ∀ inner drafts, ∃ inner', after ⟨frame, inner :: drafts, 0⟩ inside =
      ⟨frame, inner' :: drafts, 0⟩ ∧ inner.Advanced inner') (d : Draft) (outer : List Draft) :
    ∃ d', after ⟨frame, d :: outer, 0⟩ (excursion t inside) = ⟨frame, d' :: outer, 0⟩ ∧
      (d' = d ∨ ∃ inner, d.Encloses inner ∧ d' = d.resume inner.bytes) := by
  change ∃ d', after (step ⟨frame, d :: outer, 0⟩ t).1 (inside ++ [.close]) = _ ∧ _
  rw [after_append]
  rcases step_of_begins hbegins with ⟨layer, inner, hnext, hstep⟩ | hstep
  · obtain ⟨inner', hafter, hadvanced⟩ := hinside inner (d :: outer)
    rw [hstep, hafter]
    exact ⟨d.resume inner'.bytes, rfl, .inr ⟨inner', (Draft.encloses_next hnext).of_advanced
      hadvanced, rfl⟩⟩
  · rw [hstep, after_skipping hbalanced]
    exact ⟨d, rfl, .inl rfl⟩

theorem after_balanced {R : Draft → Draft → Prop} (hR : Draft.Respected R) (h : Balanced steps)
    (frame : List UInt8) (d : Draft) (outer : List Draft) :
    ∃ d', after ⟨frame, d :: outer, 0⟩ steps = ⟨frame, d' :: outer, 0⟩ ∧ R d d' ∧
      d.Advanced d' := by
  have hA := Draft.respected_advanced
  -- `R` may not say that a draft still lies inside the outer one when it is closed, so the
  -- induction carries `Advanced` too, from which that follows.
  induction h generalizing d outer with
  | nil => exact ⟨d, rfl, hR.refl d, hA.refl d⟩
  | @stay t hstays =>
    rcases step_of_stays hstays with hstep | ⟨reading, d', reply, -, hcall, hstep⟩
    · exact ⟨d, hstep, hR.refl d, hA.refl d⟩
    · exact ⟨d', hstep, hR.call hcall, hA.call hcall⟩
  | @excursion opening inside hbegins hinside ih =>
    obtain ⟨d', hafter, rfl | ⟨inner, hencloses, rfl⟩⟩ := after_excursion_of_inside hbegins hinside
      (fun inner drafts => (ih inner drafts).imp fun _ h => ⟨h.1, h.2.2⟩) d outer
    · exact ⟨d', hafter, hR.refl d', hA.refl d'⟩
    · exact ⟨_, hafter, hR.resume hencloses, hA.resume hencloses⟩
  | append _ _ ihfirst ihsecond =>
    obtain ⟨mid, hmid, hRmid, hAmid⟩ := ihfirst d outer
    obtain ⟨d', hafter, hRafter, hAafter⟩ := ihsecond mid outer
    exact ⟨d', by rw [after_append, hmid, hafter], hR.trans hRmid hRafter, hA.trans hAmid hAafter⟩

theorem after_excursion (hbegins : t.Begins) (hinside : Balanced inside) (frame : List UInt8)
    (d : Draft) (outer : List Draft) :
    ∃ d', after ⟨frame, d :: outer, 0⟩ (excursion t inside) = ⟨frame, d' :: outer, 0⟩ ∧
      (d' = d ∨ ∃ inner, d.Encloses inner ∧ d' = d.resume inner.bytes) := by
  refine after_excursion_of_inside hbegins hinside (fun inner drafts => ?_) d outer
  obtain ⟨inner', hafter, -, hadvanced⟩ :=
    after_balanced Draft.respected_advanced hinside frame inner drafts
  exact ⟨inner', hafter, hadvanced⟩

end Session

end PacketHeaders

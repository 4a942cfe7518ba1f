import PacketHeaders.Proofs.Fields
import PacketHeaders.Proofs.Outcome

/-!
# Drafts that refine records

A draft is its frame, but what it says is a record, and an edit can be understood on the record
alone. For each kind of draft `amend` does to records what an edit does to drafts, faults included.
Besides the record it is told only where the draft starts and how long the frame is, and no edit
changes either. A whole run of edits then does to the record what the run of amendments does.
-/

namespace PacketHeaders

/-- What an edit of `d` and an amendment of its record come to: both are the same fault and `d` is
left, or the new draft has the new record and differs from `d` in at most `len` octets from the
start on. -/
inductive Agree {n : Nat} {δ φ : Type} (window : δ → Window n) (record : δ → φ) (len : Nat)
    (d : δ) : EStateM.Result Fault δ Unit → Except Fault φ → Prop
  | refused (fault : Fault) : Agree window record len d (.error fault d) (.error fault)
  | done {d' : δ} {f : φ} (record_eq : record d' = f)
      (rewritten : Window.Rewritten len (window d) (window d')) :
      Agree window record len d (.ok () d') (.ok f)

namespace Agree

variable {n : Nat} {δ φ : Type} {window : δ → Window n} {record : δ → φ} {len : Nat} {d d' : δ}
  {y : Except Fault φ}

theorem of_error {fault : Fault} (h : Agree window record len d (.error fault d') y) :
    d' = d ∧ y = .error fault := by
  cases h
  exact ⟨rfl, rfl⟩

theorem of_ok (h : Agree window record len d (.ok () d') y) :
    y = .ok (record d') ∧ Window.Rewritten len (window d) (window d') := by
  cases h with
  | done hrecord hrewritten => exact ⟨by rw [hrecord], hrewritten⟩

theorem record_eq {f : φ} (h : Agree window record len d (.ok () d') (.ok f)) : record d' = f :=
  (Except.ok.inj h.of_ok.1).symm

theorem wrap {δ' : Type} {window' : δ' → Window n} {record' : δ' → φ}
    {x : EStateM.Result Fault δ Unit} (h : Agree window record len d x y) (mk : δ → δ')
    (hwindow : ∀ d, window' (mk d) = window d := by intro; rfl)
    (hrecord : ∀ d, record' (mk d) = record d := by intro; rfl) :
    Agree window' record' len (mk d) (x.recast id mk) y := by
  cases h with
  | refused fault => exact .refused fault
  | done hd hrewritten =>
    refine .done ((hrecord _).trans hd) ?_
    rwa [hwindow, hwindow]

end Agree

/-- A kind of drafts with their records. An edit writes at most `extent` octets from the start of
the draft on. -/
structure Refinement (n : Nat) (δ ε φ : Type) where
  window : δ → Window n
  edit : ε → Writing δ Unit
  record : δ → φ
  amend : Nat → Nat → φ → ε → Except Fault φ
  extent : ε → Nat
  agree : ∀ d e, Agree window record (extent e) d (edit e d)
    (amend (window d).start (window d).bytes.length (record d) e)

namespace Refinement

variable {n : Nat} {δ ε φ : Type} {r : Refinement n δ ε φ} {d d' : δ} {e : ε} {fault : Fault}

theorem edit_refused (h : r.edit e d = .error fault d') : d' = d :=
  (h ▸ r.agree d e).of_error.1

theorem edit_ok (h : r.edit e d = .ok () d') :
    r.amend (r.window d).start (r.window d).bytes.length (r.record d) e = .ok (r.record d') ∧
      Window.Rewritten (r.extent e) (r.window d) (r.window d') :=
  (h ▸ r.agree d e).of_ok

variable (r)

def amends (d : δ) (es : List ε) : Except Fault φ :=
  es.foldlM (r.amend (r.window d).start (r.window d).bytes.length) (r.record d)

variable {r}

theorem amends_cons_of_error (h : r.edit e d = .error fault d') (es : List ε) :
    r.amends d (e :: es) = .error fault := by
  have hamend := (h ▸ r.agree d e).of_error.2
  rw [amends, List.foldlM_cons, hamend]
  rfl

theorem amends_cons_of_ok (h : r.edit e d = .ok () d') (es : List ε) :
    r.amends d (e :: es) = r.amends d' es := by
  obtain ⟨hamend, hplace⟩ := edit_ok h
  rw [amends, amends, Except.foldlM_cons_of_ok hamend, hplace.start_eq, hplace.length_eq]

variable (r)

theorem record_edits (d : δ) (es : List ε) :
    (es.forM r.edit d).accepted (fun _ d' => r.record d') = r.amends d es := by
  induction es generalizing d with
  | nil => rfl
  | cons e es ih =>
    cases h : r.edit e d with
    | error fault d' =>
      rw [Writing.forM_cons_of_error h, amends_cons_of_error h]
      rfl
    | ok _ d' => rw [Writing.forM_cons_of_ok h, amends_cons_of_ok h, ih]

theorem rewritten_edits {d d' : δ} {es : List ε} {len : Nat} (h : es.forM r.edit d = .ok () d')
    (hlen : ∀ e ∈ es, r.extent e ≤ len) : Window.Rewritten len (r.window d) (r.window d') := by
  induction es generalizing d with
  | nil =>
    cases h
    exact .refl ..
  | cons e es ih =>
    obtain ⟨mid, hmid, hrest⟩ := Writing.forM_cons_eq_ok_iff.mp h
    obtain ⟨-, hfirst⟩ := edit_ok hmid
    have htail := ih hrest fun e he => hlen e (List.mem_cons_of_mem _ he)
    exact (hfirst.mono (hlen e List.mem_cons_self)).trans htail

/-- Edits that the record accepts are accepted by the draft. -/
theorem exists_edits {d : δ} {es : List ε} {record : φ} {len : Nat}
    (h : r.amends d es = .ok record) (hlen : ∀ e ∈ es, r.extent e ≤ len) :
    ∃ d', es.forM r.edit d = .ok () d' ∧ r.record d' = record ∧
      Window.Rewritten len (r.window d) (r.window d') := by
  rw [← r.record_edits] at h
  obtain ⟨_, d', hd', hrecord⟩ := EStateM.Result.accepted_eq_ok_iff.mp h
  exact ⟨d', hd', hrecord, r.rewritten_edits hd' hlen⟩

end Refinement

end PacketHeaders

import PacketHeaders.Writing

/-!
# Outcomes that are not faults

How a computation that may fail came to succeed, and what it failed with.
-/

namespace Except

variable {ε α β : Type}

theorem map_eq_ok_iff {f : α → β} {x : Except ε α} {b : β} :
    x.map f = .ok b ↔ ∃ a, x = .ok a ∧ f a = b := by
  cases x <;> simp [Except.map]

theorem bind_eq_ok_iff {x : Except ε α} {f : α → Except ε β} {b : β} :
    x >>= f = .ok b ↔ ∃ a, x = .ok a ∧ f a = .ok b := by
  cases x <;> simp [bind, Except.bind]

/-- A run whose first step succeeds goes on from there. -/
theorem foldlM_cons_of_ok {f : β → α → Except ε β} {a : α} {b b' : β} (h : f b a = .ok b')
    (as : List α) : (a :: as).foldlM f b = as.foldlM f b' := by
  rw [List.foldlM_cons, h]
  rfl

/-- What a computation failed with. -/
def error? : Except ε α → Option ε
  | .ok _ => none
  | .error e => some e

@[simp] theorem error?_map (f : α → β) (x : Except ε α) : (x.map f).error? = x.error? := by
  cases x <;> rfl

end Except

namespace EStateM.Result

variable {ε ε' σ σ' α β : Type} {x : Result ε σ α}

theorem accepted_eq_ok_iff {f : α → σ → β} {b : β} :
    x.accepted f = .ok b ↔ ∃ a s, x = .ok a s ∧ f a s = b := by
  cases x <;> simp [accepted, and_assoc]

theorem recast_eq_ok_iff {error' : ε → ε'} {state' : σ → σ'} {a : α} {s' : σ'} :
    x.recast error' state' = .ok a s' ↔ ∃ s, x = .ok a s ∧ state' s = s' := by
  cases x <;> simp [recast, and_assoc]

end EStateM.Result

namespace PacketHeaders.Writing

variable {σ ε : Type} {write : ε → Writing σ Unit} {e : ε} {s s' : σ} {fault : Fault}

theorem forM_cons_of_ok (h : write e s = .ok () s') (es : List ε) :
    (e :: es).forM write s = es.forM write s' := by
  change (write e >>= fun _ => es.forM write).run s = _
  rw [EStateM.run_bind, EStateM.run, h]
  rfl

theorem forM_cons_of_error (h : write e s = .error fault s') (es : List ε) :
    (e :: es).forM write s = .error fault s' := by
  change (write e >>= fun _ => es.forM write).run s = _
  rw [EStateM.run_bind, EStateM.run, h]

theorem forM_cons_eq_ok_iff {es : List ε} : (e :: es).forM write s = .ok () s' ↔
    ∃ mid, write e s = .ok () mid ∧ es.forM write mid = .ok () s' := by
  cases h : write e s with
  | ok _ mid => simp [forM_cons_of_ok h]
  | error fault mid => simp [forM_cons_of_error h]

end PacketHeaders.Writing

namespace PacketHeaders.Refusal

variable {α β : Type}

theorem lift_eq_ok_iff {wrap : α → β} {x : Except Fault α} {b : β} :
    lift wrap x = .ok b ↔ ∃ a, x = .ok a ∧ wrap a = b := by
  cases x <;> simp [lift]

@[simp] theorem error?_lift (wrap : α → β) (x : Except Fault α) :
    (lift wrap x).error? = x.error?.map .fault := by
  cases x <;> rfl

end PacketHeaders.Refusal

import PacketHeaders.Fault

/-!
# Programs that write

A program that writes goes from one state to the next and may meet a fault on its way. A fault takes
nothing back: what was written ahead of it stays written, and whoever ran the program goes on with
the state that is left. A program that should leave no trace when it is refused has to do all its
checks before it writes.
-/

namespace EStateM.Result

variable {ε ε' σ σ' α β : Type}

/-- The state that is left, behind an error too. -/
def state : Result ε σ α → σ
  | ok _ s | error _ s => s

/-- What the value and the state behind it come to, unless there was an error. -/
def accepted (f : α → σ → β) : Result ε σ α → Except ε β
  | ok a s => .ok (f a s)
  | error e _ => .error e

def answer : Result ε σ α → Except ε α := accepted fun a _ => a

/-- The same result with its error and its state seen as something else. -/
def recast (error' : ε → ε') (state' : σ → σ') : Result ε σ α → Result ε' σ' α
  | ok a s => ok a (state' s)
  | error e s => error (error' e) (state' s)

end EStateM.Result

/-- The program is stopped by an error only as long as it has written nothing. -/
def EStateM.ChecksFirst {ε σ α : Type} (x : EStateM ε σ α) : Prop :=
  ∀ {s e s'}, x s = .error e s' → s' = s

namespace PacketHeaders

abbrev Writing (σ α : Type) := EStateM Fault σ α

/-- The value that is wanted, or the fault that there is none. -/
def Writing.demand {σ α : Type} (value? : Option α) (fault : Fault) : Writing σ α :=
  value?.getDM (throw fault)

theorem Writing.get_bind {σ β : Type} (next : σ → Writing σ β) (s : σ) :
    (get >>= next) s = next s s := rfl

theorem Writing.demand_bind {σ α β : Type} (value? : Option α) (fault : Fault)
    (next : α → Writing σ β) (s : σ) :
    (demand value? fault >>= next) s =
      match value? with
      | some a => next a s
      | none => .error fault s := by
  cases value? <;> rfl

end PacketHeaders

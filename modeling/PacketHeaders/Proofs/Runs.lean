import PacketHeaders.Proofs.Outcome

/-!
# Runs with refusals

A run of calls goes on behind a call that is refused, in the state that it left. As long as all
calls check before they write, only the accepted ones count: they preserve what they preserve one by
one, and what is read off the state in the end is what the last of them gave.
-/

namespace PacketHeaders

variable {δ γ ρ ε : Type} (call : γ → EStateM ε δ ρ)

def runCalls (d : δ) : List γ → δ
  | [] => d
  | c :: cs => runCalls (call c d).state cs

/-- The accepted calls of a run, each with the state that it found. -/
def acceptedCalls (d : δ) : List γ → List (δ × γ)
  | [] => []
  | c :: cs =>
    match call c d with
    | .ok _ d' => (d, c) :: acceptedCalls d' cs
    | .error _ d' => acceptedCalls d' cs

def takenCalls (d : δ) (cs : List γ) : List γ := (acceptedCalls call d cs).map Prod.snd

variable {call} {d d' : δ} {c : γ} {cs : List γ} {reply : ρ} {e : ε}

theorem runCalls_cons_of_ok (h : call c d = .ok reply d') (cs : List γ) :
    runCalls call d (c :: cs) = runCalls call d' cs := by
  rw [runCalls, h]
  rfl

theorem acceptedCalls_cons_of_ok (h : call c d = .ok reply d') (cs : List γ) :
    acceptedCalls call d (c :: cs) = (d, c) :: acceptedCalls call d' cs := by
  rw [acceptedCalls, h]

theorem takenCalls_cons_of_ok (h : call c d = .ok reply d') (cs : List γ) :
    takenCalls call d (c :: cs) = c :: takenCalls call d' cs := by
  rw [takenCalls, acceptedCalls_cons_of_ok h]
  rfl

section Refused

variable (hcall : (call c).ChecksFirst) (h : call c d = .error e d')
include hcall h

theorem runCalls_cons_of_error (cs : List γ) :
    runCalls call d (c :: cs) = runCalls call d cs := by
  rw [runCalls, h]
  exact congrArg (runCalls call · cs) (hcall h)

theorem acceptedCalls_cons_of_error (cs : List γ) :
    acceptedCalls call d (c :: cs) = acceptedCalls call d cs := by
  rw [acceptedCalls, h]
  exact congrArg (acceptedCalls call · cs) (hcall h)

theorem takenCalls_cons_of_error (cs : List γ) :
    takenCalls call d (c :: cs) = takenCalls call d cs :=
  congrArg (List.map Prod.snd) (acceptedCalls_cons_of_error hcall h cs)

end Refused

variable (hchecks : ∀ c, (call c).ChecksFirst)
include hchecks

/-- What every call of a run keeps, the run keeps. -/
theorem holds_runCalls {P : δ → Prop}
    (hstep : ∀ c ∈ cs, ∀ {d d' reply}, call c d = .ok reply d' → P d → P d') (h : P d) :
    P (runCalls call d cs) := by
  induction cs generalizing d with
  | nil => exact h
  | cons c cs ih =>
    have hrest : ∀ c ∈ cs, ∀ {d d' reply}, call c d = .ok reply d' → P d → P d' := by
      intro c hc
      exact hstep c (List.mem_cons_of_mem _ hc)
    cases hcall : call c d with
    | error e d' =>
      rw [runCalls_cons_of_error (hchecks c) hcall]
      exact ih hrest h
    | ok reply d' =>
      rw [runCalls_cons_of_ok hcall]
      exact ih hrest (hstep c List.mem_cons_self hcall h)

/-- What one call brings about and every call keeps holds at the end of a run that takes it. -/
theorem holds_of_mem_takenCalls {P : δ → Prop}
    (hstep : ∀ c {d d' reply}, call c d = .ok reply d' → P d → P d')
    (hmakes : ∀ {d d' reply}, call c d = .ok reply d' → P d') (h : c ∈ takenCalls call d cs) :
    P (runCalls call d cs) := by
  induction cs generalizing d with
  | nil => cases h
  | cons c' cs ih =>
    cases hcall : call c' d with
    | error e d' =>
      rw [takenCalls_cons_of_error (hchecks c') hcall] at h
      rw [runCalls_cons_of_error (hchecks c') hcall]
      exact ih h
    | ok reply d' =>
      rw [takenCalls_cons_of_ok hcall] at h
      rw [runCalls_cons_of_ok hcall]
      rcases List.mem_cons.mp h with rfl | h
      · exact holds_runCalls hchecks (fun c _ => hstep c) (hmakes hcall)
      · exact ih h

/-- What is read off a state is what the last accepted call gave, if every call gives something or
leaves it. -/
theorem read_runCalls {α : Type} (read : δ → α) (given? : δ → γ → Option α)
    (hstep : ∀ {c d d' reply}, call c d = .ok reply d' → read d' = (given? d c).getD (read d))
    (d : δ) (cs : List γ) :
    read (runCalls call d cs) =
      ((acceptedCalls call d cs).findSomeRev? fun found => given? found.1 found.2).getD
        (read d) := by
  induction cs generalizing d with
  | nil => rfl
  | cons c cs ih =>
    cases hcall : call c d with
    | error e d' =>
      rw [runCalls_cons_of_error (hchecks c) hcall, acceptedCalls_cons_of_error (hchecks c) hcall]
      exact ih d
    | ok reply d' =>
      rw [runCalls_cons_of_ok hcall, acceptedCalls_cons_of_ok hcall, ih, hstep hcall,
        List.findSomeRev?]
      -- What a later call gives counts, and only without it what this one gives.
      cases (acceptedCalls call d' cs).findSomeRev? fun found => given? found.1 found.2 <;> rfl

theorem read_runCalls_of_taken {α : Type} (read : δ → α) (given? : γ → Option α)
    (hstep : ∀ {c d d' reply}, call c d = .ok reply d' → read d' = (given? c).getD (read d))
    (d : δ) (cs : List γ) :
    read (runCalls call d cs) =
      ((takenCalls call d cs).findSomeRev? given?).getD (read d) := by
  rw [read_runCalls hchecks read (fun _ => given?) hstep, takenCalls,
    List.findSomeRev?_eq_findSome?_reverse, List.findSomeRev?_eq_findSome?_reverse,
    ← List.map_reverse, List.findSome?_map]
  rfl

end PacketHeaders

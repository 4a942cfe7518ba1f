import PacketHeaders.Proofs.Guarded.Walk

/-!
# What a walk meets

A walk begins with the header that it is given. Each entry behind is what the header before it leads
to when the next layer is looked for there, so there is one for each layer unless a refusal ends the
walk. The headers that can be reached in a frame are those that a walk ends with.
-/

namespace PacketHeaders.Sighting

variable (ends : Option Endpoints) (x : Except Refusal Header) (layers : List Layer)

theorem getElem?_walk_zero :
    (walk ends x layers)[0]? = some (x.map fun h => ⟨h, h.ends?.or ends⟩) := by
  cases x <;> cases layers <;> rfl

theorem getElem?_walk_succ (i : Nat) :
    (walk ends x layers)[i + 1]? =
      match (walk ends x layers)[i]? with
      | some (.ok s) => layers[i]?.map fun layer =>
          (s.header.next layer).map fun h => ⟨h, h.ends?.or s.ends⟩
      | _ => none := by
  induction layers generalizing ends x i with
  | nil => cases x <;> cases i <;> rfl
  | cons layer layers ih =>
    cases x with
    | error refusal => cases i <;> rfl
    | ok h =>
      cases i with
      | zero => exact getElem?_walk_zero ..
      | succ i => exact ih ..

/-- There is an entry for each layer, unless the last one is a refusal. -/
theorem length_walk : (walk ends x layers).length = layers.length + 1 ∨
    ∃ refusal, (walk ends x layers).getLast? = some (.error refusal) := by
  induction layers generalizing ends x with
  | nil => exact .inl (by cases x <;> rfl)
  | cons layer layers ih =>
    cases x with
    | error refusal => exact .inr ⟨refusal, rfl⟩
    | ok h =>
      rw [walk]
      rcases ih (h.ends?.or ends) (h.next layer) with hlength | ⟨refusal, hlast⟩
      · exact .inl (congrArg (· + 1) hlength)
      · exact .inr ⟨refusal, by rw [List.getLast?_cons, hlast]; rfl⟩

theorem getElem?_walk_append (more : List Layer) {i : Nat} (h : i ≤ layers.length) :
    (walk ends x (layers ++ more))[i]? = (walk ends x layers)[i]? := by
  induction i with
  | zero => rw [getElem?_walk_zero, getElem?_walk_zero]
  | succ i ih =>
    rw [getElem?_walk_succ, getElem?_walk_succ, ih (Nat.le_of_succ_le h),
      List.getElem?_append_left h]

variable {frame : List UInt8}

theorem reached_of_getElem?_walk {layer : Layer} {start i : Nat} {s : Sighting}
    (h : (walk ends (Header.place layer frame start) layers)[i]? = some (.ok s)) :
    Header.Reached frame s.header := by
  induction i generalizing s with
  | zero =>
    rw [getElem?_walk_zero] at h
    obtain ⟨outer, hplace, rfl⟩ := Except.map_eq_ok_iff.mp (Option.some.inj h)
    exact .placed hplace
  | succ i ih =>
    rw [getElem?_walk_succ] at h
    split at h
    · next outer houter =>
      obtain ⟨layer, -, hentry⟩ := Option.map_eq_some_iff.mp h
      obtain ⟨inner, hnext, rfl⟩ := Except.map_eq_ok_iff.mp hentry
      exact .behind (ih houter) hnext
    · cases h

/-- The headers that can be reached in a frame are those that a walk ends with. -/
theorem reached_iff_walk {h : Header} : Header.Reached frame h ↔
    ∃ layer start layers s,
      (walk ends (Header.place layer frame start) layers)[layers.length]? = some (.ok s) ∧
        s.header = h := by
  constructor
  · intro hreached
    induction hreached with
    | @placed layer start h hplace =>
      refine ⟨layer, start, [], ⟨h, h.ends?.or ends⟩, ?_, rfl⟩
      rw [hplace]
      rfl
    | @behind outer h layer _ hnext ih =>
      obtain ⟨first, start, layers, s, hlast, rfl⟩ := ih
      refine ⟨first, start, layers ++ [layer], ⟨h, h.ends?.or s.ends⟩, ?_, rfl⟩
      rw [List.length_append, List.length_singleton, getElem?_walk_succ,
        getElem?_walk_append _ _ _ _ (Nat.le_refl _), hlast, List.getElem?_concat_length]
      dsimp only
      rw [Option.map_some, hnext]
      rfl
  · rintro ⟨layer, start, layers, s, hlast, rfl⟩
    exact reached_of_getElem?_walk ends layers hlast

end PacketHeaders.Sighting

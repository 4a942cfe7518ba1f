import PacketHeaders.Proofs.Refinement
import PacketHeaders.Proofs.Runs

/-!
# Ledgers

A ledger reads a draft column by column and says which columns an accepted edit enters something in.
After any run of edits each column holds what the last accepted edit entered there, or what it held
before; the octets behind the header are those of the last accepted edit that put any there;
everything in front of the header, the place of the draft and the length of the frame are as they
were.
-/

namespace PacketHeaders

namespace Refinement

variable {n : Nat} {δ ε φ : Type} (r : Refinement n δ ε φ)

theorem edit_checksFirst (e : ε) : (r.edit e).ChecksFirst := edit_refused

theorem runCalls_place (d : δ) (es : List ε) :
    (r.window (runCalls r.edit d es)).start = (r.window d).start ∧
      (r.window (runCalls r.edit d es)).bytes.length = (r.window d).bytes.length ∧
      ∀ i < (r.window d).start,
        (r.window (runCalls r.edit d es)).bytes[i]? = (r.window d).bytes[i]? := by
  let P (d' : δ) : Prop :=
    (r.window d').start = (r.window d).start ∧
      (r.window d').bytes.length = (r.window d).bytes.length ∧
      ∀ i < (r.window d).start, (r.window d').bytes[i]? = (r.window d).bytes[i]?
  refine holds_runCalls (P := P) r.edit_checksFirst ?_ ⟨rfl, rfl, fun _ _ => rfl⟩
  rintro e - d₁ d₂ _ hedit ⟨hstart, hlength, hfront⟩
  obtain ⟨-, hwritten⟩ := edit_ok hedit
  refine ⟨hwritten.start_eq.trans hstart, hwritten.length_eq.trans hlength, fun i hi => ?_⟩
  rw [← hfront i hi]
  exact hwritten.changed.getElem?_eq i (.inl (by rw [hstart]; exact hi))

end Refinement

/-- A refinement whose drafts are read in columns. `given?` is what an accepted edit enters in a
column of the draft that it finds, and `body` the octets that it puts behind the header. -/
structure Ledger (n : Nat) (δ ε φ : Type) extends Refinement n δ ε φ where
  Column : Type
  Value : Column → Type
  entry : δ → (x : Column) → Value x
  given? : δ → ε → (x : Column) → Option (Value x)
  body : ε → List UInt8
  entry_edit : ∀ {d e d'}, edit e d = .ok () d' →
    ∀ x, entry d' x = (given? d e x).getD (entry d x)
  extent_eq : ∀ e, extent e = n + (body e).length
  slice_body : ∀ {d e d'}, edit e d = .ok () d' →
    Octets.slice (window d').bytes ((window d).start + n) (body e).length = body e

namespace Ledger

variable {n : Nat} {δ ε φ : Type} (l : Ledger n δ ε φ)

/-- What a run of edits made of a draft, in terms of its accepted edits. -/
structure Keeps (d : δ) (es : List ε) : Prop where
  entry_eq : ∀ x, l.entry (runCalls l.edit d es) x =
    ((acceptedCalls l.edit d es).findSomeRev? fun found => l.given? found.1 found.2 x).getD
      (l.entry d x)
  behind_eq : ∀ i, (l.window (runCalls l.edit d es)).bytes[(l.window d).start + n + i]? =
    ((takenCalls l.edit d es).findSomeRev? fun e => (l.body e)[i]?).or
      (l.window d).bytes[(l.window d).start + n + i]?
  front_eq : ∀ i < (l.window d).start,
    (l.window (runCalls l.edit d es)).bytes[i]? = (l.window d).bytes[i]?
  start_eq : (l.window (runCalls l.edit d es)).start = (l.window d).start
  length_eq : (l.window (runCalls l.edit d es)).bytes.length = (l.window d).bytes.length

theorem behind_edit {d d' : δ} {e : ε} (h : l.edit e d = .ok () d') (i : Nat) :
    (l.window d').bytes[(l.window d').start + n + i]? =
      ((l.body e)[i]?).or (l.window d).bytes[(l.window d).start + n + i]? := by
  obtain ⟨-, hwritten⟩ := Refinement.edit_ok h
  rw [hwritten.start_eq]
  rcases Nat.lt_or_ge i (l.body e).length with hi | hi
  · have hbody := congrArg (·[i]?) (l.slice_body h)
    rw [Octets.getElem?_slice, if_pos hi] at hbody
    rw [hbody, List.getElem?_eq_getElem hi, Option.some_or]
  · rw [List.getElem?_eq_none hi, Option.none_or]
    refine hwritten.changed.getElem?_eq _ (.inr ?_)
    rw [l.extent_eq]
    omega

theorem keeps (d : δ) (es : List ε) : l.Keeps d es := by
  obtain ⟨hstart, hlength, hfront⟩ := l.runCalls_place d es
  refine ⟨fun x => ?_, fun i => ?_, hfront, hstart, hlength⟩
  · exact read_runCalls l.edit_checksFirst (l.entry · x) (l.given? · · x)
      (fun h => l.entry_edit h x) d es
  · have hor (o b : Option UInt8) : (o.map some).getD b = o.or b := by
      cases o <;> rfl
    have hread := read_runCalls_of_taken l.edit_checksFirst
      (fun d => (l.window d).bytes[(l.window d).start + n + i]?)
      (fun e => ((l.body e)[i]?).map some)
      (fun h => by rw [hor]; exact l.behind_edit h i) d es
    have hmap : ((takenCalls l.edit d es).findSomeRev? fun e => ((l.body e)[i]?).map some) =
        ((takenCalls l.edit d es).findSomeRev? fun e => (l.body e)[i]?).map some := by
      rw [List.findSomeRev?_eq_findSome?_reverse, List.findSomeRev?_eq_findSome?_reverse,
        List.map_findSome?]
      rfl
    rw [hstart, hmap, hor] at hread
    exact hread

end Ledger

end PacketHeaders

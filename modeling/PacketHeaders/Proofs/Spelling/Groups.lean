import PacketHeaders.Fault

/-!
# Texts read group by group

A reader that splits a text and reads each group is exact when the reader of a single group is: it
takes just the texts that are the joined groups of the values it gives, once their characters are
folded, as capitals are into small letters. `Spelled` is what that needs of a group, and `Answers`
says what becomes of a text where only such texts are taken.
-/

namespace PacketHeaders

namespace Groups

section Each

variable {α β γ : Type} {read : α → Option β}

theorem mapM_cons_eq_some_iff {a : α} {as : List α} {bs : List β} :
    (a :: as).mapM read = some bs ↔
      ∃ b rest, read a = some b ∧ as.mapM read = some rest ∧ b :: rest = bs := by
  simp only [List.mapM_cons, Option.bind_eq_bind, Option.bind_eq_some_iff, Option.pure_def,
    Option.some.injEq, exists_and_left]

/-- Every group is read by itself, so reading succeeds group by group or not at all. -/
theorem mapM_eq_some_iff {fold : α → γ} {print : β → γ}
    (hread : ∀ a b, read a = some b ↔ fold a = print b) {as : List α} {bs : List β} :
    as.mapM read = some bs ↔ as.map fold = bs.map print := by
  induction as generalizing bs with
  | nil => cases bs <;> simp
  | cons a as ih =>
    rw [mapM_cons_eq_some_iff]
    cases bs with
    | nil => simp
    | cons b bs => simp [hread, ih]

theorem exists_mapM_iff {as : List α} :
    (∃ bs, as.mapM read = some bs) ↔ ∀ a ∈ as, ∃ b, read a = some b := by
  induction as with
  | nil => simp
  | cons a as ih =>
    simp only [mapM_cons_eq_some_iff, List.forall_mem_cons, ← ih]
    constructor
    · rintro ⟨_, b, rest, hb, hrest, -⟩
      exact ⟨⟨b, hb⟩, ⟨rest, hrest⟩⟩
    · rintro ⟨⟨b, hb⟩, ⟨rest, hrest⟩⟩
      exact ⟨_, b, rest, hb, hrest, rfl⟩

end Each

variable {sep : Char} {fold : Char → Char}

/-- Folding no character into the separator, or the separator into another, folds group by group. -/
theorem splitOn_map (hsep : ∀ c, fold c = sep ↔ c = sep) (text : List Char) :
    (text.map fold).splitOn sep = (text.splitOn sep).map (List.map fold) := by
  induction text with
  | nil => simp
  | cons c text ih =>
    simp only [List.map_cons, List.splitOn_cons_eq_if_modifyHead, beq_iff_eq, hsep, ih]
    split
    · rfl
    · cases text.splitOn sep <;> rfl

theorem splitOn_eq_iff {text : List Char} {groups : List (List Char)} (hne : groups ≠ [])
    (h : ∀ group ∈ groups, sep ∉ group) :
    text.splitOn sep = groups ↔ text = [sep].intercalate groups := by
  constructor
  · rintro rfl
    exact (List.intercalate_splitOn sep).symm
  · rintro rfl
    exact List.splitOn_intercalate sep h hne

/-- Groups of one size and the separators between them. -/
theorem length_intercalate {groups : List (List Char)} {n : Nat} (hne : groups ≠ [])
    (h : ∀ group ∈ groups, group.length = n) :
    ([sep].intercalate groups).length + 1 = groups.length * (n + 1) := by
  induction groups with
  | nil => exact absurd rfl hne
  | cons group groups ih =>
    have hgroup := h group List.mem_cons_self
    cases groups with
    | nil => simp [hgroup]
    | cons next groups =>
      have hrest := ih (by simp) fun g hg => h g (List.mem_cons_of_mem _ hg)
      rw [List.intercalate_cons_cons, List.length_append, List.length_append,
        List.length_singleton, List.length_cons, Nat.succ_mul, hgroup]
      omega

/-- A reader of single groups that takes a group exactly when the folded group is what the value it
gives is printed as. -/
structure Spelled {α : Type} (sep : Char) (fold : Char → Char) (read : List Char → Option α)
    (print : α → List Char) : Prop where
  fold_eq_sep_iff (c : Char) : fold c = sep ↔ c = sep
  read_eq_some_iff (group : List Char) (a : α) : read group = some a ↔ group.map fold = print a
  read_print (a : α) : read (print a) = some a
  sep_not_mem (a : α) : sep ∉ print a

namespace Spelled

variable {α : Type} {read : List Char → Option α} {print : α → List Char} {as : List α}
  (h : Spelled sep fold read print)

include h

theorem length_eq {groups : List (List Char)} (hread : groups.mapM read = some as) :
    groups.length = as.length := by
  have hlength := congrArg List.length ((mapM_eq_some_iff h.read_eq_some_iff).mp hread)
  rwa [List.length_map, List.length_map] at hlength

variable (hne : as ≠ [])

include hne

theorem splitOn_eq_map_iff {text : List Char} :
    text.splitOn sep = as.map print ↔ text = [sep].intercalate (as.map print) := by
  refine splitOn_eq_iff (mt List.map_eq_nil_iff.mp hne) fun group hgroup => ?_
  obtain ⟨a, -, rfl⟩ := List.mem_map.mp hgroup
  exact h.sep_not_mem a

theorem mapM_splitOn_eq_some_iff {text : List Char} :
    (text.splitOn sep).mapM read = some as ↔ text.map fold = [sep].intercalate (as.map print) := by
  rw [mapM_eq_some_iff h.read_eq_some_iff, ← splitOn_map h.fold_eq_sep_iff,
    h.splitOn_eq_map_iff hne]

theorem mapM_splitOn_intercalate :
    (([sep].intercalate (as.map print)).splitOn sep).mapM read = some as := by
  rw [(h.splitOn_eq_map_iff hne).mpr rfl, mapM_eq_some_iff h.read_eq_some_iff, List.map_map]
  exact List.map_congr_left fun a _ => (h.read_eq_some_iff _ a).mp (h.read_print a)

end Spelled

end Groups

/-- An answer that is made of the value that a text spells, or is the refusal if the text spells
none. -/
def Answers {α β : Type} (spells : α → Prop) (accepted : α → β) (refused answer : β) : Prop :=
  (∃ a, spells a ∧ answer = accepted a) ∨ (∀ a, ¬spells a) ∧ answer = refused

theorem Answers.of_read {α β : Type} {spells : α → Prop} {accepted : α → β} {refused answer : β}
    {read : Option α} (hread : ∀ a, read = some a ↔ spells a)
    (hanswer : answer = read.elim refused accepted) : Answers spells accepted refused answer := by
  subst hanswer
  cases read with
  | some a => exact .inl ⟨a, (hread a).mp rfl, rfl⟩
  | none =>
    refine .inr ⟨fun a hspells => ?_, rfl⟩
    cases (hread a).mpr hspells

end PacketHeaders

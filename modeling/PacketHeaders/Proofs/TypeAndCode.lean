import PacketHeaders.Proofs.Calls
import PacketHeaders.Proofs.IcmpNumbers
import PacketHeaders.Proofs.Refusals.Calls
import PacketHeaders.Proofs.Runs

/-!
# Type and code of an ICMP message

A draft may be begun over any octets, so its type and code need not belong together at first. Once a
type was accepted they do, and stay so. A type with a table of codes is accepted over a known code
only if it is the type that the draft has; a type without codes is always accepted, and from there
every type and every code under it can be reached.
-/

namespace PacketHeaders.Icmp

/-- Type and code are assigned ones, and the code octet holds the number of the code under the
type. -/
structure Fields.Consistent (f : Fields) : Prop where
  type_ne : f.type ≠ .undefined
  code_ne : f.code ≠ .undefined
  number_eq : f.code.number? f.type = some f.codeNumber
  codeless : f.type.codes? = none → f.codeNumber = 0

theorem Fields.consistent_of_number? {f : Fields} {code : IcmpCode}
    (h : code.number? f.type = some f.codeNumber) : f.Consistent := by
  have hcode : f.code = code := IcmpCode.ofNumber_of_number? h
  have hsome : code.number? f.type ≠ none := by
    rw [h]
    exact Option.some_ne_none _
  refine ⟨IcmpCode.ne_undefined_of_number? hsome, ?_, hcode ▸ h, fun hcodeless => ?_⟩
  · rintro hundefined
    rw [← hcode, hundefined, IcmpCode.number?_undefined_code] at hsome
    exact hsome rfl
  · simp only [IcmpCode.number?, hcodeless] at h
    split at h
    · exact (Option.some.inj h).symm
    · cases h

def Call.SetsType : Call → Prop
  | edit (.type _) => True
  | _ => False

def Call.SetsCode : Call → Prop
  | edit (.code _) => True
  | _ => False

/-- What a call that is taken means for type and code. -/
inductive Turns (f f' : Fields) : Call → Prop
  | type {type : IcmpType} {code : IcmpCode} (type_eq : f'.type = type)
      (number_eq : code.number? type = some f'.codeNumber) : Turns f f' (.edit (.type type))
  | code {code : IcmpCode} (type_eq : f'.type = f.type)
      (number_eq : code.number? f.type = some f'.codeNumber) : Turns f f' (.edit (.code code))
  | other {c : Call} (hc : ¬c.SetsType ∧ ¬c.SetsCode) (type_eq : f'.type = f.type)
      (codeNumber_eq : f'.codeNumber = f.codeNumber) : Turns f f' c

namespace Turns

variable {f f' : Fields} {c : Call}

theorem code_eq (htype : f'.type = f.type) (hnumber : f'.codeNumber = f.codeNumber) :
    f'.code = f.code := by
  rw [Fields.code, htype, hnumber, Fields.code]

theorem consistent (h : Turns f f' c) (hf : f.Consistent ∨ c.SetsType) : f'.Consistent := by
  cases h with
  | type htype hnumber => exact Fields.consistent_of_number? (by rw [htype]; exact hnumber)
  | code htype hnumber => exact Fields.consistent_of_number? (by rw [htype]; exact hnumber)
  | other hc htype hnumber =>
    rcases hf with hf | hf
    · exact Fields.consistent_of_number? (by rw [htype, hnumber]; exact hf.number_eq)
    · exact absurd hf hc.1

theorem keeps_type (h : Turns f f' c) (hc : ¬c.SetsType) :
    f'.type = f.type ∧ (f.code ≠ .undefined → f'.code ≠ .undefined) := by
  cases h with
  | type => exact absurd trivial hc
  | code htype hnumber =>
    refine ⟨htype, fun _ => ?_⟩
    exact (Fields.consistent_of_number? (by rw [htype]; exact hnumber)).code_ne
  | other _ htype hnumber =>
    rw [code_eq htype hnumber]
    exact ⟨htype, id⟩

end Turns

/-- The code that a record carries over is the number of some code under the new type. -/
theorem Fields.exists_code_of_carriedCode? {f : Fields} {type : IcmpType} {n : UInt8}
    (htype : type ≠ .undefined) (h : f.carriedCode? type = some n) :
    ∃ code : IcmpCode, code.number? type = some n := by
  unfold carriedCode? at h
  split at h
  · cases h
    exact IcmpCode.exists_number?_zero htype
  · exact ⟨_, h⟩

theorem turns_of_amend {start size : Nat} {c c' : Content Fields} {e : Edit}
    (h : amend start size c e = .ok c') : Turns c.fields c'.fields (.edit e) := by
  cases e with
  | type type =>
    simp only [amend] at h
    split at h
    · cases h
    · next n hnumber =>
      split at h
      · next codeNumber hcarried =>
        cases h
        have htype : type ≠ .undefined := by
          rintro rfl
          cases hnumber
        obtain ⟨code, hcode⟩ := Fields.exists_code_of_carriedCode? htype hcarried
        exact .type ((IcmpType.number?_eq_some_iff.mp hnumber).2) hcode
      · cases h
  | code code =>
    simp only [amend] at h
    split at h
    · cases h
      exact .code rfl ‹_›
    · cases h
  | checksum | id | sequenceNumber =>
    cases h
    exact .other ⟨id, id⟩ rfl rfl
  | payload bytes =>
    simp only [amend] at h
    split at h
    · cases h
      exact .other ⟨id, id⟩ rfl rfl
    · cases h

namespace Draft

variable {d d' : Draft}

theorem turns_edit {e : Edit} (h : d.edit e = .ok () d') :
    Turns d.header.fields d'.header.fields (.edit e) :=
  turns_of_amend (Refinement.edit_ok (r := refinement) h).1

theorem turns_call {c : Call} {reply : Reply} (h : d.call c = .ok reply d') :
    Turns d.header.fields d'.header.fields c := by
  cases c with
  | edit e => exact turns_edit (edit_of_answered h)
  | defaultChecksum =>
    cases h
    exact .other ⟨id, id⟩ rfl rfl
  | storeChecksum =>
    cases h
    have hedit : d.edit (.checksum d.defaultChecksum) =
        .ok () (d.setChecksum d.defaultChecksum) := rfl
    cases turns_edit hedit with
    | other _ htype hnumber => exact .other ⟨id, id⟩ htype hnumber

theorem foreign_iff (d : Draft) (type : IcmpType) :
    (type.codes? ≠ none ∧ d.header.code ≠ .noCode ∧ d.header.code ≠ .undefined ∧
        d.header.code.number? type = none) ↔
      ¬(type.codes? = none ∨ d.header.code = .noCode ∨ d.header.code = .undefined ∨
        d.header.type = type) := by
  cases hcodes : type.codes? with
  | none => simp
  | some codes =>
    by_cases hcode : d.header.code = .noCode
    · simp [hcode]
    · by_cases hknown : d.header.code = .undefined
      · simp [hknown]
      · have hown : d.header.code.number? type ≠ none ↔ d.header.type = type :=
          IcmpCode.number?_ofNumber_ne_none_iff hcode hknown (by simp [hcodes])
        simp [hcode, hknown, ← hown]

theorem setType_accepts_iff (d : Draft) (type : IcmpType) :
    (∃ d', d.setType type = .ok () d') ↔ type ≠ .undefined ∧
      (type.codes? = none ∨ d.header.code = .noCode ∨ d.header.code = .undefined ∨
        d.header.type = type) := by
  rw [(d.decided_setType type).accepts_iff, Edit.refusal?]
  by_cases htype : type = .undefined
  · simp [htype]
  · rw [if_neg htype]
    split
    · next hforeign =>
      exact iff_of_false (by simp) fun h => (d.foreign_iff type).mp hforeign h.2
    · next hfits =>
      exact iff_of_true rfl ⟨htype, Decidable.not_not.mp (mt (d.foreign_iff type).mpr hfits)⟩

theorem setCode_accepts_iff (d : Draft) (code : IcmpCode) :
    (∃ d', d.setCode code = .ok () d') ↔ code.number? d.header.type ≠ none := by
  rw [setCode_eq]
  cases code.number? d.header.type <;> simp

theorem type_of_setType {type : IcmpType} (h : d.setType type = .ok () d') :
    d'.header.type = type := by
  cases turns_edit (e := .type type) h with
  | type htype => exact htype
  | other hc => exact absurd trivial hc.1

theorem typeAndCode_of_setCode {code : IcmpCode} (h : d.setCode code = .ok () d') :
    d'.header.type = d.header.type ∧ d'.header.code = code := by
  cases turns_edit (e := .code code) h with
  | other hc => exact absurd trivial hc.2
  | code htype hnumber =>
    have htype : d'.header.type = d.header.type := htype
    have hnumber : code.number? d'.header.type = some d'.header.codeNumber := htype ▸ hnumber
    exact ⟨htype, IcmpCode.ofNumber_of_number? hnumber⟩

/-- From a type without codes every type can be reached, with every code under it. -/
theorem exists_setType_setCode (hdefined : d.header.type ≠ .undefined)
    (hcodeless : d.header.type.codes? = none) {type : IcmpType} (htype : type ≠ .undefined) :
    ∃ d', d.setType type = .ok () d' ∧ d'.header.type = type ∧
      ∀ code : IcmpCode, code.number? type ≠ none →
        ∃ d'', d'.setCode code = .ok () d'' ∧ d''.header.type = type ∧ d''.header.code = code := by
  have hnone : d.header.code = .noCode := IcmpCode.ofNumber_of_codeless hdefined hcodeless _
  obtain ⟨d', hset⟩ := (d.setType_accepts_iff type).mpr ⟨htype, .inr (.inl hnone)⟩
  have hsettype := type_of_setType hset
  refine ⟨d', hset, hsettype, fun code hcode => ?_⟩
  obtain ⟨d'', hsetcode⟩ := (d'.setCode_accepts_iff code).mpr (hsettype ▸ hcode)
  obtain ⟨hkept, hcode'⟩ := typeAndCode_of_setCode hsetcode
  exact ⟨d'', hsetcode, hkept.trans hsettype, hcode'⟩

theorem code_ne_noCode (hcodes : d.header.type.codes? ≠ none) : d.header.code ≠ .noCode := by
  obtain ⟨codes, hcodes⟩ := Option.ne_none_iff_exists'.mp hcodes
  rcases IcmpCode.ofNumber_mem hcodes d.header.codeNumber with hundefined | hmem
  · intro hcode
    cases hundefined.symm.trans hcode
  · exact (IcmpType.ne_of_mem_codes hcodes hmem).1

theorem type_runCalls (hknown : d.header.code ≠ .undefined) {calls : List Call}
    (hcalls : ∀ c ∈ calls, ¬c.SetsType) :
    (runCalls call d calls).header.type = d.header.type ∧
      (runCalls call d calls).header.code ≠ .undefined := by
  let P (d' : Draft) : Prop := d'.header.type = d.header.type ∧ d'.header.code ≠ .undefined
  refine holds_runCalls call_checksFirst (P := P) ?_ ⟨rfl, hknown⟩
  rintro c hc d₁ d₂ reply hcall ⟨htype, hcode⟩
  obtain ⟨hkept, hknows⟩ := (turns_call hcall).keeps_type (hcalls c hc)
  exact ⟨Eq.trans hkept htype, hknows hcode⟩

/-- After a type was accepted, type and code belong together for good. A type is accepted under the
condition given, in whatever state; so a known code bars every other type with a table until the
type is changed, and the way to it leads through a type without codes. -/
theorem type_and_code_belong_together (d : Draft) :
    (∀ calls, (∃ c ∈ takenCalls call d calls, c.SetsType) →
      (runCalls call d calls).header.fields.Consistent) ∧
    (∀ type, (∃ d', d.setType type = .ok () d') ↔ type ≠ .undefined ∧
      (type.codes? = none ∨ d.header.code = .noCode ∨ d.header.code = .undefined ∨
        d.header.type = type)) ∧
    (d.header.type.codes? ≠ none → d.header.code ≠ .undefined →
      ∀ calls, (∀ c ∈ calls, ¬c.SetsType) → ∀ type, type.codes? ≠ none → type ≠ d.header.type →
        ¬∃ d', (runCalls call d calls).setType type = .ok () d') ∧
    ∀ codeless, codeless ≠ .undefined → codeless.codes? = none →
      ∃ d', d.setType codeless = .ok () d' ∧ ∀ type, type ≠ .undefined →
        ∃ d₁, d'.setType type = .ok () d₁ ∧ d₁.header.type = type ∧
          ∀ code : IcmpCode, code.number? type ≠ none →
            ∃ d₂, d₁.setCode code = .ok () d₂ ∧ d₂.header.type = type ∧ d₂.header.code = code := by
  refine ⟨?_, d.setType_accepts_iff, ?_, ?_⟩
  · rintro calls ⟨c, htaken, hsets⟩
    refine holds_of_mem_takenCalls call_checksFirst
      (P := fun d : Draft => d.header.fields.Consistent) ?_ ?_ htaken
    · intro c d d' reply hcall hd
      exact (turns_call hcall).consistent (.inl hd)
    · intro d d' reply hcall
      exact (turns_call hcall).consistent (.inr hsets)
  · intro hcodes hknown calls hcalls type htable hother
    obtain ⟨htype, hcode⟩ := type_runCalls hknown hcalls
    have hnone : (runCalls call d calls).header.code ≠ .noCode :=
      code_ne_noCode (htype ▸ hcodes)
    rw [setType_accepts_iff]
    rintro ⟨-, h | h | h | h⟩
    · exact htable h
    · exact hnone h
    · exact hcode h
    · exact hother (h.symm.trans htype)
  · intro codeless hdefined hcodeless
    obtain ⟨d', hset⟩ := (d.setType_accepts_iff codeless).mpr ⟨hdefined, .inl hcodeless⟩
    have htype := type_of_setType hset
    refine ⟨d', hset, fun type hnew => ?_⟩
    exact exists_setType_setCode (htype ▸ hdefined) (htype ▸ hcodeless) hnew

/-- Over octets that say nothing sensible, the type that is accepted takes its first code, and a
type that has no such code is refused. -/
theorem type_and_code_belong_together_over_garbage :
    let d : Draft := .ofWindow ⟨⟨[3, 77, 0, 0, 0, 0, 0, 0], 0⟩, by decide⟩
    let calls : List Call :=
      [.edit (.code .redirectNet), .edit (.type .redirect), .edit (.type .timeExceeded)]
    takenCalls call d calls = [.edit (.type .redirect)] ∧
      (runCalls call d calls).header.fields.Consistent := by
  intro d calls
  have htaken : takenCalls call d calls = [.edit (.type .redirect)] := by decide
  have hmem : .edit (.type .redirect) ∈ takenCalls call d calls := by
    rw [htaken]
    exact List.mem_singleton_self _
  exact ⟨htaken, (type_and_code_belong_together d).1 calls ⟨_, hmem, trivial⟩⟩

end Draft

end PacketHeaders.Icmp

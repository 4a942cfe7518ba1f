import PacketHeaders.Assigned.Icmp

/-!
# ICMP numbers and what they mean

A code that has a number under a type is what the number means there, and only a type that has a
number itself has codes. No code stands in the tables of two types, and every table begins with the
code of number zero.
-/

namespace PacketHeaders

namespace IcmpType

theorem exists_number {type : IcmpType} (h : type ≠ .undefined) : ∃ n, type.number? = some n := by
  cases type with
  | undefined => exact absurd rfl h
  | _ => exact ⟨_, rfl⟩

theorem length_codes {type : IcmpType} {codes : List IcmpCode} (h : type.codes? = some codes) :
    codes.length ≤ 16 := by
  cases type with
  | unreached | redirect | timeExceeded =>
    cases h
    decide
  | _ => cases h

theorem nodup_codes {type : IcmpType} {codes : List IcmpCode} (h : type.codes? = some codes) :
    codes.Nodup := by
  cases type with
  | unreached | redirect | timeExceeded =>
    cases h
    decide
  | _ => cases h

/-- A code belongs to one type only. -/
theorem eq_of_mem_codes {type type' : IcmpType} {codes codes' : List IcmpCode}
    (h : type.codes? = some codes) (h' : type'.codes? = some codes') {code : IcmpCode}
    (hc : code ∈ codes) (hc' : code ∈ codes') : type = type' := by
  cases type with
  | unreached | redirect | timeExceeded =>
    cases h
    cases type' with
    | unreached | redirect | timeExceeded =>
      cases h'
      revert code
      decide
    | _ => cases h'
  | _ => cases h

/-- A table lists neither the absent code nor the unknown one. -/
theorem ne_of_mem_codes {type : IcmpType} {codes : List IcmpCode} (h : type.codes? = some codes)
    {code : IcmpCode} (hc : code ∈ codes) : code ≠ .noCode ∧ code ≠ .undefined := by
  cases type with
  | unreached | redirect | timeExceeded =>
    cases h
    revert code
    decide
  | _ => cases h

end IcmpType

namespace IcmpCode

theorem number?_undefined (code : IcmpCode) : code.number? .undefined = none := rfl

theorem ne_undefined_of_number? {type : IcmpType} {code : IcmpCode} (h : code.number? type ≠ none) :
    type ≠ .undefined := by
  rintro rfl
  exact h code.number?_undefined

theorem ofNumber_of_number? {type : IcmpType} {code : IcmpCode} {n : UInt8}
    (h : code.number? type = some n) : ofNumber type n = code := by
  have htype : type ≠ .undefined := ne_undefined_of_number? (by rw [h]; exact Option.some_ne_none n)
  rw [ofNumber, if_neg htype]
  unfold number? at h
  cases hcodes : type.codes? with
  | none =>
    rw [hcodes] at h
    by_cases hcode : code = noCode
    · exact hcode.symm
    · simp [hcode] at h
  | some codes =>
    rw [hcodes] at h
    obtain ⟨i, hi, rfl⟩ := Option.map_eq_some_iff.mp h
    obtain ⟨hlt, hget, -⟩ := List.idxOf?_eq_some_iff.mp hi
    have hlength := IcmpType.length_codes hcodes
    have hindex : (UInt8.ofNat i).toNat = i := by
      rw [UInt8.toNat_ofNat']
      omega
    simp only [hindex, List.getElem?_eq_getElem hlt, Option.getD_some, hget]

theorem number?_undefined_code (type : IcmpType) : undefined.number? type = none := by
  cases type <;> rfl

theorem exists_number?_zero {type : IcmpType} (h : type ≠ .undefined) :
    ∃ code : IcmpCode, code.number? type = some 0 := by
  cases type with
  | undefined => exact absurd rfl h
  | unreached => exact ⟨.netUnreachable, rfl⟩
  | redirect => exact ⟨.redirectNet, rfl⟩
  | timeExceeded => exact ⟨.ttlCountExceeded, rfl⟩
  | _ => exact ⟨.noCode, rfl⟩

section Tables

variable {type : IcmpType} {codes : List IcmpCode} (h : type.codes? = some codes)
include h

theorem number?_ne_none_iff (code : IcmpCode) : code.number? type ≠ none ↔ code ∈ codes := by
  simp [number?, h]

theorem ofNumber_mem (n : UInt8) : ofNumber type n = undefined ∨ ofNumber type n ∈ codes := by
  have htype : type ≠ .undefined := by
    rintro rfl
    cases h
  simp only [ofNumber, if_neg htype, h]
  cases hget : codes[n.toNat]? with
  | none => exact .inl rfl
  | some code => exact .inr (List.mem_of_getElem? hget)

end Tables

theorem ofNumber_of_codeless {type : IcmpType} (htype : type ≠ .undefined)
    (h : type.codes? = none) (n : UInt8) : ofNumber type n = noCode := by
  simp only [ofNumber, if_neg htype, h]

theorem ne_undefined_of_ofNumber {type : IcmpType} {n : UInt8} (h : ofNumber type n ≠ undefined) :
    type ≠ .undefined := by
  rintro rfl
  exact h (if_pos rfl)

/-- A known code has the number that it was read from. Under a type without codes every number is
read as the absent code, and that has the number zero. -/
theorem number?_ofNumber {type : IcmpType} {n : UInt8} (h : ofNumber type n ≠ undefined)
    (hcodeless : type.codes? = none → n = 0) : (ofNumber type n).number? type = some n := by
  have htype := ne_undefined_of_ofNumber h
  cases hcodes : type.codes? with
  | none =>
    rw [ofNumber_of_codeless htype hcodes, hcodeless hcodes]
    simp only [number?, hcodes]
    exact if_pos ⟨htype, trivial⟩
  | some codes =>
    simp only [ofNumber, if_neg htype, hcodes] at h ⊢
    have hlt : n.toNat < codes.length := by
      refine Nat.lt_of_not_le fun hout => h ?_
      rw [List.getElem?_eq_none hout]
      rfl
    have hindex : codes.idxOf? codes[n.toNat] = some n.toNat := by
      refine List.idxOf?_eq_some_iff.mpr ⟨hlt, rfl, fun j hj => ?_⟩
      exact List.pairwise_iff_getElem.mp (IcmpType.nodup_codes hcodes) j n.toNat _ hlt hj
    simp only [number?, hcodes, List.getElem?_eq_getElem hlt, Option.getD_some, hindex,
      Option.map_some, UInt8.ofNat_toNat]

theorem exists_codes {type : IcmpType} {n : UInt8} (hcode : ofNumber type n ≠ noCode)
    (hknown : ofNumber type n ≠ undefined) :
    ∃ codes, type.codes? = some codes ∧ ofNumber type n ∈ codes := by
  cases hcodes : type.codes? with
  | none => exact absurd (ofNumber_of_codeless (ne_undefined_of_ofNumber hknown) hcodes n) hcode
  | some codes =>
    rcases ofNumber_mem hcodes n with hundefined | hmem
    · exact absurd hundefined hknown
    · exact ⟨codes, rfl, hmem⟩

/-- A known code has a number under no type with a table but its own. -/
theorem number?_ofNumber_ne_none_iff {type type' : IcmpType} {n : UInt8}
    (hcode : ofNumber type n ≠ noCode) (hknown : ofNumber type n ≠ undefined)
    (hcodes' : type'.codes? ≠ none) :
    (ofNumber type n).number? type' ≠ none ↔ type = type' := by
  obtain ⟨codes, hcodes, hmem⟩ := exists_codes hcode hknown
  obtain ⟨codes', hcodes'⟩ := Option.ne_none_iff_exists'.mp hcodes'
  rw [number?_ne_none_iff hcodes']
  constructor
  · intro hmem'
    exact IcmpType.eq_of_mem_codes hcodes hcodes' hmem hmem'
  · rintro rfl
    cases hcodes.symm.trans hcodes'
    exact hmem

end IcmpCode

end PacketHeaders

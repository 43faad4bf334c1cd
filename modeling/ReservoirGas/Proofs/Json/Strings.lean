import ReservoirGas.Document.Json

namespace ReservoirGas.Json

theorem hexDigit?_hexChar : ∀ n < 16, Decimal.hexDigit? (hexChar n) = some n := by
  decide

theorem stringUnits_control {c : Char} (hc : c.toNat < 0x20) (r : List Char) :
    stringUnits (['\\', 'u', '0', '0', hexChar (c.toNat / 16), hexChar (c.toNat % 16)] ++ r) =
      (stringUnits r).map fun p ↦ (.inr c.toNat :: p.1, p.2) := by
  have hhigh := hexDigit?_hexChar (c.toNat / 16) (by omega)
  have hlow := hexDigit?_hexChar (c.toNat % 16) (by omega)
  have hvalue : c.toNat / 16 * 16 + c.toNat % 16 = c.toNat := by omega
  have hzero : Decimal.hexDigit? '0' = some 0 := by decide
  have hhex : hex4? '0' '0' (hexChar (c.toNat / 16)) (hexChar (c.toNat % 16)) = some c.toNat := by
    simp [hex4?, hhigh, hlow, hzero, hvalue]
  simp only [List.cons_append, List.nil_append, stringUnits, hhex]
  cases stringUnits r <;> rfl

theorem stringUnits_plain {c : Char} (hquote : c ≠ '"') (hslash : c ≠ '\\') (hc : 0x20 ≤ c.toNat)
    (r : List Char) : stringUnits (c :: r) = (stringUnits r).map fun p ↦ (.inl c :: p.1, p.2) := by
  have hlow : ¬ c.toNat < 0x20 := by omega
  rw [stringUnits.eq_def]
  split
  · rename_i h
    cases h
  · rename_i h
    cases h
    exact absurd rfl hquote
  · rename_i h
    cases h
    exact absurd rfl hslash
  · rename_i h
    cases h
    exact absurd rfl hslash
  · rename_i h
    cases h
    simp only [hlow, hslash, beq_iff_eq, decide_false, Bool.false_or, if_false]
    cases stringUnits r <;> rfl

theorem stringUnits_letter {l c : Char} (hl : l ≠ 'u') (hc : simpleEscape? l = some c) (r : List Char) :
    stringUnits ('\\' :: l :: r) = (stringUnits r).map fun p ↦ (.inl c :: p.1, p.2) := by
  rw [stringUnits.eq_def]
  split
  · rename_i h
    cases h
  · rename_i h
    cases h
  · rename_i h
    cases h
    exact absurd rfl hl
  · rename_i h
    cases h
    rw [hc]
    cases stringUnits r <;> rfl
  · rename_i _ hother h
    cases h
    exact (hother l r rfl rfl).elim

/-- Every character is written as one unit: as itself, also behind a backslash, or as its number. -/
theorem stringUnits_escape (c : Char) (r : List Char) :
    ∃ u, (u = .inl c ∨ u = .inr c.toNat ∧ c.toNat < 0x20) ∧
      stringUnits (escape c ++ r) = (stringUnits r).map fun p ↦ (u :: p.1, p.2) := by
  unfold escape
  split
  · exact ⟨.inl _, .inl rfl, stringUnits_letter (by decide) rfl r⟩
  · exact ⟨.inl _, .inl rfl, stringUnits_letter (by decide) rfl r⟩
  · exact ⟨.inl _, .inl rfl, stringUnits_letter (by decide) rfl r⟩
  · exact ⟨.inl _, .inl rfl, stringUnits_letter (by decide) rfl r⟩
  · exact ⟨.inl _, .inl rfl, stringUnits_letter (by decide) rfl r⟩
  · exact ⟨.inl _, .inl rfl, stringUnits_letter (by decide) rfl r⟩
  · exact ⟨.inl _, .inl rfl, stringUnits_letter (by decide) rfl r⟩
  · rename_i hquote hslash _ _ _ _ _
    split
    · rename_i hc
      exact ⟨.inr c.toNat, .inr ⟨rfl, hc⟩, stringUnits_control hc r⟩
    · rename_i hc
      exact ⟨.inl c, .inl rfl, stringUnits_plain hquote hslash (by omega) r⟩

theorem joinUnits_control {n : Nat} (hn : n < 0x20) (us : List (Char ⊕ Nat)) :
    joinUnits (.inr n :: us) = (joinUnits us).map (Char.ofNat n :: ·) := by
  have hhigh : isHighSurrogate n = false := by
    simp [isHighSurrogate]
    omega
  have hlow : isLowSurrogate n = false := by
    simp [isLowSurrogate]
    omega
  cases us with
  | nil => simp [joinUnits, hhigh, hlow]
  | cons u us =>
    cases u with
    | inl c => simp [joinUnits, hhigh, hlow]
    | inr m => simp [joinUnits, hhigh, hlow]

theorem exists_units (cs r : List Char) :
    ∃ us, stringUnits (cs.flatMap escape ++ '"' :: r) = some (us, r) ∧ joinUnits us = some cs := by
  induction cs with
  | nil => exact ⟨[], rfl, rfl⟩
  | cons c cs ih =>
    obtain ⟨us, hus, hjoin⟩ := ih
    obtain ⟨u, hu, hunits⟩ := stringUnits_escape c (cs.flatMap escape ++ '"' :: r)
    refine ⟨u :: us, ?_, ?_⟩
    · rw [List.flatMap_cons, List.append_assoc, hunits, hus]
      rfl
    · rcases hu with rfl | ⟨rfl, hc⟩
      · rw [joinUnits, hjoin]
        rfl
      · rw [joinUnits_control hc, hjoin, Char.ofNat_toNat]
        rfl

theorem string?_escape (s : String) (r : List Char) :
    string? (s.toList.flatMap escape ++ '"' :: r) = some (.text s, r) := by
  obtain ⟨us, hus, hjoin⟩ := exists_units s.toList r
  simp [string?, hus, hjoin]

end ReservoirGas.Json

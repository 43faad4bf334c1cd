import ReservoirGas.Proofs.Binary64.Rounding

namespace ReservoirGas.Binary64

open Float.Model UnpackedFloat
open Float.Model.Format (exponentBias mantissaBitsWithoutImplicit)

def IsCanonical : UnpackedFloat → Prop
  | .finite _ m e _ => m < 2 ^ 53 ∧ -1074 ≤ e ∧ (2 ^ 52 ≤ m ∨ e = -1074)
  | _ => True

theorem isCanonical_carry {v : ℚ} {r : ℕ} {e : ℤ} (h : Rounds v r e) (s : Sign) : IsCanonical (carry s r e) := by
  rw [carry]
  split
  · trivial
  · split
    · rename_i hlt
      refine ⟨hlt, h.min_le, ?_⟩
      rcases h.normal with hnormal | hleast
      · exact .inl (h.lower _ (by exact_mod_cast hnormal))
      · exact .inr hleast
    · have hmin := h.min_le
      exact ⟨by decide, by omega, .inl le_rfl⟩

theorem toNat_append_one (m : BitVec 52) : (1#1 ++ m).toNat = 2 ^ 52 + m.toNat := by
  rw [BitVec.toNat_append, ← Nat.shiftLeft_add_eq_or_of_lt m.isLt]
  rfl

theorem toNat_pos_of_ne {m : BitVec 52} (h : m ≠ 0#52) : 0 < m.toNat := by
  simpa [BitVec.toNat_pos, BitVec.pos_iff_ne_zero] using h

theorem unpack_packComponents (s : Sign) (e : BitVec 11) (m : BitVec 52) :
    UnpackedFloat.unpack .binary64 (packComponents .binary64 s e m) =
      if e = -1#11 then if m = 0#52 then .infinity s else .notANumber
      else if e = 0#11 then
        if h : m = 0#52 then .zero s else .finite s m.toNat (-1074) (toNat_pos_of_ne h)
      else .finite s (2 ^ 52 + m.toNat) (e.toNat - 1075) (by omega) := by
  have hbias : (exponentBias .binary64 : ℤ) = 1023 := rfl
  rw [UnpackedFloat.unpack]
  simp only [unpackMantissa_packComponents, unpackExponent_packComponents, unpackSign_packComponents,
    Sign.ofBitVec_toBitVec, hbias]
  by_cases hmax : e = -1#11
  · rw [if_pos hmax, if_pos hmax]
  · rw [if_neg hmax, if_neg hmax]
    by_cases hzero : e = 0#11
    · rw [if_pos hzero, if_pos hzero]
      by_cases hm : m = 0#52
      · rw [dif_pos hm, dif_pos hm]
      · rw [dif_neg hm, dif_neg hm, hzero]
        rfl
    · rw [if_neg hzero, if_neg hzero]
      congr 1
      exact toNat_append_one m

theorem isCanonical_unpack (b : BitVec 64) : IsCanonical (UnpackedFloat.unpack .binary64 b) := by
  have hmantissa : (@unpackMantissa .binary64 b).toNat < 2 ^ 52 := BitVec.isLt _
  rw [UnpackedFloat.unpack]
  dsimp only
  split
  · split <;> trivial
  · split
    · split
      · trivial
      · rename_i hzero _
        rw [hzero]
        exact ⟨by omega, by decide, .inr (by decide)⟩
    · rename_i hzero
      have hexponent : (@unpackExponent .binary64 b).toNat ≠ 0 := fun h ↦
        hzero (BitVec.eq_of_toNat_eq h)
      have hbias : (exponentBias .binary64 : ℤ) + mantissaBitsWithoutImplicit .binary64 = 1075 := rfl
      refine ⟨?_, ?_, .inl ?_⟩
      · rw [toNat_append_one]
        omega
      · rw [hbias]
        omega
      · rw [toNat_append_one]
        omega

theorem exponent_le_of_unpack {b : BitVec 64} {s : Sign} {m : ℕ} {e : ℤ} {hm : 0 < m}
    (h : UnpackedFloat.unpack .binary64 b = .finite s m e hm) : e ≤ 971 := by
  have hbias : (exponentBias .binary64 : ℤ) + mantissaBitsWithoutImplicit .binary64 = 1075 := rfl
  have hlt : (@unpackExponent .binary64 b).toNat < 2 ^ 11 := BitVec.isLt _
  rw [UnpackedFloat.unpack] at h
  dsimp only at h
  split at h
  · split at h <;> cases h
  · rename_i hmax
    have hexponent : (@unpackExponent .binary64 b).toNat ≠ 2 ^ 11 - 1 := fun h ↦
      hmax (BitVec.eq_of_toNat_eq h)
    split at h
    · rename_i hzero
      split at h
      · cases h
      · rw [hzero] at h
        cases h
        decide
    · cases h
      rw [hbias]
      omega

theorem pack_finite (s : Sign) (m : ℕ) (e : ℤ) (hm : 0 < m) :
    UnpackedFloat.pack .binary64 (.finite s m e hm) =
      if 2 ^ 11 ≤ (e + 1075).toNat + 1 then packComponents .binary64 s (-1#11) 0#52
      else if m.log2 + 1 = 53 then
        packComponents .binary64 s (BitVec.ofNat 11 (e + 1075).toNat) (BitVec.ofNat 52 m)
      else packComponents .binary64 s 0#11 (BitVec.ofNat 52 m) := by
  have hbias : e + (exponentBias .binary64 : ℤ) + mantissaBitsWithoutImplicit .binary64 =
      e + 1075 := by
    rw [add_assoc]
    rfl
  rw [UnpackedFloat.pack, hbias]
  rfl

theorem unpack_normal (s : Sign) {m b : ℕ} (hm : 0 < m) (hbits : 2 ^ 52 ≤ m) (hlt : m < 2 ^ 53) (hb : 0 < b)
    (hb' : b < 2047) : UnpackedFloat.unpack .binary64 (packComponents .binary64 s (BitVec.ofNat 11 b)
      (BitVec.ofNat 52 m)) = .finite s m (b - 1075) hm := by
  have hexponent : (BitVec.ofNat 11 b).toNat = b := by
    rw [BitVec.toNat_ofNat, Nat.mod_eq_of_lt (by omega)]
  have hmantissa : 2 ^ 52 + (BitVec.ofNat 52 m).toNat = m := by
    rw [BitVec.toNat_ofNat]
    omega
  have hmax : BitVec.ofNat 11 b ≠ -1#11 := by
    intro hmax
    have hmax' : b = 2047 := by rw [← hexponent, hmax]; rfl
    omega
  have hzero : BitVec.ofNat 11 b ≠ 0#11 := by
    intro hzero
    have hzero' : b = 0 := by rw [← hexponent, hzero]; rfl
    omega
  rw [unpack_packComponents, if_neg hmax, if_neg hzero]
  congr 1
  omega

theorem unpack_subnormal (s : Sign) {m : ℕ} (hm : 0 < m) (hlt : m < 2 ^ 52) :
    UnpackedFloat.unpack .binary64 (packComponents .binary64 s 0#11 (BitVec.ofNat 52 m)) =
      .finite s m (-1074) hm := by
  have hmantissa : (BitVec.ofNat 52 m).toNat = m := by
    rw [BitVec.toNat_ofNat, Nat.mod_eq_of_lt hlt]
  have hne : BitVec.ofNat 52 m ≠ 0#52 := by
    intro hzero
    have hzero' : m = 0 := by rw [← hmantissa, hzero]; rfl
    omega
  have hmax : (0#11 : BitVec 11) ≠ -1#11 := by decide
  rw [unpack_packComponents, if_neg hmax, if_pos rfl, dif_neg hne]
  congr 1

/-- Packed and unpacked again, a number is what it was, or infinite if it was too large. -/
theorem unpack_pack {f : UnpackedFloat} (h : IsCanonical f) :
    UnpackedFloat.unpack .binary64 (UnpackedFloat.pack .binary64 f) = f ∨
    ∃ s m e hm, f = .finite s m e hm ∧ 972 ≤ e ∧
      UnpackedFloat.unpack .binary64 (UnpackedFloat.pack .binary64 f) = .infinity s := by
  cases f with
  | notANumber => exact .inl rfl
  | infinity s => cases s <;> exact .inl rfl
  | zero s => cases s <;> exact .inl rfl
  | finite s m e hm =>
    obtain ⟨hlt, hmin, hnormal⟩ := h
    rw [pack_finite]
    by_cases hlarge : 2 ^ 11 ≤ (e + 1075).toNat + 1
    · right
      refine ⟨s, m, e, hm, rfl, by omega, ?_⟩
      rw [if_pos hlarge, unpack_packComponents]
      rfl
    · left
      rw [if_neg hlarge]
      by_cases hlog : m.log2 + 1 = 53
      · have hbits : 2 ^ 52 ≤ m := (Nat.le_log2 hm.ne').mp (by omega)
        rw [if_pos hlog, unpack_normal s hm hbits hlt (by omega) (by omega)]
        congr 1
        omega
      · have hlog' : m.log2 < 53 := (Nat.log2_lt hm.ne').mpr hlt
        have hsmall : m < 2 ^ 52 := (Nat.log2_lt hm.ne').mp (by omega)
        rw [if_neg hlog, unpack_subnormal s hm hsmall]
        congr 1
        omega

end ReservoirGas.Binary64

import ReservoirGas.Proofs.Binary64.Bounds

namespace ReservoirGas.Binary64

/-- The number `x` is so small that its inverse is beyond the format. -/
def Negligible (x : Float) : Prop :=
  ∃ v, toRat? x = some v ∧ v ≤ 2 ^ (-1024 : ℤ)

theorem representable_largest : Representable largest :=
  OnGrid.representable ⟨2 ^ 53 - 1, 971, by decide, by decide, rfl⟩

theorem OnGrid.next_le {t : ℚ} (h : OnGrid t) (ht : 2 ^ (-1024 : ℤ) < t) :
    (2 ^ 50 + 1 : ℕ) * 2 ^ (-1074 : ℤ) ≤ t := by
  -- in units of `2 ^ -1074`, of which every number of the format is a multiple
  obtain ⟨a, j, -, hj, rfl⟩ := h
  rw [natCast_mul_zpow a hj] at ht ⊢
  have hunits : (2 : ℚ) ^ (-1024 : ℤ) = (2 ^ 50 : ℕ) * 2 ^ (-1074 : ℤ) := by
    rw [Nat.cast_pow, mul_comm]
    exact two_zpow_add (-1074) 50
  rw [hunits] at ht
  have hlt := lt_of_mul_lt_mul_right ht (two_zpow_pos _).le
  have hle : 2 ^ 50 + 1 ≤ a * 2 ^ (j - -1074).toNat := by exact_mod_cast hlt
  have hle' : ((2 ^ 50 + 1 : ℕ) : ℚ) ≤ (a * 2 ^ (j - -1074).toNat : ℕ) := by exact_mod_cast hle
  exact mul_le_mul_of_nonneg_right hle' (two_zpow_pos _).le

theorem one_div_le_largest {v : ℚ} (h : (2 ^ 50 + 1 : ℕ) * 2 ^ (-1074 : ℤ) ≤ v) : 1 / v ≤ largest := by
  have hpos : (0 : ℚ) < (2 ^ 50 + 1 : ℕ) * 2 ^ (-1074 : ℤ) := mul_pos (by norm_num) (two_zpow_pos _)
  have hpow : (2 : ℚ) ^ (971 : ℤ) * 2 ^ (-1074 : ℤ) = 2 ^ (-103 : ℤ) := by
    rw [← zpow_add₀ (by norm_num)]
    rfl
  calc 1 / v ≤ 1 / ((2 ^ 50 + 1 : ℕ) * 2 ^ (-1074 : ℤ)) := one_div_le_one_div_of_le hpos h
    _ ≤ largest := by
      rw [div_le_iff₀ hpos, largest]
      calc (1 : ℚ) ≤ (2 ^ 53 - 1 : ℕ) * (2 ^ 50 + 1 : ℕ) * 2 ^ (-103 : ℤ) := by norm_num
        _ = (2 ^ 53 - 1 : ℕ) * 2 ^ (971 : ℤ) * ((2 ^ 50 + 1 : ℕ) * 2 ^ (-1074 : ℤ)) := by
          rw [← hpow]
          ring

variable {x y : Float}

theorem toRat?_eq_none_of_isInfinite (h : IsInfinite x) : toRat? x = none := by
  obtain ⟨s, hs⟩ := h
  rw [toRat?, hs]
  rfl

theorem isFinite_one_div_of_lt {v : ℚ} (hx : toRat? x = some v) (hv : 2 ^ (-1024 : ℤ) < v) :
    Scalar.isFinite (Scalar.one / x) = true := by
  have hpos : 0 < v := (two_zpow_pos _).trans hv
  have hgrid : OnGrid v := (representable_of_toRat? hx).onGrid hpos.le
  have hle : |1 / v| ≤ largest := by
    rw [abs_of_pos (one_div_pos.mpr hpos)]
    exact one_div_le_largest (hgrid.next_le hv)
  obtain ⟨w, hw, -⟩ :=
    (computes_div toRat?_one hx hpos.ne').exists_rounded representable_largest hle largest_lt
  exact isFinite_iff.mpr ⟨w, hw⟩

theorem not_isFinite_one_div_of_le {v : ℚ} (hx : toRat? x = some v) (hnonneg : 0 ≤ v)
    (hv : v ≤ 2 ^ (-1024 : ℤ)) : ¬ Scalar.isFinite (Scalar.one / x) = true := by
  intro hfinite
  obtain ⟨w, hw⟩ := isFinite_iff.mp hfinite
  rcases hnonneg.eq_or_lt with rfl | hpos
  · rw [toRat?_div_zero _ hx] at hw
    cases hw
  · have hinverse : (2 : ℚ) ^ (1024 : ℤ) ≤ 1 / v := by
      rw [le_div_iff₀ hpos]
      calc (2 : ℚ) ^ (1024 : ℤ) * v ≤ 2 ^ (1024 : ℤ) * 2 ^ (-1024 : ℤ) := by gcongr
        _ = 1 := by
          rw [← zpow_add₀ (by norm_num)]
          rfl
    have hlarge : (2 : ℚ) ^ (1024 : ℤ) ≤ w := (computes_div toRat?_one hx hpos.ne').le_of_ge hw
      (onGrid_two_zpow (by decide)).representable hinverse
    have hsmall := (le_abs_self w).trans_lt (abs_lt_of_toRat? hw)
    exact absurd hsmall (not_lt.mpr (by exact_mod_cast hlarge))

theorem isFinite_one_div_iff (h : NonNegative x ∨ IsInfinite x) :
    Scalar.isFinite (Scalar.one / x) = true ↔ ¬ Negligible x := by
  rcases h with hnonneg | hinfinite
  · obtain ⟨v, hx, hv⟩ := nonNegative_iff.mp hnonneg
    constructor
    · intro hfinite hnegligible
      obtain ⟨v', hx', hsmall⟩ := hnegligible
      cases hx.symm.trans hx'
      exact not_isFinite_one_div_of_le hx hv hsmall hfinite
    · intro hnegligible
      refine isFinite_one_div_of_lt hx (lt_of_not_ge fun hsmall ↦ ?_)
      exact hnegligible ⟨v, hx, hsmall⟩
  · constructor
    · intro _ hnegligible
      obtain ⟨v, hx, -⟩ := hnegligible
      rw [toRat?_eq_none_of_isInfinite hinfinite] at hx
      cases hx
    · intro _
      exact isFinite_iff.mpr ⟨0, toRat?_div_isInfinite toRat?_one hinfinite⟩

theorem nonNegative_mul (hx : Scalar.isPositive x = true) (hy : Scalar.isPositive y = true) :
    NonNegative (x * y) ∨ IsInfinite (x * y) := by
  obtain ⟨a, hx, ha⟩ := isPositive_iff.mp hx
  obtain ⟨b, hy, hb⟩ := isPositive_iff.mp hy
  obtain ⟨w, hrounded, hw | ⟨-, hinfinite⟩⟩ := computes_mul hx hy
  · left
    exact nonNegative_iff.mpr ⟨w, hw, hrounded.le_of_ge 0 representable_zero (mul_pos ha hb).le⟩
  · exact .inr hinfinite

end ReservoirGas.Binary64

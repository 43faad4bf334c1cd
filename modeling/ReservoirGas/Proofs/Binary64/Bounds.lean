import ReservoirGas.Proofs.Binary64.Values

namespace ReservoirGas.Binary64

section Numbers

variable {t : ℚ}

theorem OnGrid.nonneg (h : OnGrid t) : 0 ≤ t := by
  obtain ⟨a, j, -, -, rfl⟩ := h
  exact mul_nonneg (Nat.cast_nonneg a) (two_zpow_pos j).le

theorem OnGrid.representable (h : OnGrid t) : Representable t := by
  rwa [Representable, abs_of_nonneg h.nonneg]

theorem Representable.onGrid (h : Representable t) (ht : 0 ≤ t) : OnGrid t := by
  rwa [Representable, abs_of_nonneg ht] at h

theorem onGrid_mul_zpow {n : ℕ} {j : ℤ} (hn : n ≤ 2 ^ 53) (hj : -1074 ≤ j) : OnGrid (n * 2 ^ j) := by
  rcases Nat.lt_or_eq_of_le hn with hlt | rfl
  · exact ⟨n, j, hlt, hj, rfl⟩
  · refine ⟨2 ^ 52, j + 1, by decide, by omega, ?_⟩
    rw [zpow_add₀ (by norm_num)]
    push_cast
    ring

theorem onGrid_two_zpow {j : ℤ} (hj : -1074 ≤ j) : OnGrid (2 ^ j) := by
  simpa using onGrid_mul_zpow (n := 1) (by decide) hj

theorem representable_natCast {n : ℕ} (hn : n < 2 ^ 53) : Representable n :=
  OnGrid.representable ⟨n, 0, hn, by decide, by simp⟩

theorem representable_zero : Representable 0 := by
  exact_mod_cast representable_natCast (n := 0) (by decide)

theorem representable_one : Representable 1 := by
  exact_mod_cast representable_natCast (n := 1) (by decide)

theorem representable_two : Representable 2 := by
  exact_mod_cast representable_natCast (n := 2) (by decide)

theorem two_lt : (2 : ℚ) < 2 ^ 1024 :=
  calc (2 : ℚ) < 2 ^ 2 := by norm_num
    _ ≤ 2 ^ 1024 := pow_le_pow_right₀ (by norm_num) (by norm_num)

theorem OnGrid.least_le (h : OnGrid t) (ht : 0 < t) : 2 ^ (-1074 : ℤ) ≤ t := by
  obtain ⟨a, j, -, hj, rfl⟩ := h
  have hpow := two_zpow_pos j
  have ha : 1 ≤ a := by
    rw [Nat.one_le_iff_ne_zero]
    rintro rfl
    simp at ht
  have ha' : (1 : ℚ) ≤ a := by exact_mod_cast ha
  calc (2 : ℚ) ^ (-1074 : ℤ) ≤ 2 ^ j := zpow_le_zpow_right₀ (by norm_num) hj
    _ ≤ a * 2 ^ j := le_mul_of_one_le_left hpow.le ha'

theorem toRat?_one : toRat? (Scalar.one : Float) = some 1 := by
  have hvalue : toRat? (Scalar.one : Float) = some ((2 ^ 52 : ℕ) * 2 ^ (-52 : ℤ) : ℚ) := rfl
  rw [hvalue]
  norm_num

theorem toRat?_two : toRat? (Scalar.two : Float) = some 2 := by
  have hvalue : toRat? (Scalar.two : Float) = some ((2 ^ 52 : ℕ) * 2 ^ (-51 : ℤ) : ℚ) := rfl
  rw [hvalue]
  norm_num

end Numbers

section Results

variable {v w t : ℚ} {x y : Float} {a b : ℚ}

theorem Rounded.abs_le_of_abs_le (h : Rounded v w) (ht : Representable t) (hv : |v| ≤ t) : |w| ≤ t := by
  obtain ⟨hlow, hhigh⟩ := abs_le.mp hv
  exact abs_le.mpr ⟨h.le_of_ge (-t) ht.neg hlow, h.le_of_le t ht hhigh⟩

theorem Computes.rounded (h : Computes v x) (hw : toRat? x = some w) : Rounded v w := by
  obtain ⟨w', hrounded, hw' | ⟨-, s, hs⟩⟩ := h
  · rw [hw] at hw'
    cases hw'
    exact hrounded
  · rw [toRat?, hs] at hw
    cases hw

theorem Computes.le_of_ge (h : Computes v x) (hw : toRat? x = some w) (ht : Representable t) (hv : t ≤ v) :
    t ≤ w :=
  (h.rounded hw).le_of_ge t ht hv

/-- An operation whose exact result is no larger than a finite number gives a finite number. -/
theorem Computes.exists_rounded (h : Computes v x) (ht : Representable t) (hvt : |v| ≤ t)
    (hsize : t < 2 ^ 1024) : ∃ w, toRat? x = some w ∧ Rounded v w := by
  obtain ⟨w, hrounded, hw | ⟨hlarge, -⟩⟩ := h
  · exact ⟨w, hw, hrounded⟩
  · exact absurd hlarge ((hrounded.abs_le_of_abs_le ht hvt).trans_lt hsize).not_ge

theorem exists_difference (hx : toRat? x = some a) (hy : toRat? y = some b) (ha : 0 < a) (hb : 0 < b) :
    ∃ w, toRat? (x - y) = some w ∧ Rounded (a - b) w := by
  have hsub := computes_sub hx hy
  rcases le_total a b with hab | hba
  · apply hsub.exists_rounded (representable_of_toRat? hy)
    · rw [abs_of_nonpos] <;> linarith
    · exact (le_abs_self b).trans_lt (abs_lt_of_toRat? hy)
  · apply hsub.exists_rounded (representable_of_toRat? hx)
    · rw [abs_of_nonneg] <;> linarith
    · exact (le_abs_self a).trans_lt (abs_lt_of_toRat? hx)

theorem isInfinite_div_two (h : IsInfinite x) : IsInfinite (x / Scalar.two) := by
  obtain ⟨s, hs⟩ := h
  have hdiv : (x / Scalar.two).toModel.unpack = (Float.Model.pack (.div .binary64 x.toModel.unpack
    (Scalar.two : Float).toModel.unpack)).unpack := rfl
  refine ⟨s, ?_⟩
  rw [hdiv, hs]
  cases s <;> rfl

theorem exists_mean (hx : toRat? x = some a) (hy : toRat? y = some b) (ht : OnGrid t)
    (ht' : OnGrid (2 * t)) (hle : 2 * t ≤ a + b) :
    IsInfinite ((x + y) / Scalar.two) ∨ ∃ w, toRat? ((x + y) / Scalar.two) = some w ∧ t ≤ w := by
  obtain ⟨w, hrounded, hw | ⟨-, hinfinite⟩⟩ := computes_add hx hy
  · have hsum : 2 * t ≤ w := hrounded.le_of_ge _ ht'.representable hle
    obtain ⟨w', hrounded', hw' | ⟨-, hinfinite'⟩⟩ := computes_div hw toRat?_two two_ne_zero
    · right
      refine ⟨w', hw', hrounded'.le_of_ge _ ht.representable ?_⟩
      linarith
    · exact .inl hinfinite'
  · exact .inl (isInfinite_div_two hinfinite)

theorem isPositive_iff : Scalar.isPositive x = true ↔ ∃ v, toRat? x = some v ∧ 0 < v := by
  rw [Scalar.isPositive, Bool.and_eq_true, isFinite_iff]
  constructor
  · intro h
    obtain ⟨⟨v, hv⟩, hlt⟩ := h
    exact ⟨v, hv, (lt_zero_iff hv).mp hlt⟩
  · intro h
    obtain ⟨v, hv, hpos⟩ := h
    exact ⟨⟨v, hv⟩, (lt_zero_iff hv).mpr hpos⟩

def NonNegative (x : Float) : Prop :=
  Scalar.isFinite x = true ∧ Scalar.le Scalar.zero x = true

theorem nonNegative_iff : NonNegative x ↔ ∃ v, toRat? x = some v ∧ 0 ≤ v := by
  rw [NonNegative, isFinite_iff]
  constructor
  · intro h
    obtain ⟨⟨v, hv⟩, hle⟩ := h
    exact ⟨v, hv, (le_zero_iff hv).mp hle⟩
  · intro h
    obtain ⟨v, hv, hnonneg⟩ := h
    exact ⟨⟨v, hv⟩, (le_zero_iff hv).mpr hnonneg⟩

theorem nonNegative_of_isPositive (h : Scalar.isPositive x = true) : NonNegative x := by
  obtain ⟨v, hv, hpos⟩ := isPositive_iff.mp h
  exact nonNegative_iff.mpr ⟨v, hv, hpos.le⟩

/-- A finite inverse is positive, because zero has none and no number is so large that its inverse is. -/
theorem isPositive_one_div (h : NonNegative x) (hfinite : Scalar.isFinite (Scalar.one / x) = true) :
    Scalar.isPositive (Scalar.one / x) = true := by
  obtain ⟨v, hv, hnonneg⟩ := nonNegative_iff.mp h
  obtain ⟨w, hw⟩ := isFinite_iff.mp hfinite
  rcases hnonneg.eq_or_lt with rfl | hpos
  · rw [toRat?_div_zero _ hv] at hw
    cases hw
  · have hsize : v < 2 ^ 1024 := (le_abs_self v).trans_lt (abs_lt_of_toRat? hv)
    have hinverse : (2 : ℚ) ^ (-1024 : ℤ) ≤ 1 / v := by
      rw [le_div_iff₀ hpos, zpow_neg, inv_mul_le_iff₀ (two_zpow_pos _), mul_one]
      exact_mod_cast hsize.le
    have hle : (2 : ℚ) ^ (-1024 : ℤ) ≤ w := (computes_div toRat?_one hv hpos.ne').le_of_ge hw
      (onGrid_two_zpow (by decide)).representable hinverse
    exact isPositive_iff.mpr ⟨w, hw, (two_zpow_pos _).trans_le hle⟩

end Results

end ReservoirGas.Binary64

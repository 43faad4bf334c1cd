import ReservoirGas.Units
import Mathlib

namespace ReservoirGas.Binary64

open Float.Model UnpackedFloat
open Float.Model.Format (mantissaBits minExponent targetExponent)

/-- The number `v` is rounded to `r * 2 ^ e`. -/
structure Rounds (v : ℚ) (r : ℕ) (e : ℤ) : Prop where
  min_le : -1074 ≤ e
  le : r ≤ 2 ^ 53
  normal : 2 ^ 52 * 2 ^ e ≤ v ∨ e = -1074
  upper : ∀ n : ℕ, v ≤ n * 2 ^ e → r ≤ n
  lower : ∀ n : ℕ, n * 2 ^ e ≤ v → n ≤ r

def OnGrid (t : ℚ) : Prop :=
  ∃ (a : ℕ) (j : ℤ), a < 2 ^ 53 ∧ -1074 ≤ j ∧ t = a * 2 ^ j

theorem two_zpow_pos (e : ℤ) : (0 : ℚ) < 2 ^ e :=
  zpow_pos (by norm_num) e

theorem two_zpow_add (e : ℤ) (k : ℕ) : (2 : ℚ) ^ (e + k) = 2 ^ e * 2 ^ k := by
  rw [zpow_add₀ (by norm_num), zpow_natCast]

theorem two_pow_mul_zpow {k n : ℕ} {j : ℤ} (h : k + j = n) : (2 : ℚ) ^ k * 2 ^ j = 2 ^ n := by
  rw [← zpow_natCast, ← zpow_add₀ (by norm_num), h, zpow_natCast]

theorem natCast_mul_zpow (a : ℕ) {j e : ℤ} (h : e ≤ j) :
    (a : ℚ) * 2 ^ j = (a * 2 ^ (j - e).toNat : ℕ) * 2 ^ e := by
  have hj : (2 : ℚ) ^ j = 2 ^ e * 2 ^ (j - e).toNat := by
    rw [← two_zpow_add]
    congr 1
    omega
  rw [hj]
  push_cast
  ring

namespace Rounds

variable {v t : ℚ} {r : ℕ} {e : ℤ}

theorem lt_of_finer {a : ℕ} {j : ℤ} (ha : a < 2 ^ 53) (hje : j < e) : (a * 2 ^ j : ℚ) < 2 ^ 52 * 2 ^ e := by
  have hj : (0 : ℚ) < 2 ^ j := two_zpow_pos j
  have ha' : (a : ℚ) < 2 ^ 53 := by exact_mod_cast ha
  calc (a * 2 ^ j : ℚ) < 2 ^ 53 * 2 ^ j := mul_lt_mul_of_pos_right ha' hj
    _ = 2 ^ 52 * 2 ^ (j + 1) := by
      rw [zpow_add₀ (by norm_num)]
      norm_num
      ring
    _ ≤ 2 ^ 52 * 2 ^ e := by
      have hstep : (2 : ℚ) ^ (j + 1) ≤ 2 ^ e := zpow_le_zpow_right₀ (by norm_num) hje
      linarith

/-- Where the grid is coarser than that of a number of the format, what is rounded is larger. -/
theorem normal_of_finer (h : Rounds v r e) {j : ℤ} (hj : -1074 ≤ j) (hje : j < e) : 2 ^ 52 * 2 ^ e ≤ v := by
  rcases h.normal with hnormal | hleast
  · exact hnormal
  · omega

theorem le_of_le (h : Rounds v r e) (ht : OnGrid t) (hv : v ≤ t) : r * 2 ^ e ≤ t := by
  obtain ⟨a, j, ha, hj, rfl⟩ := ht
  rcases le_or_gt e j with hej | hje
  · rw [natCast_mul_zpow a hej] at hv ⊢
    have hr := h.upper _ hv
    gcongr
  · have hlarge := h.normal_of_finer hj hje
    have hsmall : (a * 2 ^ j : ℚ) < 2 ^ 52 * 2 ^ e := lt_of_finer ha hje
    linarith

theorem le_of_ge (h : Rounds v r e) (ht : OnGrid t) (hv : t ≤ v) : t ≤ r * 2 ^ e := by
  obtain ⟨a, j, ha, hj, rfl⟩ := ht
  rcases le_or_gt e j with hej | hje
  · rw [natCast_mul_zpow a hej] at hv ⊢
    have hr := h.lower _ hv
    gcongr
  · have hr : 2 ^ 52 ≤ r := by
      apply h.lower
      push_cast
      exact h.normal_of_finer hj hje
    have hr' : (2 ^ 52 : ℚ) ≤ r := by exact_mod_cast hr
    have hsmall : (a * 2 ^ j : ℚ) < 2 ^ 52 * 2 ^ e := lt_of_finer ha hje
    have he : (0 : ℚ) < 2 ^ e := two_zpow_pos e
    calc (a * 2 ^ j : ℚ) ≤ 2 ^ 52 * 2 ^ e := hsmall.le
      _ ≤ r * 2 ^ e := mul_le_mul_of_nonneg_right hr' he.le

end Rounds

theorem mantissa_le_rounded (em : ExtendedMantissa) : em.mantissa ≤ em.roundedMantissa := by
  obtain ⟨m, roundBit, stickyBit⟩ := em
  cases roundBit <;> cases stickyBit <;>
    simp [ExtendedMantissa.roundedMantissa, ExtendedMantissa.accuracy, Accuracy.roundToNearestEven]

theorem rounded_le_mantissa (em : ExtendedMantissa) :
    em.roundedMantissa ≤ em.mantissa + if em.roundBit = false ∧ em.stickyBit = false then 0 else 1 := by
  obtain ⟨m, roundBit, stickyBit⟩ := em
  cases roundBit <;> cases stickyBit <;>
    simp [ExtendedMantissa.roundedMantissa, ExtendedMantissa.accuracy, Accuracy.roundToNearestEven]
  omega

/-- The mantissa of `em` is the whole part of `num / den`, and all of it if no residual bit is set. -/
structure Truncates (em : ExtendedMantissa) (num den : ℕ) : Prop where
  mantissa : em.mantissa = num / den
  exact_iff : em.roundBit = false ∧ em.stickyBit = false ↔ den ∣ num

namespace Truncates

variable {em : ExtendedMantissa} {num den : ℕ}

theorem start (num den : ℕ) :
    Truncates (.ofMantissaAndAccuracy (num / den) (accuracyOfFraction (num % den) den)) num den := by
  rw [accuracyOfFraction]
  split
  · rename_i h
    exact ⟨rfl, iff_of_true ⟨rfl, rfl⟩ (Nat.dvd_of_mod_eq_zero h)⟩
  · rename_i h
    have hdvd : ¬ den ∣ num := fun hdvd ↦ h (Nat.mod_eq_zero_of_dvd hdvd)
    cases compare (2 * (num % den)) den <;>
      exact ⟨rfl, iff_of_false (by simp [ExtendedMantissa.ofMantissaAndAccuracy]) hdvd⟩

theorem shiftRightOne (h : Truncates em num den) : Truncates em.shiftRightOne num (den * 2) where
  mantissa := by
    rw [ExtendedMantissa.shiftRightOne, h.mantissa, Nat.div_div_eq_div_mul]
  exact_iff := by
    have hbits : em.shiftRightOne.roundBit = false ∧ em.shiftRightOne.stickyBit = false ↔
        2 ∣ em.mantissa ∧ em.roundBit = false ∧ em.stickyBit = false := by
      simp [ExtendedMantissa.shiftRightOne, Nat.dvd_iff_mod_eq_zero]
    rw [hbits, h.exact_iff, h.mantissa]
    constructor
    · intro hdvd
      obtain ⟨htwo, hden⟩ := hdvd
      exact (Nat.dvd_div_iff_mul_dvd hden).mp htwo
    · intro hdvd
      have hden : den ∣ num := dvd_of_mul_right_dvd hdvd
      exact ⟨(Nat.dvd_div_iff_mul_dvd hden).mpr hdvd, hden⟩

theorem shiftRight (h : Truncates em num den) (k : ℕ) : Truncates (em >>> k) num (den * 2 ^ k) := by
  change Truncates (k.repeat ExtendedMantissa.shiftRightOne em) num (den * 2 ^ k)
  induction k with
  | zero =>
    rw [pow_zero, mul_one]
    exact h
  | succ k ih =>
    rw [pow_succ, ← mul_assoc]
    exact ih.shiftRightOne

theorem rounded_le (h : Truncates em num den) {n : ℕ} (hn : num ≤ n * den) : em.roundedMantissa ≤ n := by
  have hle := rounded_le_mantissa em
  rw [h.mantissa] at hle
  by_cases hdvd : den ∣ num
  · rw [if_pos (h.exact_iff.mpr hdvd)] at hle
    exact hle.trans (Nat.div_le_of_le_mul (by rwa [mul_comm]))
  · rw [if_neg (mt h.exact_iff.mp hdvd)] at hle
    have hlt : num < den * n := by
      rw [mul_comm]
      apply lt_of_le_of_ne hn
      rintro rfl
      exact hdvd (dvd_mul_left den n)
    exact hle.trans (Nat.div_lt_of_lt_mul hlt)

theorem le_rounded (h : Truncates em num den) (hden : 0 < den) {n : ℕ} (hn : n * den ≤ num) :
    n ≤ em.roundedMantissa := by
  have hmantissa : n ≤ em.mantissa := by
    rw [h.mantissa]
    exact (Nat.le_div_iff_mul_le hden).mpr hn
  exact hmantissa.trans (mantissa_le_rounded em)

end Truncates

def carry (s : Sign) (r : ℕ) (e : ℤ) : UnpackedFloat :=
  if h : r = 0 then .zero s
  else if r < 2 ^ 53 then .finite s r e (Nat.pos_of_ne_zero h)
  else .finite s (2 ^ 52) (e + 1) (by decide)

theorem target_eq (m : ℕ) (e : ℤ) :
    targetExponent .binary64 (totalExponent m e) = max (m.log2 + e - 52) (-1074) := by
  simp [targetExponent, totalExponent, mantissaBits, minExponent]
  omega

theorem shift_of_lt {r : ℕ} (hr : r < 2 ^ 53) {e : ℤ} (he : -1074 ≤ e) :
    shiftToTargetExponent .binary64 r e .exact = (⟨r, false, false⟩, e) := by
  have hlog : r.log2 ≤ 52 := by
    rcases Nat.eq_zero_or_pos r with rfl | hpos
    · decide
    · have hlt := (Nat.log2_lt hpos.ne').mpr hr
      omega
  have htarget := target_eq r e
  have hshift : (targetExponent .binary64 (totalExponent r e) - e).toNat = 0 := by omega
  rw [shiftToTargetExponent, shiftToExponent, hshift]
  simp only [Int.natCast_zero, add_zero]
  rfl

theorem shift_carry {e : ℤ} (he : -1074 ≤ e) :
    shiftToTargetExponent .binary64 (2 ^ 53) e .exact = (⟨2 ^ 52, false, false⟩, e + 1) := by
  have htarget := target_eq (2 ^ 53) e
  rw [Nat.log2_two_pow] at htarget
  have hshift : (targetExponent .binary64 (totalExponent (2 ^ 53) e) - e).toNat = 1 := by omega
  rw [shiftToTargetExponent, shiftToExponent, hshift]
  rfl

theorem roundWithAccuracy_eq_carry (s : Sign) (m : ℕ) (e : ℤ) (accuracy : Accuracy) {em : ExtendedMantissa}
    {e' : ℤ} (h : shiftToTargetExponent .binary64 m e accuracy = (em, e'))
    (hr : em.roundedMantissa ≤ 2 ^ 53) (he : -1074 ≤ e') :
    roundWithAccuracy .binary64 s m e accuracy = carry s em.roundedMantissa e' := by
  rw [roundWithAccuracy, h]
  dsimp only
  rcases Nat.lt_or_eq_of_le hr with hlt | heq
  · simp only [shift_of_lt hlt he, carry, hlt, if_true]
  · rw [heq, shift_carry he]
    rfl

theorem le_of_log2_le {num den k : ℕ} (hden : 0 < den) (h : (num / den).log2 ≤ 52 + k) :
    num ≤ 2 ^ 53 * (den * 2 ^ k) := by
  have hlog : num / den < 2 ^ (53 + k) := by
    apply Nat.lt_log2_self.trans_le
    exact Nat.pow_le_pow_right (by decide) (by omega)
  calc num ≤ den * (num / den + 1) := (Nat.lt_mul_div_succ num hden).le
    _ ≤ den * 2 ^ (53 + k) := Nat.mul_le_mul_left den hlog
    _ = 2 ^ 53 * (den * 2 ^ k) := by ring

theorem le_of_le_log2 {num den k : ℕ} (h : 52 + k ≤ (num / den).log2) : 2 ^ 52 * (den * 2 ^ k) ≤ num := by
  have hne : num / den ≠ 0 := by
    intro hzero
    rw [hzero, Nat.log2_zero] at h
    omega
  have hpow : 2 ^ (52 + k) ≤ num / den := (Nat.le_log2 hne).mp h
  calc 2 ^ 52 * (den * 2 ^ k) = 2 ^ (52 + k) * den := by ring
    _ ≤ num / den * den := Nat.mul_le_mul_right den hpow
    _ ≤ num := Nat.div_mul_le_self num den

theorem Truncates.rounds {em : ExtendedMantissa} {num den k : ℕ} {e : ℤ} (h : Truncates em num (den * 2 ^ k))
    (hden : 0 < den) (hmax : e + k = max ((num / den).log2 + e - 52) (-1074)) :
    Rounds (num / den * 2 ^ e : ℚ) em.roundedMantissa (e + k) := by
  have hden' : 0 < den * 2 ^ k := by positivity
  have hden'' : (0 : ℚ) < (den * 2 ^ k : ℕ) := by exact_mod_cast hden'
  have hpow : (0 : ℚ) < 2 ^ (e + k) := two_zpow_pos _
  -- the number in steps of the grid
  have hgrid : (num / den * 2 ^ e : ℚ) = num / (den * 2 ^ k : ℕ) * 2 ^ (e + k) := by
    rw [two_zpow_add]
    push_cast
    field_simp
  rw [hgrid]
  refine ⟨by omega, h.rounded_le (le_of_log2_le hden (by omega)), ?_, fun n hn ↦ ?_, fun n hn ↦ ?_⟩
  · by_cases hleast : e + k = -1074
    · exact .inr hleast
    · left
      have hnum : 2 ^ 52 * (den * 2 ^ k) ≤ num := le_of_le_log2 (by omega)
      apply mul_le_mul_of_nonneg_right _ hpow.le
      rw [le_div_iff₀ hden'']
      exact_mod_cast hnum
  · apply h.rounded_le
    rw [mul_le_mul_iff_left₀ hpow, div_le_iff₀ hden''] at hn
    exact_mod_cast hn
  · apply h.le_rounded hden'
    rw [mul_le_mul_iff_left₀ hpow, le_div_iff₀ hden''] at hn
    exact_mod_cast hn

theorem exists_rounds (s : Sign) {num den : ℕ} (hden : 0 < den) {e : ℤ}
    (he : e ≤ targetExponent .binary64 (totalExponent (num / den) e)) :
    ∃ r e', roundWithAccuracy .binary64 s (num / den) e (accuracyOfFraction (num % den) den) =
      carry s r e' ∧ Rounds (num / den * 2 ^ e : ℚ) r e' := by
  have htarget := target_eq (num / den) e
  generalize ht : targetExponent .binary64 (totalExponent (num / den) e) = t at he htarget
  obtain ⟨k, rfl⟩ : ∃ k : ℕ, t = e + k := ⟨(t - e).toNat, by omega⟩
  have hshift : shiftToTargetExponent .binary64 (num / den) e (accuracyOfFraction (num % den) den) =
      (ExtendedMantissa.ofMantissaAndAccuracy (num / den) (accuracyOfFraction (num % den) den) >>> k, e + k) := by
    rw [shiftToTargetExponent, shiftToExponent, ht, add_sub_cancel_left, Int.toNat_natCast]
  have hrounds := ((Truncates.start num den).shiftRight k).rounds hden htarget
  exact ⟨_, _, roundWithAccuracy_eq_carry s _ e _ hshift hrounds.le hrounds.min_le, hrounds⟩

theorem log2_mul_two_pow {m : ℕ} (hm : m ≠ 0) (k : ℕ) : (m * 2 ^ k).log2 = m.log2 + k := by
  induction k with
  | zero => rw [pow_zero, mul_one, add_zero]
  | succ k ih =>
    have hstep : m * 2 ^ (k + 1) = 2 * (m * 2 ^ k) := by ring
    rw [hstep, Nat.log2_two_mul (by positivity), ih, add_assoc]

theorem exists_rounds_exact (s : Sign) {m : ℕ} {e : ℤ}
    (he : e ≤ targetExponent .binary64 (totalExponent m e)) :
    ∃ r e', roundWithAccuracy .binary64 s m e .exact = carry s r e' ∧ Rounds (m * 2 ^ e : ℚ) r e' := by
  rw [← Nat.div_one m] at he
  obtain ⟨r, e', hcarry, hrounds⟩ := exists_rounds s Nat.one_pos he
  rw [Nat.div_one, Nat.mod_one] at hcarry
  rw [Nat.cast_one, div_one] at hrounds
  exact ⟨r, e', hcarry, hrounds⟩

theorem exists_rounds_round (s : Sign) {m : ℕ} (hm : m ≠ 0) (e : ℤ) :
    ∃ r e', round .binary64 s m e = carry s r e' ∧ Rounds (m * 2 ^ e : ℚ) r e' := by
  have htarget := target_eq m e
  generalize ht : targetExponent .binary64 (totalExponent m e) = t at htarget
  generalize hk : (e - t).toNat = k
  have hround : round .binary64 s m e =
      roundWithAccuracy .binary64 s (m * 2 ^ k) (e - k) .exact := by
    rw [UnpackedFloat.round, decreaseExponent, ht, hk, Nat.shiftLeft_eq]
  have he : e - k ≤ targetExponent .binary64 (totalExponent (m * 2 ^ k) (e - k)) := by
    rw [target_eq, log2_mul_two_pow hm]
    omega
  have hvalue : ((m * 2 ^ k : ℕ) * 2 ^ (e - k) : ℚ) = m * 2 ^ e := by
    have he : (2 : ℚ) ^ e = 2 ^ (e - k) * 2 ^ k := by
      rw [← two_zpow_add, sub_add_cancel]
    rw [he]
    push_cast
    ring
  rw [hround, ← hvalue]
  exact exists_rounds_exact s he

/-- A quotient is computed with bits enough to be rounded. -/
theorem exists_rounds_div (s : Sign) {m₁ m₂ : ℕ} (hm₁ : m₁ ≠ 0) (hm₂ : m₂ ≠ 0) (e₁ e₂ : ℤ) :
    ∃ r e', roundWithAccuracy .binary64 s (divCore .binary64 m₁ e₁ m₂ e₂).1
      (divCore .binary64 m₁ e₁ m₂ e₂).2.1 (divCore .binary64 m₁ e₁ m₂ e₂).2.2 = carry s r e' ∧
      Rounds (m₁ * 2 ^ e₁ / (m₂ * 2 ^ e₂) : ℚ) r e' := by
  generalize ht : min (e₁ - e₂)
    (targetExponent .binary64 (totalExponent m₁ e₁ - totalExponent m₂ e₂)) = t
  generalize hk : (e₁ - e₂ - t).toNat = k
  have hcore : divCore .binary64 m₁ e₁ m₂ e₂ =
      (m₁ * 2 ^ k / m₂, t, accuracyOfFraction (m₁ * 2 ^ k % m₂) m₂) := by
    rw [divCore, ht, hk, Nat.shiftLeft_eq]
  have ht' : t ≤ e₁ - e₂ ∧ (t ≤ -1074 ∨ m₂.log2 + 53 ≤ m₁.log2 + k) := by
    simp only [targetExponent, totalExponent, mantissaBits, minExponent] at ht
    norm_num at ht
    omega
  have he : t ≤ targetExponent .binary64 (totalExponent (m₁ * 2 ^ k / m₂) t) := by
    rw [target_eq]
    rcases ht'.2 with hleast | hbits
    · omega
    · have hquotient : 2 ^ 52 ≤ m₁ * 2 ^ k / m₂ := by
        rw [Nat.le_div_iff_mul_le (Nat.pos_of_ne_zero hm₂)]
        calc 2 ^ 52 * m₂ ≤ 2 ^ 52 * 2 ^ (m₂.log2 + 1) := Nat.mul_le_mul_left _ Nat.lt_log2_self.le
          _ = 2 ^ (m₂.log2 + 53) := by ring
          _ ≤ 2 ^ (m₁.log2 + k) := Nat.pow_le_pow_right (by decide) hbits
          _ = 2 ^ m₁.log2 * 2 ^ k := pow_add _ _ _
          _ ≤ m₁ * 2 ^ k := Nat.mul_le_mul_right _ (Nat.log2_self_le hm₁)
      have hlog : 52 ≤ (m₁ * 2 ^ k / m₂).log2 := by
        rw [Nat.le_log2 (by omega)]
        exact hquotient
      omega
  obtain ⟨r, e', hcarry, hrounds⟩ := exists_rounds s (Nat.pos_of_ne_zero hm₂) he
  rw [hcore]
  refine ⟨r, e', hcarry, ?_⟩
  have hvalue : ((m₁ * 2 ^ k : ℕ) / m₂ * 2 ^ t : ℚ) = m₁ * 2 ^ e₁ / (m₂ * 2 ^ e₂) := by
    have hexponent : e₁ = e₂ + t + k := by omega
    have hpow : (2 : ℚ) ^ e₁ = 2 ^ e₂ * 2 ^ t * 2 ^ k := by
      rw [hexponent, two_zpow_add, zpow_add₀ (by norm_num)]
    have he₂ := two_zpow_pos e₂
    rw [hpow]
    push_cast
    field_simp
  rwa [hvalue] at hrounds

end ReservoirGas.Binary64

import ReservoirGas.Completion
import ReservoirGas.Proofs.Binary64.Bounds

namespace ReservoirGas.GasSample

open Binary64

def belowTwo : ℚ :=
  2 - 2 ^ (-52 : ℤ)

theorem belowTwo_div_two : belowTwo / 2 = 1 - 2 ^ (-53 : ℤ) := by
  norm_num [belowTwo]

theorem belowTwo_pos : 0 < belowTwo := by
  norm_num [belowTwo]

theorem belowTwo_le_two : belowTwo ≤ 2 :=
  sub_le_self _ (two_zpow_pos _).le

theorem representable_belowTwo : Representable belowTwo := by
  have hvalue : belowTwo = (2 ^ 53 - 1 : ℕ) * 2 ^ (-52 : ℤ) := by
    norm_num [belowTwo]
  rw [hvalue]
  exact (onGrid_mul_zpow (by decide) (by decide)).representable

theorem representable_belowTwo_div_two : Representable (belowTwo / 2) := by
  have hvalue : belowTwo / 2 = (2 ^ 53 - 1 : ℕ) * 2 ^ (-53 : ℤ) := by
    norm_num [belowTwo]
  rw [hvalue]
  exact (onGrid_mul_zpow (by decide) (by decide)).representable

/-- The difference of `a` and `b` is at most `c` times their mean. The two are kept apart by numbers of the
format, `u` between difference and multiple and `t` below the mean, hence they stay so when they are rounded. -/
def Near (c a b : ℚ) : Prop :=
  ∃ t u, OnGrid t ∧ OnGrid (2 * t) ∧ OnGrid u ∧ 0 < t ∧ |b - a| ≤ u ∧ u ≤ c * t ∧ 2 * t ≤ b + a

section Near

variable {a b c : ℚ} {n : ℕ} {j : ℤ}

theorem Near.symm (h : Near c a b) : Near c b a := by
  obtain ⟨t, u, ht, ht', hu, hpos, hdifference, huc, hsum⟩ := h
  exact ⟨t, u, ht, ht', hu, hpos, by rwa [abs_sub_comm], huc, by rwa [add_comm]⟩

theorem Near.mono {c' : ℚ} (h : Near c a b) (hc : c ≤ c') : Near c' a b := by
  obtain ⟨t, u, ht, ht', hu, hpos, hdifference, huc, hsum⟩ := h
  exact ⟨t, u, ht, ht', hu, hpos, hdifference, huc.trans (by gcongr), hsum⟩

theorem Near.nonneg (h : Near c a b) : 0 ≤ c := by
  obtain ⟨t, u, -, -, -, hpos, hdifference, huc, -⟩ := h
  exact nonneg_of_mul_nonneg_left ((abs_nonneg _).trans (hdifference.trans huc)) hpos

theorem near_of_finest {k : ℕ} (hk : 0 < k) (hkn : k ≤ n) (hn : n < 2 ^ 53) :
    Near belowTwo (k * 2 ^ (-1074 : ℤ)) (n * 2 ^ (-1074 : ℤ)) := by
  have hgrid {i : ℕ} (hi : i ≤ 2 ^ 53) : OnGrid (i * 2 ^ (-1074 : ℤ)) := onGrid_mul_zpow hi le_rfl
  have hunit : (0 : ℚ) < 2 ^ (-1074 : ℤ) := two_zpow_pos _
  obtain ⟨l, hl⟩ : ∃ l, l = (n - k + 2) / 2 := ⟨_, rfl⟩
  have hdouble : (2 * l : ℕ) * 2 ^ (-1074 : ℤ) = 2 * (l * 2 ^ (-1074 : ℤ) : ℚ) := by
    rw [Nat.cast_mul, Nat.cast_ofNat, mul_assoc]
  have hpos : (0 : ℚ) < l := by exact_mod_cast (by omega : 0 < l)
  have hlow : (n - k + 1 : ℚ) ≤ 2 * l := by
    rw [← Nat.cast_sub hkn]
    exact_mod_cast (by omega : n - k + 1 ≤ 2 * l)
  have hhigh : (2 * l : ℚ) ≤ n + k := by exact_mod_cast (by omega : 2 * l ≤ n + k)
  have hsmall : (l : ℚ) * 2 ^ (-52 : ℤ) ≤ 1 := by
    have hbits : (l : ℚ) ≤ 2 ^ 52 := by exact_mod_cast (by omega : l ≤ 2 ^ 52)
    rw [zpow_neg, mul_inv_le_iff₀ (two_zpow_pos _), one_mul]
    exact_mod_cast hbits
  refine ⟨l * 2 ^ (-1074 : ℤ), (n - k : ℕ) * 2 ^ (-1074 : ℤ), hgrid (by omega), ?_, hgrid (by omega),
    mul_pos hpos hunit, ?_, ?_, ?_⟩
  · rw [← hdouble]
    exact hgrid (by omega)
  · rw [← sub_mul, ← Nat.cast_sub hkn, abs_of_nonneg (by positivity)]
  · rw [← mul_assoc, Nat.cast_sub hkn]
    apply mul_le_mul_of_nonneg_right _ hunit.le
    rw [belowTwo]
    linarith
  · rw [← mul_assoc, ← add_mul]
    exact mul_le_mul_of_nonneg_right hhigh hunit.le

theorem near_of_coarse (hn : n < 2 ^ 53) (hj : -1074 < j) (hunit : 2 ^ j ≤ a)
    (hab : a ≤ n * 2 ^ j) : Near belowTwo a (n * 2 ^ j) := by
  have hpow : (0 : ℚ) < 2 ^ j := two_zpow_pos j
  have hdouble : 2 * ((n + 1 : ℕ) * 2 ^ (j - 1) : ℚ) = (n + 1 : ℕ) * 2 ^ j := by
    rw [zpow_sub₀ (by norm_num), zpow_one]
    ring
  have hsmall : ((n + 1 : ℕ) : ℚ) * 2 ^ (-53 : ℤ) ≤ 1 := by
    have hbits : ((n + 1 : ℕ) : ℚ) ≤ 2 ^ 53 := by exact_mod_cast hn
    rw [zpow_neg, mul_inv_le_iff₀ (two_zpow_pos _), one_mul]
    exact_mod_cast hbits
  have hfactor : (n : ℚ) ≤ belowTwo / 2 * (n + 1 : ℕ) := by
    rw [belowTwo_div_two]
    push_cast at hsmall ⊢
    linarith
  refine ⟨(n + 1 : ℕ) * 2 ^ (j - 1), n * 2 ^ j, onGrid_mul_zpow hn (by omega), ?_,
    onGrid_mul_zpow hn.le hj.le, mul_pos (by positivity) (two_zpow_pos _), ?_, ?_, ?_⟩
  · rw [hdouble]
    exact onGrid_mul_zpow hn hj.le
  · rw [abs_of_nonneg (by linarith)]
    linarith
  · calc (n * 2 ^ j : ℚ) ≤ belowTwo / 2 * (n + 1 : ℕ) * 2 ^ j := by gcongr
      _ = belowTwo * ((n + 1 : ℕ) * 2 ^ (j - 1)) := by
        rw [mul_assoc, ← hdouble]
        ring
  · rw [hdouble]
    push_cast
    linarith

/-- A number of `n` units differs from one that is no less than a unit by less than twice their mean. -/
theorem near_of_unit_le (ha : OnGrid a) (hn : n < 2 ^ 53) (hj : -1074 ≤ j) (hunit : 2 ^ j ≤ a)
    (hab : a ≤ n * 2 ^ j) : Near belowTwo a (n * 2 ^ j) := by
  rcases hj.lt_or_eq with hj | rfl
  · exact near_of_coarse hn hj hunit hab
  · have hpow : (0 : ℚ) < 2 ^ (-1074 : ℤ) := two_zpow_pos _
    obtain ⟨k, i, hk, hi, ha⟩ := ha
    rw [natCast_mul_zpow k hi] at ha
    generalize k * 2 ^ (i - -1074).toNat = k' at ha
    rw [ha] at hab hunit ⊢
    have hpos : 1 ≤ k' := by
      have hle : (1 : ℚ) ≤ k' := by
        rwa [le_mul_iff_one_le_left hpow] at hunit
      exact_mod_cast hle
    have hle : k' ≤ n := by exact_mod_cast le_of_mul_le_mul_right hab hpow
    exact near_of_finest hpos hle hn

theorem near_two_of_le (ha : OnGrid a) (hb : OnGrid b) (ha' : 0 < a) (hab : a ≤ b) : Near 2 a b := by
  have hleast := ha.least_le ha'
  obtain ⟨n, j, hn, hj, rfl⟩ := hb
  rcases le_or_gt (2 ^ j) a with hunit | hunit
  · exact (near_of_unit_le ha hn hj hunit hab).mono belowTwo_le_two
  · have hj' : -1074 < j := by
      rcases hj.lt_or_eq with hlt | rfl
      · exact hlt
      · exact absurd hunit hleast.not_gt
    have hdouble : 2 * (n * 2 ^ (j - 1) : ℚ) = n * 2 ^ j := by
      rw [zpow_sub₀ (by norm_num), zpow_one]
      ring
    have hgrid : OnGrid (n * 2 ^ j : ℚ) := onGrid_mul_zpow hn.le hj
    refine ⟨n * 2 ^ (j - 1), n * 2 ^ j, onGrid_mul_zpow hn.le (by omega), hdouble ▸ hgrid, hgrid, ?_, ?_,
      hdouble.ge, ?_⟩
    · linarith
    · rw [abs_of_nonneg (by linarith)]
      linarith
    · linarith

theorem near_two (ha : OnGrid a) (hb : OnGrid b) (ha' : 0 < a) (hb' : 0 < b) : Near 2 a b := by
  rcases le_total a b with hab | hba
  · exact near_two_of_le ha hb ha' hab
  · exact (near_two_of_le hb ha hb' hba).symm

end Near

section Change

variable {older newer last x : Float} {a b c l w v : ℚ}

theorem Near.exists_relativeChange (h : Near c a b) (holder : toRat? older = some a)
    (hnewer : toRat? newer = some b) (ha : 0 < a) (hb : 0 < b) (hc : Representable c) (hsize : c < 2 ^ 1024) :
    ∃ w, toRat? (relativeChange older newer) = some w ∧ |w| ≤ c ∧ (a ≤ b → 0 ≤ w) := by
  have hc₀ : 0 ≤ c := h.nonneg
  obtain ⟨t, u, ht, ht', hu, hpos, hdifference, huc, hsum⟩ := h
  obtain ⟨d, hd, hroundedd⟩ := exists_difference hnewer holder hb ha
  have hdu : |d| ≤ u := hroundedd.abs_le_of_abs_le hu.representable hdifference
  have hrise (hab : a ≤ b) : 0 ≤ d := hroundedd.le_of_ge 0 representable_zero (sub_nonneg.mpr hab)
  rw [relativeChange]
  rcases exists_mean hnewer holder ht ht' hsum with hinfinite | ⟨m, hm, htm⟩
  · exact ⟨0, toRat?_div_isInfinite hd hinfinite, by rwa [abs_zero], fun _ ↦ le_rfl⟩
  · have hm₀ : 0 < m := hpos.trans_le htm
    have hquotient : |d / m| ≤ c := by
      rw [abs_div, abs_of_pos hm₀, div_le_iff₀ hm₀]
      calc |d| ≤ c * t := hdu.trans huc
        _ ≤ c * m := by gcongr
    obtain ⟨w, hw, hrounded⟩ := (computes_div hd hm hm₀.ne').exists_rounded hc hquotient hsize
    refine ⟨w, hw, hrounded.abs_le_of_abs_le hc hquotient, fun hab ↦ ?_⟩
    exact hrounded.le_of_ge 0 representable_zero (div_nonneg (hrise hab) hm₀.le)

theorem exists_relativeChange (holder : toRat? older = some a) (hnewer : toRat? newer = some b) (ha : 0 < a)
    (hb : 0 < b) : ∃ w, toRat? (relativeChange older newer) = some w ∧ |w| ≤ 2 ∧ (a ≤ b → 0 ≤ w) := by
  have hnear : Near 2 a b := near_two ((representable_of_toRat? holder).onGrid ha.le)
    ((representable_of_toRat? hnewer).onGrid hb.le) ha hb
  exact hnear.exists_relativeChange holder hnewer ha hb representable_two two_lt

theorem belowTwo_le_relativeChange (holder : toRat? older = some a) (hnewer : toRat? newer = some b)
    (ha : 0 < a) (hb : 0 < b) (hfall : a ≤ 2 ^ 52 * b) (hw : toRat? (relativeChange older newer) = some w) :
    -belowTwo ≤ w := by
  rcases le_total a b with hab | hba
  · obtain ⟨w', hw', -, hrise⟩ := exists_relativeChange holder hnewer ha hb
    rw [hw] at hw'
    cases hw'
    exact (neg_nonpos.mpr belowTwo_pos.le).trans (hrise hab)
  · have hgrid : OnGrid b := (representable_of_toRat? hnewer).onGrid hb.le
    obtain ⟨n, j, hn, hj, hunits, habs⟩ := exists_units holder
    rw [abs_of_pos ha] at habs
    have hunit : 2 ^ j ≤ b := by
      rcases hunits with hbits | rfl
      · have hbits' : (2 : ℚ) ^ 52 ≤ n := by exact_mod_cast hbits
        have hle : (2 : ℚ) ^ 52 * 2 ^ j ≤ 2 ^ 52 * b := by
          calc (2 : ℚ) ^ 52 * 2 ^ j ≤ n * 2 ^ j := by gcongr
            _ = a := habs.symm
            _ ≤ 2 ^ 52 * b := hfall
        exact le_of_mul_le_mul_left hle (by norm_num)
      · exact hgrid.least_le hb
    have hnear : Near belowTwo b a := by
      rw [habs] at hba ⊢
      exact near_of_unit_le hgrid hn hj hunit hba
    obtain ⟨w', hw', hle, -⟩ := hnear.symm.exists_relativeChange holder hnewer ha hb
      representable_belowTwo (belowTwo_le_two.trans_lt two_lt)
    rw [hw] at hw'
    cases hw'
    exact (abs_le.mp hle).1

theorem exists_factors (hx : toRat? x = some w) (hw : |w| ≤ 2) :
    ∃ p q, toRat? (Scalar.one + x / Scalar.two) = some p ∧ toRat? (Scalar.one - x / Scalar.two) = some q ∧
      0 ≤ p ∧ 0 ≤ q ∧ q ≤ 2 ∧ (0 ≤ w → 1 ≤ p ∧ q ≤ 1) ∧ (-belowTwo ≤ w → 2 ^ (-53 : ℤ) ≤ p) := by
  obtain ⟨hlow, hhigh⟩ := abs_le.mp hw
  have hhalf : |w / 2| ≤ 1 := by
    rw [abs_le]
    constructor <;> linarith
  obtain ⟨y, hy, hroundedy⟩ := (computes_div hx toRat?_two two_ne_zero).exists_rounded representable_one
    hhalf (one_lt_two.trans two_lt)
  obtain ⟨hylow, hyhigh⟩ := abs_le.mp (hroundedy.abs_le_of_abs_le representable_one hhalf)
  obtain ⟨p, hp, hroundedp⟩ := (computes_add toRat?_one hy).exists_rounded representable_two
    (abs_le.mpr ⟨by linarith, by linarith⟩) two_lt
  obtain ⟨q, hq, hroundedq⟩ := (computes_sub toRat?_one hy).exists_rounded representable_two
    (abs_le.mpr ⟨by linarith, by linarith⟩) two_lt
  refine ⟨p, q, hp, hq, hroundedp.le_of_ge 0 representable_zero (by linarith),
    hroundedq.le_of_ge 0 representable_zero (by linarith),
    hroundedq.le_of_le 2 representable_two (by linarith), fun hrise ↦ ?_, fun hfall ↦ ?_⟩
  · have hy₀ : 0 ≤ y := hroundedy.le_of_ge 0 representable_zero (by linarith)
    exact ⟨hroundedp.le_of_ge 1 representable_one (by linarith),
      hroundedq.le_of_le 1 representable_one (by linarith)⟩
  · have hylow' : -(belowTwo / 2) ≤ y :=
      hroundedy.le_of_ge _ representable_belowTwo_div_two.neg (by linarith)
    rw [belowTwo_div_two] at hylow'
    apply hroundedp.le_of_ge _ (onGrid_two_zpow (by decide)).representable
    linarith

theorem le_applyChange {p q s t : ℚ} (hlast : toRat? last = some l)
    (hp : toRat? (Scalar.one + x / Scalar.two) = some p) (hq : toRat? (Scalar.one - x / Scalar.two) = some q)
    (hq₀ : 0 ≤ q) (ht : Representable t) (htp : t ≤ l * p) (hs : Representable s) (hst : s * q ≤ t)
    (hv : toRat? (applyChange last x) = some v) : s ≤ v := by
  rw [applyChange] at hv
  obtain ⟨n, hrounded, hn | ⟨-, hinfinite⟩⟩ := computes_mul hlast hp
  · have htn : t ≤ n := hrounded.le_of_ge t ht htp
    rcases hq₀.eq_or_lt with rfl | hpos
    · rw [toRat?_div_zero _ hq] at hv
      cases hv
    · apply (computes_div hn hq hpos.ne').le_of_ge hv hs
      rw [le_div_iff₀ hpos]
      exact hst.trans htn
  · rw [toRat?_div_of_isInfinite hinfinite] at hv
    cases hv

/-- A number that takes the relative change from one positive number to another is not negative. It does not
fall where these do not fall, and it keeps something if they fall to no less than a `2 ^ 52`-th. -/
theorem applyChange_bounds (holder : toRat? older = some a) (hnewer : toRat? newer = some b)
    (ha : 0 < a) (hb : 0 < b) (hlast : toRat? last = some l) (hl : 0 ≤ l)
    (hv : toRat? (applyChange last (relativeChange older newer)) = some v) :
    0 ≤ v ∧ (a ≤ b → l ≤ v) ∧ (a ≤ 2 ^ 52 * b → 2 ^ (-1020 : ℤ) ≤ l → 0 < v) := by
  obtain ⟨w, hw, habs, hrise⟩ := exists_relativeChange holder hnewer ha hb
  obtain ⟨p, q, hp, hq, hp₀, hq₀, hq₂, hgrow, hkeep⟩ := exists_factors hw habs
  refine ⟨?_, fun hab ↦ ?_, fun hfall hsize ↦ ?_⟩
  · exact le_applyChange hlast hp hq hq₀ representable_zero (mul_nonneg hl hp₀) representable_zero
      (by rw [zero_mul]) hv
  · obtain ⟨hp₁, hq₁⟩ := hgrow (hrise hab)
    have hgrid := representable_of_toRat? hlast
    exact le_applyChange hlast hp hq hq₀ hgrid (le_mul_of_one_le_right hl hp₁) hgrid
      (mul_le_of_le_one_right hl hq₁) hv
  · have hp₁ := hkeep (belowTwo_le_relativeChange holder hnewer ha hb hfall hw)
    have hproduct : (2 : ℚ) ^ (-1073 : ℤ) ≤ l * p :=
      calc (2 : ℚ) ^ (-1073 : ℤ) = 2 ^ (-1020 : ℤ) * 2 ^ (-53 : ℤ) := by
            rw [← zpow_add₀ (by norm_num)]
            rfl
        _ ≤ l * p := by gcongr
    have hquotient : (2 : ℚ) ^ (-1074 : ℤ) * q ≤ 2 ^ (-1073 : ℤ) :=
      calc (2 : ℚ) ^ (-1074 : ℤ) * q ≤ 2 ^ (-1074 : ℤ) * 2 := by gcongr
        _ = 2 ^ (-1073 : ℤ) := by
            rw [← zpow_add_one₀ (by norm_num)]
            rfl
    have hle : (2 : ℚ) ^ (-1074 : ℤ) ≤ v := le_applyChange hlast hp hq hq₀
      (onGrid_two_zpow (by decide)).representable hproduct (onGrid_two_zpow (by decide)).representable
      hquotient hv
    exact (two_zpow_pos _).trans_le hle

end Change

end ReservoirGas.GasSample

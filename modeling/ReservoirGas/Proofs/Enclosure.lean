import ReservoirGas.Proofs.Blending
import ReservoirGas.Proofs.Construction

namespace ReservoirGas

open Exact

/-- The inverse of what lies between inverses of positive numbers lies between these numbers. -/
theorem GasSample.within_inverse {samples : List (GasSample Exact)} (h : ∀ s ∈ samples, s.Physical) {w : ℚ}
    (hw : Within (samples.map BranchSet.inverseVolumeFactor) w) :
    0 < w ∧ Within (samples.map volumeFactor) (1 / w) := by
  have hinverse {v : ℚ} (hv : number v ∈ samples.map BranchSet.inverseVolumeFactor) :
      ∃ b > 0, v = 1 / b ∧ number b ∈ samples.map volumeFactor := by
    obtain ⟨s, hs, hvalue⟩ := List.mem_map.mp hv
    obtain ⟨b, hb, hfactor⟩ := isPositive_iff.mp (h s hs).volumeFactor
    rw [BranchSet.inverseVolumeFactor, hfactor, one_eq, number_div _ hb.ne'] at hvalue
    exact ⟨b, hb, (number.inj hvalue).symm, hfactor ▸ List.mem_map_of_mem hs⟩
  obtain ⟨⟨v, hvw, hv⟩, v', hwv, hv'⟩ := hw
  obtain ⟨b, hb, rfl, hmem⟩ := hinverse hv
  obtain ⟨b', hb', rfl, hmem'⟩ := hinverse hv'
  have hpos : 0 < w := (one_div_pos.mpr hb).trans_le hvw
  exact ⟨hpos, ⟨b', (le_one_div hb' hpos).mpr hwv, hmem'⟩, b, (one_div_le hpos hb).mpr hvw, hmem⟩

theorem GasSample.within_pos {samples : List (GasSample Exact)} (h : ∀ s ∈ samples, s.Physical) {w : ℚ}
    (hw : Within (samples.map viscosity) w) : 0 < w := by
  obtain ⟨⟨a, haw, ha⟩, -⟩ := hw
  obtain ⟨s, hs, hvalue⟩ := List.mem_map.mp ha
  obtain ⟨v, hv, hviscosity⟩ := isPositive_iff.mp (h s hs).viscosity
  cases hviscosity.symm.trans hvalue
  exact hv.trans_le haw

def BranchSet.neighbours {α : Type} (s : BranchSet α) (i : Nat) : List (GasSample α) :=
  s.branch i ++ s.branch (i + 1)

theorem BranchSet.exists_eval_within {s : BranchSet Exact} {value : GasSample Exact → Exact}
    (h : (s.surface value).Sound) {i : Nat} {p₀ p₁ p r : ℚ} (hp₀ : s.pressures[i]? = some (number p₀))
    (hp₁ : s.pressures[i + 1]? = some (number p₁)) (hleft : p₀ ≤ p) (hright : p ≤ p₁)
    (hr₀ : Within ((s.branch i).map GasSample.ratio) r)
    (hr₁ : Within ((s.branch (i + 1)).map GasSample.ratio) r) :
    ∃ w : ℚ, (s.surface value).eval (number p) (number r) = number w ∧ Within ((s.neighbours i).map value) w := by
  rw [← xs_surface value s] at hp₀ hp₁
  rw [← branchYs_surface value] at hr₀ hr₁
  obtain ⟨w, heval, hw⟩ := h.exists_eval_within hp₀ hp₁ hleft hright hr₀ hr₁
  rw [branchValues_surface, branchValues_surface, ← List.map_append] at hw
  exact ⟨w, heval, hw⟩

namespace GasProperties

/-- In the tables of an accepted raw table, between two neighbouring pressures and within the ratios of both
completed branches, no quotient is undefined, and volume factor and viscosity lie between the smallest and the
largest of both branches. -/
theorem exists_within {family : Family} {region : Region.Id} {t : GasTable Exact} {g : GasProperties Exact}
    (hcheck : t.check family region = .ok ()) (hg : ofTable family region t = .ok g) :
    ∃ c, (BranchSet.ofTable t).complete family region = .ok c ∧
      ∀ (i : Nat) (p₀ p₁ p r : ℚ), t.pressures[i]? = some (number p₀) → t.pressures[i + 1]? = some (number p₁) →
        p₀ ≤ p → p ≤ p₁ → Within ((c.branches.branch i).map GasSample.ratio) r →
        Within ((c.branches.branch (i + 1)).map GasSample.ratio) r →
        ∃ b v : ℚ, g.volumeFactorAt (number p) (number r) = number b ∧
          g.viscosityAt (number p) (number r) = number v ∧ 0 < b ∧ 0 < v ∧
          Within ((c.branches.neighbours i).map GasSample.volumeFactor) b ∧
          Within ((c.branches.neighbours i).map GasSample.viscosity) v := by
  obtain ⟨c, hc, hholds⟩ := exists_holds_of_ofTable hg
  refine ⟨c, hc, fun i p₀ p₁ p r hp₀ hp₁ hleft hright hr₀ hr₁ ↦ ?_⟩
  have haccepted := GasTable.check_eq_ok_iff.mp hcheck
  obtain ⟨-, hcompletes⟩ := BranchSet.completes_of_complete hc
  have hphysical : ∀ s ∈ c.branches.neighbours i, s.Physical := by
    have hraw := BranchSet.physicalBranch_ofTable haccepted
    have hi := (List.getElem?_eq_some_iff.mp hp₁).1
    rw [← BranchSet.pressures_ofTable, BranchSet.length_pressures] at hi
    intro s hs
    rcases List.mem_append.mp hs with hs | hs
    · exact (hcompletes.physicalBranch hraw (Nat.lt_of_succ_lt hi)).sample s hs
    · exact (hcompletes.physicalBranch hraw hi).sample s hs
  rw [← BranchSet.pressures_ofTable, ← hcompletes.pressures] at hp₀ hp₁
  obtain ⟨w, hfactor, hw⟩ := BranchSet.exists_eval_within (hholds.inverse_eq ▸ hholds.inverse_sound) hp₀ hp₁
    hleft hright hr₀ hr₁
  obtain ⟨v, hviscosity, hv⟩ := BranchSet.exists_eval_within (hholds.viscosity_eq ▸ hholds.viscosity_sound) hp₀ hp₁
    hleft hright hr₀ hr₁
  obtain ⟨hpos, hb⟩ := GasSample.within_inverse hphysical hw
  refine ⟨1 / w, v, ?_, ?_, one_div_pos.mpr hpos, GasSample.within_pos hphysical hv, hb, hv⟩
  · rw [volumeFactorAt, hholds.inverse_eq, hfactor, one_eq, number_div _ hpos.ne']
  · rw [viscosityAt, hholds.viscosity_eq, hviscosity]

def halving : GasTable Exact :=
  ⟨[⟨number 1, number 4, number 1, number 1⟩, ⟨number 2, number 2, number 1, number 1⟩],
    [[.numbers 1 4 1], [.numbers 1 2 1, .numbers 3 1 (1 / 2)]]⟩

theorem exists_within_halving : ∃ (g : GasProperties Exact) (b v : ℚ), ofTable .wet (.ofNat 0) halving = .ok g ∧
    g.volumeFactorAt (number (3 / 2)) (number 2) = number b ∧
    g.viscosityAt (number (3 / 2)) (number 2) = number v ∧ 0 < b ∧ 0 < v ∧
    Within [number 4, number 2, number 2, number 1] b ∧
    Within [number 1, number (1 / 2), number 1, number (1 / 2)] v := by
  have hcheck : halving.check .wet (.ofNat 0) = .ok () := by decide +kernel
  have htwo : halving.lastBranch.length ≠ 1 := by decide +kernel
  obtain ⟨-, g, hg⟩ := (ofTable_cases (GasTable.check_eq_ok_iff.mp hcheck) .wet (.ofNat 0)).resolve_right
    fun hone ↦ htwo hone.1
  obtain ⟨c, hc, hwithin⟩ := exists_within hcheck hg
  have hbranches : ((BranchSet.ofTable halving).complete .wet (.ofNat 0)).map BranchSet.Completed.branches =
      .ok ⟨[⟨number 1, [.numbers 1 4 1, .numbers 3 2 (1 / 2)]⟩,
        ⟨number 2, [.numbers 1 2 1, .numbers 3 1 (1 / 2)]⟩]⟩ := by decide +kernel
  rw [hc] at hbranches
  have hratios : Within [number 1, number 3] 2 :=
    ⟨⟨1, by norm_num, List.mem_cons_self⟩, 3, by norm_num, List.mem_of_getLast? rfl⟩
  have hnodes := Except.ok.inj hbranches
  obtain ⟨b, v, hb, hv, hb₀, hv₀, hwithin_b, hwithin_v⟩ := hwithin 0 1 2 (3 / 2) 2 rfl rfl (by norm_num)
    (by norm_num) (hnodes ▸ hratios) (hnodes ▸ hratios)
  rw [hnodes] at hwithin_b hwithin_v
  exact ⟨g, b, v, hg, hb, hv, hb₀, hv₀, hwithin_b, hwithin_v⟩

end GasProperties

end ReservoirGas

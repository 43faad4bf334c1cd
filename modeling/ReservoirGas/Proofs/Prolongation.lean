import ReservoirGas.Proofs.Acceptance
import ReservoirGas.Proofs.Exact
import ReservoirGas.Proofs.Master
import Mathlib.Algebra.Order.Field.Rat
import Mathlib.Tactic.FieldSimp
import Mathlib.Tactic.Positivity
import Mathlib.Tactic.Ring

namespace ReservoirGas.GasSample

open Outcome Exact

theorem relativeChange_number {p q : ℚ} (hp : 0 < p) (hq : 0 < q) :
    relativeChange (number p) (number q) = number ((q - p) / ((q + p) / 2)) := by
  have hmean : (q + p) / 2 ≠ 0 := by positivity
  rw [relativeChange, two_eq, number_sub, number_add, number_div _ two_ne_zero, number_div _ hmean]

theorem applyChange_relativeChange (l : ℚ) {p q : ℚ} (hp : 0 < p) (hq : 0 < q) :
    applyChange (number l) (relativeChange (number p) (number q)) = number (l * (q / p)) := by
  have hdenominator : 1 - (q - p) / ((q + p) / 2) / 2 = 2 * p / (q + p) := by
    field_simp
    ring
  have hne : 1 - (q - p) / ((q + p) / 2) / 2 ≠ 0 := by
    rw [hdenominator]
    positivity
  rw [relativeChange_number hp hq, applyChange, one_eq, two_eq, number_div _ two_ne_zero, number_add,
    number_sub, number_mul, number_div _ hne, hdenominator]
  congr 1
  field_simp
  ring

def numbers (r b v : ℚ) : GasSample Exact :=
  ⟨number r, number b, number v⟩

theorem physical_iff {s : GasSample Exact} :
    s.Physical ↔ ∃ r b v : ℚ, 0 < b ∧ 0 < v ∧ s = numbers r b v := by
  constructor
  · intro h
    obtain ⟨r, hr⟩ := isFinite_iff.mp h.ratio
    obtain ⟨b, hb, hfactor⟩ := isPositive_iff.mp h.volumeFactor
    obtain ⟨v, hv, hviscosity⟩ := isPositive_iff.mp h.viscosity
    refine ⟨r, b, v, hb, hv, ?_⟩
    rw [numbers, ← hr, ← hfactor, ← hviscosity]
  · intro h
    obtain ⟨r, b, v, hb, hv, rfl⟩ := h
    exact ⟨rfl, isPositive_iff.mpr ⟨b, hb, rfl⟩, isPositive_iff.mpr ⟨v, hv, rfl⟩⟩

theorem follow_numbers (r b v r₁ r₂ : ℚ) {b₁ v₁ b₂ v₂ : ℚ} (hb₁ : 0 < b₁) (hv₁ : 0 < v₁) (hb₂ : 0 < b₂)
    (hv₂ : 0 < v₂) : follow (numbers r b v) (numbers r₁ b₁ v₁) (numbers r₂ b₂ v₂) =
      .ok (numbers (r + (r₂ - r₁)) (b * (b₂ / b₁)) (v * (v₂ / v₁))) := by
  simp only [follow, numbers, applyChange_relativeChange b hb₁ hb₂, applyChange_relativeChange v hv₁ hv₂,
    number_sub, number_add]
  rfl

theorem follow_eq_ok {last prev next : GasSample Exact} (hlast : last.Physical) (hprev : prev.Physical)
    (hnext : next.Physical) (hlt : Scalar.lt prev.ratio next.ratio = true) :
    ∃ s, follow last prev next = .ok s ∧ s.Physical ∧ Scalar.lt last.ratio s.ratio = true := by
  obtain ⟨r, b, v, hb, hv, rfl⟩ := physical_iff.mp hlast
  obtain ⟨r₁, b₁, v₁, hb₁, hv₁, rfl⟩ := physical_iff.mp hprev
  obtain ⟨r₂, b₂, v₂, hb₂, hv₂, rfl⟩ := physical_iff.mp hnext
  refine ⟨_, follow_numbers r b v r₁ r₂ hb₁ hv₁ hb₂ hv₂, physical_iff.mpr ?_, ?_⟩
  · exact ⟨_, _, _, by positivity, by positivity, rfl⟩
  · have hstep : r₁ < r₂ := lt_number_iff.mp hlt
    exact lt_number_iff.mpr (by linarith)

/-- The samples that follow along a physical master are physical, at increasing ratios. -/
theorem followAll_eq_ok {last : GasSample Exact} {master : List (GasSample Exact)}
    (hlast : last.Physical) (hmaster : ∀ s ∈ master, s.Physical)
    (hincreasing : Axis.Increasing (master.map ratio)) :
    ∃ added, followAll last master = .ok added ∧ (∀ s ∈ added, s.Physical) ∧
      Axis.Increasing ((last :: added).map ratio) := by
  -- along the master; each new sample is the last one of the next step
  induction master generalizing last with
  | nil => exact ⟨[], rfl, by simp, List.pairwise_singleton _ _⟩
  | cons prev r ih =>
    cases r with
    | nil => exact ⟨[], rfl, by simp, List.pairwise_singleton _ _⟩
    | cons next r =>
      have hlt := List.rel_of_pairwise_cons hincreasing List.mem_cons_self
      obtain ⟨s, hs, hphysical, hafter⟩ :=
        follow_eq_ok hlast (hmaster prev (by simp)) (hmaster next (by simp)) hlt
      obtain ⟨added, hadded, hall, hrest⟩ :=
        ih hphysical (fun x hx ↦ hmaster x (List.mem_cons_of_mem _ hx)) hincreasing.of_cons
      refine ⟨s :: added, ?_, List.forall_mem_cons.mpr ⟨hphysical, hall⟩, ?_⟩
      · rw [followAll, hs]
        simp only [bind, Except.bind, hadded]
        rfl
      · refine List.Pairwise.cons (fun x hx ↦ ?_) hrest
        rcases List.mem_cons.mp hx with rfl | hx
        · exact hafter
        · exact Scalar.lt_trans hafter (List.rel_of_pairwise_cons hrest hx)

theorem prolong_eq_ok {current master : List (GasSample Exact)} (hcurrent : PhysicalBranch current)
    (hsingle : current.length = 1) (hmaster : PhysicalBranch master) :
    ∃ added, prolong current master = .ok added ∧ PhysicalBranch (current ++ added) := by
  obtain ⟨last, rfl⟩ := List.length_eq_one_iff.mp hsingle
  have hlast := hcurrent.sample last List.mem_cons_self
  obtain ⟨added, hadded, hall, hincreasing⟩ := followAll_eq_ok hlast hmaster.sample hmaster.increasing
  refine ⟨added, hadded, List.cons_ne_nil _ _, ?_, hincreasing⟩
  exact List.forall_mem_cons.mpr ⟨hlast, hall⟩

end ReservoirGas.GasSample

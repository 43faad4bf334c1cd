import ReservoirGas.Proofs.Binary64
import ReservoirGas.Proofs.Binary64.Inverse
import ReservoirGas.Proofs.Properties

namespace ReservoirGas

open Outcome

variable {α : Type} [Scalar α]

structure FirstRow (P : SaturatedRow α → Prop) (rows : List (SaturatedRow α)) (i : Nat) : Prop where
  before : ∀ r ∈ rows.take i, ¬ P r
  row : ∃ r, rows[i]? = some r ∧ P r

theorem firstNonFinite_map_iff {P : SaturatedRow α → Prop} {value : SaturatedRow α → α}
    {rows : List (SaturatedRow α)} (h : ∀ r ∈ rows, Scalar.isFinite (value r) = true ↔ ¬ P r) {i : Nat} :
    Axis.FirstNonFinite (rows.map value) i ↔ FirstRow P rows i := by
  constructor
  · intro hfirst
    obtain ⟨hfinite, x, hx, hvalue⟩ := hfirst
    rw [← List.map_take] at hfinite
    rw [List.getElem?_map, Option.map_eq_some_iff] at hx
    obtain ⟨r, hr, rfl⟩ := hx
    refine ⟨fun r' hr' ↦ ?_, r, hr, ?_⟩
    · exact (h r' (List.mem_of_mem_take hr')).mp (List.forall_mem_map.mp hfinite r' hr')
    · by_contra hP
      rw [(h r (List.mem_of_getElem? hr)).mpr hP] at hvalue
      cases hvalue
  · intro hfirst
    obtain ⟨hbefore, r, hr, hP⟩ := hfirst
    refine ⟨?_, value r, ?_, ?_⟩
    · rw [← List.map_take]
      exact List.forall_mem_map.mpr fun r' hr' ↦ (h r' (List.mem_of_mem_take hr')).mpr (hbefore r' hr')
    · rw [List.getElem?_map, hr, Option.map_some]
    · rw [← Bool.not_eq_true, h r (List.mem_of_getElem? hr)]
      exact not_not_intro hP

open Binary64

theorem SaturatedRow.Physical.isFinite_inverse_iff {r : SaturatedRow Float} (h : r.Physical) :
    Scalar.isFinite (Scalar.one / r.volumeFactor) = true ↔ ¬ Negligible r.volumeFactor :=
  isFinite_one_div_iff (.inl (nonNegative_of_isPositive h.volumeFactor))

theorem SaturatedRow.Physical.isFinite_inverse_mul_iff {r : SaturatedRow Float} (h : r.Physical) :
    Scalar.isFinite (Scalar.one / (r.viscosity * r.volumeFactor)) = true ↔
      ¬ Negligible (r.viscosity * r.volumeFactor) :=
  isFinite_one_div_iff (nonNegative_mul h.viscosity h.volumeFactor)

namespace SaturatedCurves

variable {family : Family} {region : Region.Id} {t : GasTable Float}

/-- An accepted table has its curves exactly if no row has a volume factor, or a product of viscosity and
volume factor, that is negligible. The curves then hold the four columns along the pressures. Else the error
has the first row with a negligible volume factor, or the first with a negligible product. -/
theorem ofTable_outcome (h : t.check family region = .ok ()) :
    ((∃ c, ofTable t = .ok c) ↔ ∀ r ∈ t.saturated,
      ¬ Negligible r.volumeFactor ∧ ¬ Negligible (r.viscosity * r.volumeFactor)) ∧
    (∀ c, ofTable t = .ok c → (∀ f ∈ c.all, f.xs = t.pressures) ∧
      c.all.map Curve.ys = columns.map fun value ↦ t.saturated.map value) ∧
    ∀ e, ofTable t = .error e ↔ ∃ i, (FirstRow (fun r ↦ Negligible r.volumeFactor) t.saturated i ∨
      (∀ r ∈ t.saturated, ¬ Negligible r.volumeFactor) ∧
        FirstRow (fun r ↦ Negligible (r.viscosity * r.volumeFactor)) t.saturated i) ∧
      e = .nonFinite "y" i := by
  have ht : t.Accepted := GasTable.check_eq_ok_iff.mp h
  have hinverse : Axis.Finite (t.saturated.map fun r ↦ Scalar.one / r.volumeFactor) ↔
      ∀ r ∈ t.saturated, ¬ Negligible r.volumeFactor := by
    rw [Axis.Finite, List.forall_mem_map]
    exact forall₂_congr fun r hr ↦ (ht.row r hr).isFinite_inverse_iff
  have hproduct : Axis.Finite (t.saturated.map fun r ↦ Scalar.one / (r.viscosity * r.volumeFactor)) ↔
      ∀ r ∈ t.saturated, ¬ Negligible (r.viscosity * r.volumeFactor) := by
    rw [Axis.Finite, List.forall_mem_map]
    exact forall₂_congr fun r hr ↦ (ht.row r hr).isFinite_inverse_mul_iff
  refine ⟨?_, fun c hc ↦ ⟨xs_of_ofTable hc, ys_of_ofTable hc⟩, fun e ↦ ?_⟩
  · rw [exists_ofTable_iff ht, hinverse, hproduct]
    exact forall₂_and.symm
  · rw [ofTable_eq_error_iff ht, hinverse]
    simp only [firstNonFinite_map_iff fun r hr ↦ (ht.row r hr).isFinite_inverse_iff,
      firstNonFinite_map_iff fun r hr ↦ (ht.row r hr).isFinite_inverse_mul_iff]

def tinyFactor : GasTable Float :=
  ⟨[⟨1, 2, 1, 1⟩, ⟨2, 1e-310, 1, 2⟩], [[⟨1, 2, 1⟩], [⟨2, 1, 1⟩, ⟨3, 1, 1⟩]]⟩

theorem ofTable_outcome_tinyFactor : tinyFactor.check .wet (.ofNat 0) = .ok () ∧
    ofTable tinyFactor = .error (.nonFinite "y" 1) := by
  have hcheck : tinyFactor.check .wet (.ofNat 0) = .ok () := by decide +kernel
  obtain ⟨-, -, herror⟩ := ofTable_outcome hcheck
  have ht : tinyFactor.Accepted := GasTable.check_eq_ok_iff.mp hcheck
  have hfirst : FirstRow (fun r ↦ Negligible r.volumeFactor) tinyFactor.saturated 1 := by
    refine (firstNonFinite_map_iff fun r hr ↦ (ht.row r hr).isFinite_inverse_iff).mp ⟨?_, _, rfl, ?_⟩
    · decide +kernel
    · decide +kernel
  exact ⟨hcheck, (herror _).mpr ⟨1, .inl hfirst, rfl⟩⟩

end SaturatedCurves

end ReservoirGas

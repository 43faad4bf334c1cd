import ReservoirGas.Proofs.Acceptance
import ReservoirGas.Proofs.Binary64

namespace ReservoirGas.SaltTable

open Outcome

section Tabulated

variable {α : Type}

theorem getElem?_nodes_tabulated (t : SaltTable α) (i : Nat) :
    t.tabulated.nodes[i]? = t.saturated[i]?.map fun r ↦
      ⟨r.pressure, (t.branch i).map fun s ↦ (s.concentration, s.ratio)⟩ := by
  simp only [tabulated, pressures, List.getElem?_map, List.getElem?_zipIdx, Option.map_map, Nat.zero_add]
  rfl

theorem branch_tabulated {t : SaltTable α} {i : Nat} (hi : i < t.saturated.length) :
    t.tabulated.branch i = (t.branch i).map fun s ↦ (s.concentration, s.ratio) := by
  rw [Surface.branch, getElem?_nodes_tabulated, List.getElem?_eq_getElem hi]
  rfl

end Tabulated

variable {α : Type} [Scalar α] {t : SaltTable α}

theorem finiteBranch_of_sound (h : t.tabulated.Sound) {i : Nat} (hi : i < t.saturated.length) :
    SaltSample.FiniteBranch (t.branch i) := by
  have hnode := getElem?_nodes_tabulated t i
  rw [List.getElem?_eq_getElem hi, Option.map_some] at hnode
  have hsound := h.node _ (List.mem_of_getElem? hnode)
  refine ⟨fun hnil ↦ hsound.ne_nil (List.map_eq_nil_iff.mpr hnil), fun s hs ↦ ?_, ?_⟩
  · exact hsound.finite _ (List.mem_map.mpr ⟨s, hs, rfl⟩)
  · have hincreasing := hsound.increasing
    rw [List.map_map] at hincreasing
    exact hincreasing

theorem accepted_of_sound (hrows : minSaturatedRows ≤ t.saturated.length) (h : t.tabulated.Sound) :
    t.Accepted where
  two_le := hrows
  pressure := by
    have hfinite := h.finite
    rw [xs_tabulated] at hfinite
    exact List.forall_mem_map.mp hfinite
  increasing := by
    rw [← xs_tabulated]
    exact h.increasing
  branch _ hi := finiteBranch_of_sound h hi

theorem Accepted.exists_samples (h : t.Accepted) {i : Nat} (hi : i < t.saturated.length) :
    ∃ samples, t.undersaturated[i]? = some samples ∧
      t.tabulated.branch i = samples.map fun s ↦ (s.concentration, s.ratio) := by
  have hne := (h.branch i hi).ne_nil
  rw [branch_tabulated hi]
  cases hsamples : t.undersaturated[i]? with
  | none =>
    rw [SaltTable.branch, hsamples] at hne
    exact absurd rfl hne
  | some samples => exact ⟨samples, rfl, by rw [SaltTable.branch, hsamples, Option.getD_some]⟩

variable [Scalar.Ordered α] {region : Region.Id}

theorem surface_eq_ok_iff {s : Surface α} : t.surface region = .ok s ↔ t.Accepted ∧ s = t.tabulated := by
  constructor
  · intro h
    rw [surface, seq_eq_ok_iff, TableOrigin.accept_tooShort_iff, draft_eq_ok] at h
    obtain ⟨hrows, hbuild⟩ := h
    obtain ⟨_, hdraft, hs⟩ := bind_eq_ok_iff.mp hbuild
    cases hdraft
    obtain ⟨hsound, hnodes⟩ := Surface.Draft.build_eq_ok_iff.mp (mapError_eq_ok_iff.mp hs)
    have heq : s = t.tabulated := congrArg Surface.mk hnodes
    rw [heq] at hsound
    exact ⟨accepted_of_sound hrows hsound, heq⟩
  · intro h
    obtain ⟨haccepted, rfl⟩ := h
    exact haccepted.surface_eq_ok

/-- A salt table is accepted exactly if it has a surface, whatever numbers are in it and however long its
lists are. The surface has the pressures of the rows for its outer axis, and at the node of each row the
samples that were supplied for the row, all of them and no others. -/
theorem check_iff_exists_surface (region : Region.Id) (t : SaltTable Float) :
    (t.check region = .ok () ↔ ∃ s, t.surface region = .ok s) ∧
    ∀ s, t.surface region = .ok s → s.xs = t.pressures ∧ ∀ i < t.saturated.length,
      ∃ samples, t.undersaturated[i]? = some samples ∧
        s.branch i = samples.map fun x ↦ (x.concentration, x.ratio) := by
  refine ⟨⟨fun hcheck ↦ ?_, fun ⟨s, hs⟩ ↦ ?_⟩, fun s hs ↦ ?_⟩
  · exact ⟨t.tabulated, (check_eq_ok_iff.mp hcheck).surface_eq_ok⟩
  · exact check_eq_ok_iff.mpr (surface_eq_ok_iff.mp hs).1
  · obtain ⟨haccepted, rfl⟩ := surface_eq_ok_iff.mp hs
    exact ⟨xs_tabulated t, fun i hi ↦ haccepted.exists_samples hi⟩

end ReservoirGas.SaltTable

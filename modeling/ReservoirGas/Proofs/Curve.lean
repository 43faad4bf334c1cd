import ReservoirGas.Proofs.Polyline
import ReservoirGas.Proofs.Tables

namespace ReservoirGas

/-- `f` follows the line of each segment from end to end, that of the first segment also before it and that
of the last segment also after it. -/
structure Joins (f : ℚ → ℚ) (points : List (ℚ × ℚ)) : Prop where
  ascending : Ascending points
  segment : ∀ {i p q}, points[i]? = some p → points[i + 1]? = some q →
    Set.EqOn f (lineThrough p q) (Set.Icc p.1 q.1)
  before : ∀ {p q}, points[0]? = some p → points[1]? = some q → Set.EqOn f (lineThrough p q) (Set.Iic p.1)
  after : ∀ {i p q}, points.length = i + 2 → points[i]? = some p → points[i + 1]? = some q →
    Set.EqOn f (lineThrough p q) (Set.Ici q.1)
  meet : ∀ {i p q r}, points[i]? = some p → points[i + 1]? = some q → points[i + 2]? = some r →
    lineThrough p q q.1 = lineThrough q r q.1
  sample : ∀ p ∈ points, f p.1 = p.2

theorem joins_polyline {points : List (ℚ × ℚ)} (h : Ascending points) : Joins (polyline points) points where
  ascending := h
  segment hp hq _ hx := polyline_eq_lineThrough h hp hq (.inr hx.1) (.inr hx.2)
  before hp hq _ hx := polyline_eq_lineThrough h hp hq (.inl rfl)
    (.inr (le_trans hx (h.getElem?_lt hp hq).le))
  after hlength hp hq _ hx := polyline_eq_lineThrough h hp hq
    (.inr ((h.getElem?_lt hp hq).le.trans hx)) (.inl hlength)
  meet hp hq _ := by rw [lineThrough_right (h.getElem?_lt hp hq), lineThrough_left]
  sample _ hp := polyline_sample h hp

namespace Curve

open Exact

theorem eval_points {c : Curve Exact} {points : List (ℚ × ℚ)} (hc : c.points = points.map point)
    (h : Ascending points) (hlength : 2 ≤ points.length) (x : ℚ) :
    c.eval (number x) = number (polyline points x) := by
  rw [eval, eval?, hc, eval?_points h hlength]
  rfl

/-- A curve made of rational columns is defined everywhere, as the function that joins its samples by lines. It
increases or decreases throughout where the ordinates increase or decrease from sample to sample. -/
theorem eval_joins {xs ys : List ℚ} {c : Curve Exact}
    (h : ofColumns (xs.map number) (ys.map number) = .ok c) :
    ∃ f : ℚ → ℚ, (∀ x, c.eval (number x) = number (f x)) ∧ Joins f (xs.zip ys) ∧
      (ys.Pairwise (· < ·) → StrictMono f) ∧ (ys.Pairwise (· > ·) → StrictAnti f) := by
  obtain ⟨⟨hlengths, htwo, -, -, hincreasing⟩, rfl⟩ := ofColumns_eq_ok_iff.mp h
  rw [List.length_map, List.length_map] at hlengths
  rw [List.length_map] at htwo
  have hfst : (xs.zip ys).map Prod.fst = xs := List.map_fst_zip hlengths.le
  have hsnd : (xs.zip ys).map Prod.snd = ys := List.map_snd_zip hlengths.ge
  have hascending : Ascending (xs.zip ys) := by
    rw [Ascending, ← List.pairwise_map (f := Prod.fst) (R := (· < ·)), hfst]
    exact increasing_map_number.mp hincreasing
  have hpoints : 2 ≤ (xs.zip ys).length := by
    rw [List.length_zip, ← hlengths, min_self]
    exact htwo
  refine ⟨polyline (xs.zip ys), eval_points (List.zip_map ..) hascending hpoints, joins_polyline hascending,
    fun hys ↦ ?_, fun hys ↦ ?_⟩
  · exact strictMono_polyline hascending hpoints (hsnd.symm ▸ hys)
  · exact strictAnti_polyline hascending hpoints (hsnd.symm ▸ hys)

theorem eval_joins_bent : ∃ (c : Curve Exact) (f : ℚ → ℚ),
    ofColumns ([1, 2, 4].map number) ([10, 20, 30].map number) = .ok c ∧ (∀ x, c.eval (number x) = number (f x)) ∧
    f 0 = 0 ∧ f 2 = 20 ∧ f 6 = 40 ∧ StrictMono f := by
  have hbuild : ofColumns ([1, 2, 4].map number) ([10, 20, 30].map number) =
      .ok ⟨([1, 2, 4].map number).zip ([10, 20, 30].map number)⟩ := by decide +kernel
  obtain ⟨f, heval, hjoins, hmono, -⟩ := eval_joins hbuild
  refine ⟨_, f, hbuild, heval, ?_, hjoins.sample (2, 20) (by simp), ?_, hmono (by decide)⟩
  · have hbefore : f 0 = lineThrough (1, 10) (2, 20) 0 := hjoins.before rfl rfl (by norm_num)
    norm_num [hbefore, lineThrough]
  · have hafter : f 6 = lineThrough (2, 20) (4, 30) 6 := hjoins.after (i := 1) rfl rfl rfl (by norm_num)
    norm_num [hafter, lineThrough]

end Curve

end ReservoirGas

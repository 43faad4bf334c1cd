import ReservoirGas.Proofs.Axis
import ReservoirGas.Proofs.Exact
import Mathlib.Algebra.Order.Field.Rat
import Mathlib.Data.Set.Monotone
import Mathlib.Order.Monotone.Union
import Mathlib.Tactic.FieldSimp
import Mathlib.Tactic.Ring

namespace ReservoirGas

def lineThrough (p q : ℚ × ℚ) (x : ℚ) : ℚ :=
  p.2 + (q.2 - p.2) / (q.1 - p.1) * (x - p.1)

/-- The function that runs straight from point to point, and straight on before the first and after the last
segment. A single point stands for a constant. -/
def polyline : List (ℚ × ℚ) → ℚ → ℚ
  | [], _ => 0
  | [p], _ => p.2
  | p :: q :: r, x => if r = [] ∨ x < q.1 then lineThrough p q x else polyline (q :: r) x

def Ascending (points : List (ℚ × ℚ)) : Prop :=
  points.Pairwise fun p q ↦ p.1 < q.1

def mirror (p : ℚ × ℚ) : ℚ × ℚ :=
  (p.1, -p.2)

section Line

variable {p q : ℚ × ℚ} {x : ℚ}

theorem lineThrough_left (p q : ℚ × ℚ) : lineThrough p q p.1 = p.2 := by
  rw [lineThrough, sub_self, mul_zero, add_zero]

theorem lineThrough_right (h : p.1 < q.1) : lineThrough p q q.1 = q.2 := by
  rw [lineThrough, div_mul_cancel₀ _ (sub_pos.mpr h).ne', add_sub_cancel]

theorem lineThrough_mirror (p q : ℚ × ℚ) (x : ℚ) :
    lineThrough (mirror p) (mirror q) x = -lineThrough p q x := by
  simp only [lineThrough, mirror]
  ring

theorem lineThrough_of_affine {a b : ℚ} (h : p.1 < q.1) (hp : p.2 = a + b * p.1) (hq : q.2 = a + b * q.1) :
    lineThrough p q x = a + b * x := by
  have hrun : q.1 - p.1 ≠ 0 := (sub_pos.mpr h).ne'
  have hslope : (q.2 - p.2) / (q.1 - p.1) = b := by
    rw [hp, hq, div_eq_iff hrun]
    ring
  rw [lineThrough, hslope, hp]
  ring

theorem strictMono_lineThrough (h : p.1 < q.1) (hvalue : p.2 < q.2) : StrictMono (lineThrough p q) := by
  intro x y hxy
  have hslope : 0 < (q.2 - p.2) / (q.1 - p.1) := div_pos (sub_pos.mpr hvalue) (sub_pos.mpr h)
  have hstep := mul_lt_mul_of_pos_left (sub_lt_sub_right hxy p.1) hslope
  exact add_lt_add_right hstep p.2

theorem le_lineThrough {m : ℚ} (h : p.1 < q.1) (hp : m ≤ p.2) (hq : m ≤ q.2) (hx : p.1 ≤ x) (hx' : x ≤ q.1) :
    m ≤ lineThrough p q x := by
  have hrun := sub_pos.mpr h
  have hweights : lineThrough p q x - m =
      ((q.1 - x) * (p.2 - m) + (x - p.1) * (q.2 - m)) / (q.1 - p.1) := by
    rw [lineThrough]
    field_simp
    ring
  have hsum := add_nonneg (mul_nonneg (sub_nonneg.mpr hx') (sub_nonneg.mpr hp))
    (mul_nonneg (sub_nonneg.mpr hx) (sub_nonneg.mpr hq))
  exact sub_nonneg.mp (hweights ▸ div_nonneg hsum hrun.le)

end Line

section Polyline

variable {points r : List (ℚ × ℚ)} {p q : ℚ × ℚ} {x : ℚ}

theorem Ascending.lt (h : Ascending (p :: q :: r)) : p.1 < q.1 :=
  List.rel_of_pairwise_cons h List.mem_cons_self

theorem Ascending.head_le (h : Ascending (p :: r)) (hq : q ∈ p :: r) : p.1 ≤ q.1 := by
  rcases List.mem_cons.mp hq with rfl | hq
  · exact le_rfl
  · exact (List.rel_of_pairwise_cons h hq).le

theorem Ascending.getElem?_lt (h : Ascending points) {i : Nat} (hp : points[i]? = some p)
    (hq : points[i + 1]? = some q) : p.1 < q.1 := by
  obtain ⟨hi, rfl⟩ := List.getElem?_eq_some_iff.mp hp
  obtain ⟨hi', rfl⟩ := List.getElem?_eq_some_iff.mp hq
  exact List.pairwise_iff_getElem.mp h i (i + 1) hi hi' (Nat.lt_succ_self i)

/-- Two points or more are one segment, or a first segment and the others. -/
@[elab_as_elim]
theorem Ascending.segments
    {motive : (points : List (ℚ × ℚ)) → Ascending points → 2 ≤ points.length → Prop}
    (last : ∀ p q (h : Ascending [p, q]), motive [p, q] h le_rfl)
    (first : ∀ p q r (h : Ascending (p :: q :: r)), r ≠ [] → ∀ hrest : 2 ≤ (q :: r).length,
      motive (q :: r) h.of_cons hrest → motive (p :: q :: r) h (Nat.le_add_left 2 r.length))
    (points : List (ℚ × ℚ)) (h : Ascending points) (hlength : 2 ≤ points.length) : motive points h hlength := by
  induction points with
  | nil => simp at hlength
  | cons p rest ih =>
    match rest with
    | [] => simp at hlength
    | [q] => exact last p q h
    | q :: q' :: r =>
      have hrest : 2 ≤ (q :: q' :: r).length := Nat.le_add_left 2 r.length
      exact first p q (q' :: r) h (List.cons_ne_nil q' r) hrest (ih h.of_cons hrest)

theorem polyline_of_stop (h : r = [] ∨ x < q.1) : polyline (p :: q :: r) x = lineThrough p q x :=
  if_pos h

theorem polyline_of_step (hr : r ≠ []) (hx : q.1 ≤ x) :
    polyline (p :: q :: r) x = polyline (q :: r) x := by
  apply if_neg
  rw [not_or, not_lt]
  exact ⟨hr, hx⟩

theorem polyline_head (h : Ascending (p :: r)) : polyline (p :: r) p.1 = p.2 := by
  cases r with
  | nil => rfl
  | cons q r => rw [polyline_of_stop (.inr h.lt), lineThrough_left]

/-- The walk goes past a point at which it could stop as well. -/
theorem polyline_of_le (h : Ascending (p :: q :: r)) (hx : x ≤ q.1) :
    polyline (p :: q :: r) x = lineThrough p q x := by
  rcases hx.lt_or_eq with hlt | rfl
  · exact polyline_of_stop (.inr hlt)
  · by_cases hr : r = []
    · exact polyline_of_stop (.inl hr)
    · rw [polyline_of_step hr le_rfl, polyline_head h.of_cons, lineThrough_right h.lt]

theorem polyline_eq_lineThrough (h : Ascending points) {i : Nat} (hp : points[i]? = some p)
    (hq : points[i + 1]? = some q) (hleft : i = 0 ∨ p.1 ≤ x) (hright : points.length = i + 2 ∨ x ≤ q.1) :
    polyline points x = lineThrough p q x := by
  induction points generalizing i with
  | nil => cases hp
  | cons a rest ih =>
    cases rest with
    | nil => cases hq
    | cons b r =>
      cases i with
      | zero =>
        cases hp
        cases hq
        rcases hright with hlength | hx
        · exact polyline_of_stop (.inl (List.length_eq_zero_iff.mp (by simpa using hlength)))
        · exact polyline_of_le h hx
      | succ k =>
        have hpx : p.1 ≤ x := hleft.resolve_left (Nat.succ_ne_zero k)
        have hb : b.1 ≤ p.1 := Ascending.head_le h.of_cons (List.mem_of_getElem? hp)
        have hr : r ≠ [] := List.ne_nil_of_mem (List.mem_of_getElem? hq)
        rw [polyline_of_step hr (hb.trans hpx)]
        exact ih h.of_cons hp hq (.inr hpx) (hright.imp_left fun hlength ↦ by simpa using hlength)

theorem polyline_sample (h : Ascending points) (hp : p ∈ points) : polyline points p.1 = p.2 := by
  induction points with
  | nil => cases hp
  | cons a rest ih =>
    rcases List.mem_cons.mp hp with rfl | hp
    · exact polyline_head h
    · cases rest with
      | nil => cases hp
      | cons b r =>
        have hb := Ascending.head_le h.of_cons hp
        by_cases hr : r = []
        · subst hr
          cases List.mem_singleton.mp hp
          rw [polyline_of_stop (.inl rfl), lineThrough_right h.lt]
        · rw [polyline_of_step hr hb]
          exact ih h.of_cons hp

theorem polyline_of_affine {a b : ℚ} (h : Ascending points) (hlength : 2 ≤ points.length)
    (hvalue : ∀ p ∈ points, p.2 = a + b * p.1) : polyline points x = a + b * x := by
  induction points, h, hlength using Ascending.segments with
  | last p q h =>
    rw [polyline_of_stop (.inl rfl)]
    exact lineThrough_of_affine h.lt (hvalue p (by simp)) (hvalue q (by simp))
  | first p q r h hr _ ih =>
    rcases le_total x q.1 with hx | hx
    · rw [polyline_of_le h hx]
      exact lineThrough_of_affine h.lt (hvalue p (by simp)) (hvalue q (by simp))
    · rw [polyline_of_step hr hx]
      exact ih fun p hp ↦ hvalue p (List.mem_cons_of_mem _ hp)

theorem ascending_mirror (h : Ascending points) : Ascending (points.map mirror) :=
  List.pairwise_map.mpr h

theorem polyline_mirror (points : List (ℚ × ℚ)) (x : ℚ) :
    polyline (points.map mirror) x = -polyline points x := by
  induction points with
  | nil => exact neg_zero.symm
  | cons p rest ih =>
    cases rest with
    | nil => rfl
    | cons q r =>
      simp only [List.map_cons, polyline, List.map_eq_nil_iff] at ih ⊢
      split
      · rw [if_pos ‹_›, lineThrough_mirror]
      · rw [if_neg ‹_›, ih]

theorem strictMono_polyline (h : Ascending points) (hlength : 2 ≤ points.length)
    (hvalue : (points.map Prod.snd).Pairwise (· < ·)) : StrictMono (polyline points) := by
  induction points, h, hlength using Ascending.segments with
  | last p q h =>
    have hline : polyline [p, q] = lineThrough p q := funext fun x ↦ polyline_of_stop (.inl rfl)
    rw [hline]
    exact strictMono_lineThrough h.lt (List.rel_of_pairwise_cons hvalue List.mem_cons_self)
  | first p q r h hr _ ih =>
    -- the first segment and the polyline after it meet in `q`
    have hbefore : Set.EqOn (polyline (p :: q :: r)) (lineThrough p q) (Set.Iic q.1) :=
      fun x hx ↦ polyline_of_le h hx
    have hafter : Set.EqOn (polyline (p :: q :: r)) (polyline (q :: r)) (Set.Ici q.1) :=
      fun x hx ↦ polyline_of_step hr hx
    have hline := strictMono_lineThrough h.lt (List.rel_of_pairwise_cons hvalue List.mem_cons_self)
    have hrest := ih hvalue.of_cons
    exact (hbefore.congr_strictMonoOn.mpr (hline.strictMonoOn _)).Iic_union_Ici
      (hafter.congr_strictMonoOn.mpr (hrest.strictMonoOn _))

theorem strictAnti_polyline (h : Ascending points) (hlength : 2 ≤ points.length)
    (hvalue : (points.map Prod.snd).Pairwise (· > ·)) : StrictAnti (polyline points) := by
  have hmirror : ((points.map mirror).map Prod.snd).Pairwise (· < ·) := by
    rw [List.pairwise_map] at hvalue
    rw [List.map_map, List.pairwise_map]
    exact hvalue.imp fun {a b} hab ↦ neg_lt_neg hab
  have hmono := strictMono_polyline (ascending_mirror h) (by simpa using hlength) hmirror
  intro x y hxy
  have hlt := hmono hxy
  rw [polyline_mirror, polyline_mirror] at hlt
  exact neg_lt_neg_iff.mp hlt

theorem exists_le_polyline (h : Ascending points) (hleft : ∃ p ∈ points, p.1 ≤ x)
    (hright : ∃ p ∈ points, x ≤ p.1) : ∃ p ∈ points, p.2 ≤ polyline points x := by
  induction points with
  | nil =>
    obtain ⟨p, hp, -⟩ := hleft
    cases hp
  | cons p rest ih =>
    have hpx : p.1 ≤ x := by
      obtain ⟨a, ha, hax⟩ := hleft
      exact (h.head_le ha).trans hax
    cases rest with
    | nil => exact ⟨p, List.mem_cons_self, le_rfl⟩
    | cons q r =>
      by_cases hq : x ≤ q.1
      · rw [polyline_of_le h hq]
        rcases le_total p.2 q.2 with hpq | hqp
        · exact ⟨p, by simp, le_lineThrough h.lt le_rfl hpq hpx hq⟩
        · exact ⟨q, by simp, le_lineThrough h.lt hqp le_rfl hpx hq⟩
      · -- `x` lies beyond `q`, so the point beyond `x` comes after `q`
        have hqx := not_le.mp hq
        obtain ⟨b, hb, hxb⟩ := hright
        have hbr : b ∈ r := by
          rcases List.mem_cons.mp hb with rfl | hb
          · exact absurd (hqx.trans_le hxb) h.lt.not_gt
          rcases List.mem_cons.mp hb with rfl | hb
          · exact absurd hxb hq
          · exact hb
        rw [polyline_of_step (List.ne_nil_of_mem hbr) hqx.le]
        obtain ⟨a, ha, hle⟩ := ih h.of_cons ⟨q, List.mem_cons_self, hqx.le⟩ ⟨b, List.mem_cons_of_mem q hbr, hxb⟩
        exact ⟨a, List.mem_cons_of_mem p ha, hle⟩

theorem exists_polyline_le (h : Ascending points) (hleft : ∃ p ∈ points, p.1 ≤ x)
    (hright : ∃ p ∈ points, x ≤ p.1) : ∃ p ∈ points, polyline points x ≤ p.2 := by
  obtain ⟨a, ha, hax⟩ := hleft
  obtain ⟨b, hb, hxb⟩ := hright
  obtain ⟨p', hp', hle⟩ := exists_le_polyline (ascending_mirror h) ⟨mirror a, List.mem_map_of_mem ha, hax⟩
    ⟨mirror b, List.mem_map_of_mem hb, hxb⟩
  obtain ⟨p, hp, rfl⟩ := List.mem_map.mp hp'
  rw [polyline_mirror] at hle
  exact ⟨p, hp, neg_le_neg_iff.mp hle⟩

end Polyline

namespace Exact

def point (p : ℚ × ℚ) : Exact × Exact :=
  (number p.1, number p.2)

theorem increasing_map_number {xs : List ℚ} : Axis.Increasing (xs.map number) ↔ xs.Pairwise (· < ·) := by
  rw [Axis.Increasing, List.pairwise_map]
  simp only [lt_number_iff]

variable {points : List (ℚ × ℚ)}

theorem line_number {p q : ℚ × ℚ} (h : p.1 < q.1) (x : ℚ) :
    Axis.line (number p.1) (number p.2) (number q.1) (number q.2) (number x) = number (lineThrough p q x) := by
  have hrun : q.1 - p.1 ≠ 0 := (sub_pos.mpr h).ne'
  have hapart : (number q.1 == number p.1) = false := decide_eq_false h.ne'
  rw [Axis.line, hapart, if_neg Bool.false_ne_true, number_sub, number_sub, number_sub, number_mul,
    number_div _ hrun, number_add, lineThrough, div_mul_eq_mul_div]

/-- Between rational points nothing is undefined, and the result is read off their polyline. -/
theorem eval?_points (h : Ascending points) (hlength : 2 ≤ points.length) (x : ℚ) :
    Axis.eval? (points.map point) (number x) = some (number (polyline points x)) := by
  induction points, h, hlength using Ascending.segments with
  | last p q h =>
    rw [polyline_of_stop (.inl rfl), ← line_number h.lt]
    exact Axis.eval?_of_stop (.inl rfl)
  | first p q r h hr _ ih =>
    rcases lt_or_ge x q.1 with hx | hx
    · rw [polyline_of_stop (.inr hx), ← line_number h.lt]
      exact Axis.eval?_of_stop (.inr (decide_eq_false hx.not_ge))
    · rw [polyline_of_step hr hx, ← ih]
      exact Axis.eval?_of_step (mt List.map_eq_nil_iff.mp hr) (le_number_iff.mpr (h.lt.le.trans hx))
        (le_number_iff.mpr hx)

end Exact

end ReservoirGas

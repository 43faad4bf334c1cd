import ReservoirGas.Proofs.Polyline
import ReservoirGas.Proofs.Tables
import Mathlib.Data.Set.List

namespace ReservoirGas

open Exact

namespace Exact

def Within (values : List Exact) (x : ℚ) : Prop :=
  (∃ a ≤ x, number a ∈ values) ∧ ∃ b ≥ x, number b ∈ values

theorem within_map_number {values : List ℚ} {x : ℚ} :
    Within (values.map number) x ↔ (∃ a ∈ values, a ≤ x) ∧ ∃ b ∈ values, x ≤ b := by
  have hmem (a : ℚ) : number a ∈ values.map number ↔ a ∈ values :=
    List.mem_map_of_injective fun _ _ h ↦ number.inj h
  simp only [Within, hmem, ge_iff_le, and_comm]

theorem Within.mono {values values' : List Exact} {x : ℚ} (h : Within values x) (hsubset : values ⊆ values') :
    Within values' x := by
  obtain ⟨⟨a, hax, ha⟩, b, hxb, hb⟩ := h
  exact ⟨⟨a, hax, hsubset ha⟩, b, hxb, hsubset hb⟩

theorem Within.trans {values : List Exact} {xs : List ℚ} {x : ℚ} (h : Within (xs.map number) x)
    (hxs : ∀ v ∈ xs, Within values v) : Within values x := by
  obtain ⟨⟨a, ha, hax⟩, b, hb, hxb⟩ := within_map_number.mp h
  obtain ⟨⟨a', ha', hmem⟩, -⟩ := hxs a ha
  obtain ⟨-, b', hb', hmem'⟩ := hxs b hb
  exact ⟨⟨a', ha'.trans hax, hmem⟩, b', hxb.trans hb', hmem'⟩

theorem within_polyline {points : List (ℚ × ℚ)} (h : Ascending points) {x : ℚ}
    (hx : Within ((points.map Prod.fst).map number) x) :
    Within ((points.map Prod.snd).map number) (polyline points x) := by
  simp only [within_map_number, List.mem_map, exists_exists_and_eq_and] at hx ⊢
  obtain ⟨hleft, hright⟩ := hx
  exact ⟨exists_le_polyline h hleft hright, exists_polyline_le h hleft hright⟩

theorem exists_points {samples : List (Exact × Exact)}
    (h : ∀ s ∈ samples, Scalar.isFinite s.1 = true ∧ Scalar.isFinite s.2 = true) :
    ∃ points : List (ℚ × ℚ), points.map point = samples := by
  have hrange : samples ∈ Set.range (List.map point) := by
    rw [Set.range_list_map]
    intro s hs
    obtain ⟨hfst, hsnd⟩ := h s hs
    obtain ⟨y, hy⟩ := isFinite_iff.mp hfst
    obtain ⟨v, hv⟩ := isFinite_iff.mp hsnd
    exact ⟨(y, v), Prod.ext hy.symm hv.symm⟩
  exact hrange

end Exact

structure Bilinear where
  constant : ℚ
  slopeX : ℚ
  slopeY : ℚ
  twist : ℚ

def Bilinear.value (f : Bilinear) (x y : ℚ) : ℚ :=
  f.constant + f.slopeX * x + f.slopeY * y + f.twist * x * y

namespace Surface

namespace Node

def exact (n : Node ℚ) : Node Exact :=
  ⟨number n.x, n.branch.map point⟩

theorem eval_exact {n : Node ℚ} (hne : n.branch ≠ []) (h : Ascending n.branch) (y : ℚ) :
    n.exact.eval (number y) = number (polyline n.branch y) := by
  obtain ⟨x, branch⟩ := n
  match branch with
  | [] => exact absurd rfl hne
  | [p] => rfl
  | p :: q :: r =>
    have heval : Axis.eval? ((p :: q :: r).map point) (number y) = _ :=
      eval?_points h (Nat.le_add_left 2 r.length) y
    exact congrArg (·.getD Scalar.undefined) heval

theorem Sound.exists_exact {n : Node Exact} (h : n.Sound) (hx : Scalar.isFinite n.x = true) :
    ∃ m : Node ℚ, m.exact = n := by
  obtain ⟨x, hx⟩ := isFinite_iff.mp hx
  obtain ⟨points, hpoints⟩ := exists_points h.finite
  refine ⟨⟨x, points⟩, ?_⟩
  rw [exact, hpoints, ← hx]

theorem Sound.ascending {n : Node ℚ} (h : n.exact.Sound) : Ascending n.branch := by
  have hincreasing := h.increasing
  rw [exact, List.map_map] at hincreasing
  have hys : ((n.branch.map Prod.fst).map number).Pairwise fun a b ↦ Scalar.lt a b = true := by
    rw [List.map_map]
    exact hincreasing
  exact List.pairwise_map.mp (increasing_map_number.mp hys)

end Node

def exact (t : Surface ℚ) : Surface Exact :=
  ⟨t.nodes.map Node.exact⟩

structure Ascends (t : Surface ℚ) : Prop where
  ne_nil : t.nodes ≠ []
  outer : t.xs.Pairwise (· < ·)
  branch_ne_nil : ∀ n ∈ t.nodes, n.branch ≠ []
  inner : ∀ n ∈ t.nodes, Ascending n.branch

/-- The values of the branches at `y`, over the outer axis. -/
def profile (t : Surface ℚ) (y : ℚ) : List (ℚ × ℚ) :=
  t.nodes.map fun n ↦ (n.x, polyline n.branch y)

theorem Sound.exists_exact {s : Surface Exact} (h : s.Sound) : ∃ t : Surface ℚ, t.exact = s ∧ t.Ascends := by
  have hrange : s.nodes ∈ Set.range (List.map Node.exact) := by
    rw [Set.range_list_map]
    intro n hn
    exact (h.node n hn).exists_exact (h.finite n.x (List.mem_map_of_mem hn))
  obtain ⟨nodes, hnodes⟩ := hrange
  have hsound : ∀ n ∈ nodes, n.exact.Sound := by
    intro n hn
    exact h.node n.exact (hnodes ▸ List.mem_map_of_mem hn)
  refine ⟨⟨nodes⟩, congrArg Surface.mk hnodes, ?_, ?_, fun n hn ↦ ?_, fun n hn ↦ (hsound n hn).ascending⟩
  · intro hempty
    exact h.ne_nil (hnodes ▸ congrArg (List.map Node.exact) hempty)
  · have hxs : s.xs = (nodes.map Node.x).map number := by
      rw [xs, ← hnodes, List.map_map, List.map_map]
      rfl
    exact increasing_map_number.mp (hxs ▸ h.increasing)
  · exact mt (congrArg (List.map point)) (hsound n hn).ne_nil

variable {t : Surface ℚ}

theorem Ascends.profile (h : t.Ascends) (y : ℚ) : Ascending (t.profile y) :=
  List.pairwise_map.mpr (List.pairwise_map.mp h.outer)

theorem Ascends.eval_node (h : t.Ascends) {n : Node ℚ} (hn : n ∈ t.nodes) (y : ℚ) :
    n.exact.eval (number y) = number (polyline n.branch y) :=
  Node.eval_exact (h.branch_ne_nil n hn) (h.inner n hn) y

theorem Ascends.evalBranch_exact (h : t.Ascends) {i : Nat} {n : Node ℚ} (hn : t.nodes[i]? = some n) (y : ℚ) :
    t.exact.evalBranch i (number y) = number (polyline n.branch y) := by
  rw [evalBranch, exact, List.getElem?_map, hn]
  exact h.eval_node (List.mem_of_getElem? hn) y

theorem Ascends.eval_exact (h : t.Ascends) (x y : ℚ) :
    t.exact.eval (number x) (number y) = number (polyline (t.profile y) x) := by
  by_cases htwo : 2 ≤ t.nodes.length
  · have hprofile : t.exact.nodes.map (fun n ↦ (n.x, n.eval (number y))) = (t.profile y).map point := by
      rw [exact, Surface.profile, List.map_map, List.map_map]
      exact List.map_congr_left fun n hn ↦ Prod.ext rfl (h.eval_node hn y)
    have hsize : 2 ≤ t.exact.size := by rwa [size, exact, List.length_map]
    have hlength : 2 ≤ (t.profile y).length := by rwa [Surface.profile, List.length_map]
    rw [eval_of_two_le hsize, hprofile, eval?_points (h.profile y) hlength]
    rfl
  · have hpos := List.length_pos_iff.mpr h.ne_nil
    obtain ⟨n, hn⟩ := List.length_eq_one_iff.mp (show t.nodes.length = 1 by omega)
    have hsingle : t.exact.eval (number x) (number y) = n.exact.eval (number y) := by
      rw [eval, exact, hn]
      rfl
    rw [hsingle, h.eval_node (hn ▸ List.mem_cons_self) y, Surface.profile, hn]
    rfl

theorem getElem?_profile {i : Nat} {n : Node ℚ} (hn : t.nodes[i]? = some n) (y : ℚ) :
    (t.profile y)[i]? = some (n.x, polyline n.branch y) := by
  rw [profile, List.getElem?_map, hn]
  rfl

theorem exists_node_of_xs {i : Nat} {x : Exact} (hx : t.exact.xs[i]? = some x) :
    ∃ n, t.nodes[i]? = some n ∧ number n.x = x := by
  rw [xs, exact, List.map_map, List.getElem?_map] at hx
  obtain ⟨n, hn, rfl⟩ := Option.map_eq_some_iff.mp hx
  exact ⟨n, hn, rfl⟩

theorem branch_exact {i : Nat} {n : Node ℚ} (hn : t.nodes[i]? = some n) :
    t.exact.branch i = n.branch.map point := by
  rw [branch, exact, List.getElem?_map, hn]
  rfl

theorem branchYs_exact {i : Nat} {n : Node ℚ} (hn : t.nodes[i]? = some n) :
    t.exact.branchYs i = (n.branch.map Prod.fst).map number := by
  rw [branchYs, branch_exact hn, List.map_map, List.map_map]
  rfl

theorem branchValues_exact {i : Nat} {n : Node ℚ} (hn : t.nodes[i]? = some n) :
    t.exact.branchValues i = (n.branch.map Prod.snd).map number := by
  rw [branchValues, branch_exact hn, List.map_map, List.map_map]
  rfl

/-- Between two neighbouring nodes, and where both of their branches have samples on either side, a surface keeps
within the values of these branches. -/
theorem Sound.exists_eval_within {s : Surface Exact} (h : s.Sound) {i : Nat} {x₀ x₁ x y : ℚ}
    (hx₀ : s.xs[i]? = some (number x₀)) (hx₁ : s.xs[i + 1]? = some (number x₁)) (hleft : x₀ ≤ x)
    (hright : x ≤ x₁) (hy₀ : Within (s.branchYs i) y) (hy₁ : Within (s.branchYs (i + 1)) y) :
    ∃ v : ℚ, s.eval (number x) (number y) = number v ∧
      Within (s.branchValues i ++ s.branchValues (i + 1)) v := by
  obtain ⟨t, rfl, ht⟩ := h.exists_exact
  obtain ⟨n, hn, hnx⟩ := exists_node_of_xs hx₀
  obtain ⟨m, hm, hmx⟩ := exists_node_of_xs hx₁
  cases hnx
  cases hmx
  rw [branchYs_exact hn] at hy₀
  rw [branchYs_exact hm] at hy₁
  have hvn := within_polyline (ht.inner n (List.mem_of_getElem? hn)) hy₀
  have hvm := within_polyline (ht.inner m (List.mem_of_getElem? hm)) hy₁
  rw [← branchValues_exact hn] at hvn
  rw [← branchValues_exact hm] at hvm
  -- only the two nodes matter, so the rest of the outer axis is left out
  have hlocal : polyline (t.profile y) x =
      polyline [(n.x, polyline n.branch y), (m.x, polyline m.branch y)] x :=
    polyline_eq_lineThrough (ht.profile y) (getElem?_profile hn y) (getElem?_profile hm y) (.inr hleft) (.inr hright)
  have hpair : Ascending [(n.x, polyline n.branch y), (m.x, polyline m.branch y)] :=
    List.pairwise_pair.mpr ((ht.profile y).getElem?_lt (getElem?_profile hn y) (getElem?_profile hm y))
  have hblend := within_polyline hpair (within_map_number.mpr ⟨⟨n.x, by simp, hleft⟩, m.x, by simp, hright⟩)
  refine ⟨_, ht.eval_exact x y, ?_⟩
  rw [hlocal]
  refine hblend.trans fun v hv ↦ ?_
  simp only [List.map_cons, List.map_nil, List.mem_cons, List.not_mem_nil, or_false] at hv
  rcases hv with rfl | rfl
  · exact hvn.mono (List.subset_append_left _ _)
  · exact hvm.mono (List.subset_append_right _ _)

/-- On a node a surface has the values of the branch of that node, which are numbers at every inner
coordinate, and at the samples of the branch it has theirs. -/
theorem eval_at_node {d : Draft Exact} {s : Surface Exact} (h : d.build = .ok s) {i : Nat} {x : Exact}
    (hx : s.xs[i]? = some x) :
    (∀ y : ℚ, ∃ v : ℚ, s.evalBranch i (number y) = number v ∧ s.eval x (number y) = number v) ∧
      ∀ p ∈ s.branch i, s.eval x p.1 = p.2 := by
  obtain ⟨t, rfl, ht⟩ := (Draft.build_eq_ok_iff.mp h).1.exists_exact
  obtain ⟨n, hn, rfl⟩ := exists_node_of_xs hx
  have hnode (y : ℚ) : t.exact.eval (number n.x) (number y) = number (polyline n.branch y) := by
    have hmem := List.mem_of_getElem? (getElem?_profile hn y)
    rw [ht.eval_exact, polyline_sample (ht.profile y) hmem]
  refine ⟨fun y ↦ ⟨_, ht.evalBranch_exact hn y, hnode y⟩, fun p hp ↦ ?_⟩
  rw [branch_exact hn] at hp
  obtain ⟨q, hq, rfl⟩ := List.mem_map.mp hp
  have hsample := polyline_sample (ht.inner n (List.mem_of_getElem? hn)) hq
  exact (hnode q.1).trans (congrArg number hsample)

def ragged : Draft Exact :=
  ⟨[⟨number 1, [(number 0, number 4)]⟩,
    ⟨number 2, [(number 0, number 5), (number 1, number 6), (number 3, number 9)]⟩]⟩

theorem eval_at_node_ragged : ∃ s, ragged.build = .ok s ∧
    (∀ y : ℚ, ∃ v : ℚ, s.evalBranch 1 (number y) = number v ∧ s.eval (number 2) (number y) = number v) ∧
    s.eval (number 2) (number 3) = number 9 := by
  have hbuild : ragged.build = .ok ⟨ragged.nodes⟩ := by decide +kernel
  obtain ⟨hbranch, hsample⟩ := eval_at_node hbuild (show (xs ⟨ragged.nodes⟩)[1]? = some (number 2) from rfl)
  exact ⟨_, hbuild, hbranch, hsample (number 3, number 9) (List.mem_of_getLast? rfl)⟩

theorem Ascends.polyline_of_bilinear (h : t.Ascends) (hnodes : 2 ≤ t.nodes.length)
    (hbranch : ∀ n ∈ t.nodes, 2 ≤ n.branch.length) {f : Bilinear}
    (hvalue : ∀ n ∈ t.nodes, ∀ p ∈ n.branch, p.2 = f.value n.x p.1) (x y : ℚ) :
    polyline (t.profile y) x = f.value x y := by
  have hinner : ∀ n ∈ t.nodes, polyline n.branch y =
      (f.constant + f.slopeX * n.x) + (f.slopeY + f.twist * n.x) * y := by
    intro n hn
    refine polyline_of_affine (h.inner n hn) (hbranch n hn) fun p hp ↦ ?_
    rw [hvalue n hn p hp, Bilinear.value]
    ring
  have hlength : 2 ≤ (t.profile y).length := by rwa [Surface.profile, List.length_map]
  have houter : polyline (t.profile y) x =
      (f.constant + f.slopeY * y) + (f.slopeX + f.twist * y) * x := by
    refine polyline_of_affine (h.profile y) hlength (List.forall_mem_map.mpr fun n hn ↦ ?_)
    rw [hinner n hn]
    ring
  rw [houter, Bilinear.value]
  ring

/-- A surface with two nodes or more and two samples or more at each of them, all of them values of a bilinear
function, is this function, between its samples and beyond them. -/
theorem eval_bilinear {d : Draft Exact} {s : Surface Exact} (h : d.build = .ok s) (hnodes : 2 ≤ s.size)
    (hbranch : ∀ n ∈ s.nodes, 2 ≤ n.branch.length) {f : Bilinear}
    (hvalue : ∀ n ∈ s.nodes, ∀ p ∈ n.branch, ∃ x y : ℚ, n.x = number x ∧ p = (number y, number (f.value x y)))
    (x y : ℚ) : s.eval (number x) (number y) = number (f.value x y) := by
  obtain ⟨t, rfl, ht⟩ := (Draft.build_eq_ok_iff.mp h).1.exists_exact
  have hexact : ∀ n ∈ t.nodes, n.exact ∈ t.exact.nodes := fun n hn ↦ List.mem_map_of_mem hn
  rw [ht.eval_exact, ht.polyline_of_bilinear]
  · rwa [size, exact, List.length_map] at hnodes
  · intro n hn
    have hlength := hbranch n.exact (hexact n hn)
    rwa [Node.exact, List.length_map] at hlength
  · intro n hn p hp
    obtain ⟨x', y', hx, hp⟩ := hvalue n.exact (hexact n hn) (point p) (List.mem_map_of_mem hp)
    cases hx
    obtain ⟨hy, hv⟩ := Prod.mk.inj hp
    cases hy
    exact number.inj hv

def twisted : Draft Exact :=
  ⟨[⟨number 0, [(number 0, number 1), (number 1, number 4)]⟩,
    ⟨number 2, [(number (-1), number 0), (number 1, number 10), (number 3, number 20)]⟩]⟩

theorem eval_bilinear_twisted : ∃ s, twisted.build = .ok s ∧
    ∀ x y : ℚ, s.eval (number x) (number y) = number (1 + 2 * x + 3 * y + 1 * x * y) := by
  have hbuild : twisted.build = .ok ⟨twisted.nodes⟩ := by decide +kernel
  refine ⟨_, hbuild, eval_bilinear hbuild (by decide) (by decide) (f := ⟨1, 2, 3, 1⟩) ?_⟩
  intro n hn p hp
  simp only [twisted, List.mem_cons, List.not_mem_nil, or_false] at hn
  rcases hn with rfl | rfl <;> simp only [List.mem_cons, List.not_mem_nil, or_false] at hp
  · rcases hp with rfl | rfl
    · exact ⟨0, 0, rfl, by norm_num [Bilinear.value]⟩
    · exact ⟨0, 1, rfl, by norm_num [Bilinear.value]⟩
  · rcases hp with rfl | rfl | rfl
    · exact ⟨2, -1, rfl, by norm_num [Bilinear.value]⟩
    · exact ⟨2, 1, rfl, by norm_num [Bilinear.value]⟩
    · exact ⟨2, 3, rfl, by norm_num [Bilinear.value]⟩

end Surface

end ReservoirGas

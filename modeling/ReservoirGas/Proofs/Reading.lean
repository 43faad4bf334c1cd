import ReservoirGas.Proofs.Axis
import ReservoirGas.Proofs.Writing

namespace ReservoirGas

variable {α : Type} [Scalar α]

namespace Axis

abbrev Search (α : Type) := List α → α → Nat

/-- The segment that the search leads to. The count can be held between 1 and one less than the number of coordinates
only if there are two of them. -/
def segment? (search : Search α) (xs : List α) (x : α) : Option Nat :=
  if 2 ≤ xs.length then some (segmentAt xs.length (search xs x)) else none

def read? (search : Search α) (xs ys : List α) (x : α) : Option α := do
  let i ← segment? search xs x
  let x₀ ← xs[i]?
  let y₀ ← ys[i]?
  let x₁ ← xs[i + 1]?
  let y₁ ← ys[i + 1]?
  some (line x₀ y₀ x₁ y₁ x)

omit [Scalar α] in
theorem exists_segment? {xs : List α} (h : 2 ≤ xs.length) (search : Search α) (x : α) :
    ∃ i, segment? search xs x = some i ∧ i + 1 < xs.length :=
  ⟨_, if_pos h, segmentAt_lt h _⟩

theorem exists_read? {xs ys : List α} (h : 2 ≤ xs.length) (hlength : xs.length = ys.length) (search : Search α)
    (x : α) : ∃ v, read? search xs ys x = some v := by
  obtain ⟨i, hi, hlt⟩ := exists_segment? h search x
  have hi' : i < xs.length := Nat.lt_of_succ_lt hlt
  simp only [read?, hi, Option.bind_eq_bind, Option.bind_some, List.getElem?_eq_getElem hi',
    List.getElem?_eq_getElem (hlength ▸ hi'), List.getElem?_eq_getElem hlt, List.getElem?_eq_getElem (hlength ▸ hlt),
    Option.some.injEq, exists_eq']

theorem exists_read?_passed {points : List (α × α)} (h : 2 ≤ points.length) (x : α) :
    ∃ v, read? passed (points.map Prod.fst) (points.map Prod.snd) x = some v ∧ eval? points x = some v := by
  have hlength : 2 ≤ (points.map Prod.fst).length := by rwa [List.length_map]
  have hsegment : segment? passed (points.map Prod.fst) x = some (segment (points.map Prod.fst) x) := if_pos hlength
  have hlt := segmentAt_lt hlength (passed (points.map Prod.fst) x)
  rw [← segment_eq_segmentAt, List.length_map] at hlt
  simp only [read?, eval?, hsegment, Option.bind_eq_bind, Option.bind_some, List.getElem?_map,
    List.getElem?_eq_getElem hlt, List.getElem?_eq_getElem (Nat.lt_of_succ_lt hlt), Option.map_some,
    Option.some.injEq, and_self, exists_eq']

end Axis

namespace Surface

def readBranch? (search : Axis.Search α) (ys values : List α) (y : α) : Option α :=
  match ys.length with
  | 0 => none
  | 1 => values[0]?
  | _ => Axis.read? search ys values y

theorem exists_readBranch? {ys values : List α} (hne : ys ≠ []) (hlength : ys.length = values.length)
    (search : Axis.Search α) (y : α) : ∃ v, readBranch? search ys values y = some v := by
  rw [readBranch?]
  split
  case h_1 hzero => exact absurd (List.length_eq_zero_iff.mp hzero) hne
  case h_2 hone => exact ⟨_, List.getElem?_eq_getElem (by omega)⟩
  case h_3 hzero hone =>
    have hpos := List.length_pos_iff.mpr hne
    exact Axis.exists_read? (Nat.lt_of_le_of_ne hpos (Ne.symm hone)) hlength search y

theorem Node.readBranch?_passed {n : Node α} (hne : n.branch ≠ []) (y : α) :
    readBranch? Axis.passed (n.branch.map Prod.fst) (n.branch.map Prod.snd) y = some (n.eval y) := by
  obtain ⟨x, branch⟩ := n
  match branch with
  | [] => exact absurd rfl hne
  | [s] => rfl
  | s :: s' :: r =>
    have htwo : 2 ≤ (s :: s' :: r).length := Nat.le_add_left 2 r.length
    obtain ⟨v, hread, heval⟩ := Axis.exists_read?_passed htwo y
    have hvalue : eval ⟨x, s :: s' :: r⟩ y = v := congrArg (·.getD Scalar.undefined) heval
    rw [hvalue]
    exact hread

def across (s : Surface α) (y : α) : List (α × α) :=
  s.nodes.map fun n ↦ (n.x, n.eval y)

theorem map_fst_across (s : Surface α) (y : α) : (s.across y).map Prod.fst = s.xs := by
  rw [across, List.map_map]
  rfl

theorem length_across (s : Surface α) (y : α) : (s.across y).length = s.size :=
  List.length_map _

theorem getElem?_across {s : Surface α} {i : Nat} {n : Node α} (hn : s.nodes[i]? = some n) (y : α) :
    (s.across y)[i]? = some (n.x, n.eval y) := by
  rw [across, List.getElem?_map, hn]
  rfl

namespace Arena

def slice? (column : List α) (span : Nat × Nat) : Option (List α) :=
  if span.1 ≤ span.2 ∧ span.2 ≤ column.length then some (slice column span) else none

def evalBranch? (search : Axis.Search α) (a : Arena α) (i : Nat) (y : α) : Option α := do
  let span ← a.span? i
  let ys ← slice? a.ys span
  let values ← slice? a.values span
  readBranch? search ys values y

def eval? (search : Axis.Search α) (a : Arena α) (x y : α) : Option α :=
  if a.size = 1 then a.evalBranch? search 0 y
  else do
    let i ← Axis.segment? search a.xs x
    let v₀ ← a.evalBranch? search i y
    let v₁ ← a.evalBranch? search (i + 1) y
    let x₀ ← a.xs[i]?
    let x₁ ← a.xs[i + 1]?
    some (Axis.line x₀ v₀ x₁ v₁ x)

/-- The samples of `count` nodes lie in the block: the places at which the branches begin and end are noted, each
branch has samples, and all of them are in both columns. -/
structure Laid (a : Arena α) (count : Nat) : Prop where
  offsets : a.offsets.length = count + 1
  columns : a.ys.length = a.values.length
  last : a.offsets[count]? = some a.ys.length
  spans : ∀ i < count, ∃ start stop, a.offsets[i]? = some start ∧ a.offsets[i + 1]? = some stop ∧ start < stop ∧
    stop ≤ a.ys.length

section Layout

omit [Scalar α]

theorem Laid.empty (xs : List α) : Laid ⟨xs, [0], [], []⟩ 0 :=
  ⟨rfl, rfl, rfl, fun i hi ↦ absurd hi (Nat.not_lt_zero i)⟩

theorem Laid.extend {a : Arena α} {count : Nat} (h : a.Laid count) {n : Node α} (hne : n.branch ≠ []) :
    (a.extend n).Laid (count + 1) := by
  have hpos := List.length_pos_iff.mpr hne
  have hkept {j : Nat} (hj : j ≤ count) : (a.extend n).offsets[j]? = a.offsets[j]? :=
    List.getElem?_append_left (by rw [h.offsets]; omega)
  have hlast : (a.extend n).offsets[count + 1]? = some (a.ys.length + n.branch.length) := by
    rw [← h.offsets]
    exact List.getElem?_concat_length
  have hys : (a.extend n).ys.length = a.ys.length + n.branch.length := by simp [Arena.extend]
  refine ⟨by simp [Arena.extend, h.offsets], by simp [Arena.extend, h.columns], hys ▸ hlast, fun i hi ↦ ?_⟩
  rcases Nat.lt_succ_iff_lt_or_eq.mp hi with hlt | rfl
  · obtain ⟨start, stop, hstart, hstop, hlt', hle⟩ := h.spans i hlt
    exact ⟨start, stop, (hkept hlt.le).trans hstart, (hkept hlt).trans hstop, hlt', by omega⟩
  · exact ⟨_, _, (hkept le_rfl).trans h.last, hlast, by omega, by omega⟩

end Layout

theorem pushNode_eq_ok_iff {a a' : Arena α} {index : Nat} {n : Node α} :
    a.pushNode index n = .ok a' ↔ n.faults index = [] ∧ a.extend n = a' := by
  rw [pushNode_eq, accept_eq_ok_iff]

theorem ne_nil_of_faults {n : Node α} {index : Nat} (h : n.faults index = []) : n.branch ≠ [] := by
  rw [Node.faults, List.append_assoc, List.append_eq_nil_iff, faultUnless_eq_nil_iff] at h
  simpa using h.1

theorem Laid.run {nodes : List (Node α × Nat)} {a a' : Arena α} {count : Nat} (h : a.Laid count)
    (hrun : nodes.foldlM (fun a p ↦ a.pushNode p.2 p.1) a = .ok a') :
    a'.Laid (count + nodes.length) ∧ a'.xs = a.xs := by
  induction nodes generalizing a count with
  | nil =>
    cases hrun
    exact ⟨h, rfl⟩
  | cons p nodes ih =>
    rw [List.foldlM_cons, Outcome.bind_eq_ok_iff] at hrun
    obtain ⟨b, hb, hrest⟩ := hrun
    obtain ⟨hfaults, rfl⟩ := pushNode_eq_ok_iff.mp hb
    obtain ⟨hlaid, hxs⟩ := ih (h.extend (ne_nil_of_faults hfaults)) hrest
    rw [Nat.add_assoc, Nat.add_comm 1] at hlaid
    exact ⟨hlaid, hxs⟩

theorem Laid.of_pack {d : Draft α} {a : Arena α} (h : d.pack = .ok a) : a.Laid a.size := by
  rw [Draft.pack] at h
  split at h
  · cases h
  split at h
  · cases h
  split at h
  · cases h
  · obtain ⟨hlaid, hxs⟩ := (Laid.empty d.xs).run h
    have hsize : a.size = 0 + d.nodes.zipIdx.length := by simp [size, hxs, Draft.xs]
    rw [hsize]
    exact hlaid

section Layout

omit [Scalar α]

variable {a : Arena α} {i : Nat}

theorem Laid.exists_slices (h : a.Laid a.size) (hi : i < a.size) : ∃ span, a.span? i = some span ∧
    slice? a.ys span = some (a.branchYs i) ∧ slice? a.values span = some (a.branchValues i) ∧
    (a.branchYs i).length = (a.branchValues i).length ∧ a.branchYs i ≠ [] := by
  obtain ⟨start, stop, hstart, hstop, hlt, hle⟩ := h.spans i hi
  have hspan : a.span? i = some (start, stop) := by
    rw [span?, if_neg (by omega), hstart, hstop]
    rfl
  have hys : a.branchYs i = slice a.ys (start, stop) := by rw [branchYs, hspan]; rfl
  have hvalues : a.branchValues i = slice a.values (start, stop) := by rw [branchValues, hspan]; rfl
  have hle' : stop ≤ a.values.length := h.columns ▸ hle
  refine ⟨(start, stop), hspan, ?_, ?_, ?_, ?_⟩
  · rw [hys]
    exact if_pos ⟨hlt.le, hle⟩
  · rw [hvalues]
    exact if_pos ⟨hlt.le, hle'⟩
  · rw [hys, hvalues, slice, slice]
    simp only [List.length_take, List.length_drop, h.columns]
  · rw [hys, slice, ← List.length_pos_iff, List.length_take, List.length_drop]
    omega

end Layout

variable {a : Arena α} {i : Nat}

theorem Laid.evalBranch?_eq (h : a.Laid a.size) (hi : i < a.size) (search : Axis.Search α) (y : α) :
    a.evalBranch? search i y = readBranch? search (a.branchYs i) (a.branchValues i) y := by
  obtain ⟨span, hspan, hys, hvalues, -, -⟩ := h.exists_slices hi
  simp only [evalBranch?, hspan, hys, hvalues, Option.bind_eq_bind, Option.bind_some]

theorem Laid.exists_evalBranch? (h : a.Laid a.size) (hi : i < a.size) (search : Axis.Search α) (y : α) :
    ∃ v, a.evalBranch? search i y = some v := by
  obtain ⟨-, -, -, -, hlength, hne⟩ := h.exists_slices hi
  rw [h.evalBranch?_eq hi]
  exact exists_readBranch? hne hlength search y

theorem Laid.exists_eval? (h : a.Laid a.size) (hpos : 0 < a.size) (search : Axis.Search α) (x y : α) :
    ∃ v, a.eval? search x y = some v := by
  rw [eval?]
  split
  case isTrue hone => exact h.exists_evalBranch? (by omega) search y
  case isFalse hone =>
    have htwo : 2 ≤ a.xs.length := Nat.lt_of_le_of_ne hpos (Ne.symm hone)
    obtain ⟨j, hj, hlt⟩ := Axis.exists_segment? htwo search x
    obtain ⟨v₀, hv₀⟩ := h.exists_evalBranch? (Nat.lt_of_succ_lt hlt) search y
    obtain ⟨v₁, hv₁⟩ := h.exists_evalBranch? hlt search y
    simp only [hj, hv₀, hv₁, List.getElem?_eq_getElem hlt, List.getElem?_eq_getElem (Nat.lt_of_succ_lt hlt),
      Option.bind_eq_bind, Option.bind_some, Option.some.injEq, exists_eq']

variable {s : Surface α}

theorem Laid.evalBranch?_arena (h : s.arena.Laid s.arena.size) {n : Node α} (hn : s.nodes[i]? = some n) (y : α) :
    s.arena.evalBranch? Axis.passed i y = some (n.eval y) := by
  have hi : i < s.arena.size := by
    rw [size_arena]
    exact (List.getElem?_eq_some_iff.mp hn).1
  have hbranch : s.branch i = n.branch := by rw [branch, hn]; rfl
  obtain ⟨-, -, -, -, -, hne⟩ := h.exists_slices hi
  rw [branchYs_arena, Surface.branchYs, hbranch] at hne
  rw [h.evalBranch?_eq hi, branchYs_arena, branchValues_arena, Surface.branchYs, Surface.branchValues, hbranch]
  exact Node.readBranch?_passed (mt List.map_eq_nil_iff.mpr hne) y

theorem Laid.eval?_arena (h : s.arena.Laid s.arena.size) (hpos : 0 < s.size) (x y : α) :
    s.arena.eval? Axis.passed x y = some (s.eval x y) := by
  rw [eval?, size_arena]
  split
  case isTrue hone =>
    obtain ⟨n, hn⟩ := List.length_eq_one_iff.mp hone
    rw [h.evalBranch?_arena (n := n) (by rw [hn]; rfl), Surface.eval, hn]
  case isFalse hone =>
    have htwo : 2 ≤ s.size := Nat.lt_of_le_of_ne hpos (Ne.symm hone)
    have hacross : 2 ≤ (s.across y).length := by rwa [length_across]
    obtain ⟨v, hread, heval⟩ := Axis.exists_read?_passed hacross x
    have hvalue : s.eval x y = v := by
      rw [eval_of_two_le htwo]
      exact congrArg (·.getD Scalar.undefined) heval
    rw [← List.length_map Prod.fst, map_fst_across] at hacross
    rw [map_fst_across] at hread
    obtain ⟨i, hi, hlt⟩ := Axis.exists_segment? hacross Axis.passed x
    rw [Surface.xs, List.length_map] at hlt
    have hn := List.getElem?_eq_getElem (Nat.lt_of_succ_lt hlt)
    have hm := List.getElem?_eq_getElem hlt
    -- both branches are read at `y`, and what is read along the outer axis is the line through their values
    have hxs : s.arena.xs = s.xs := rfl
    rw [hvalue, ← hread, Axis.read?, hxs, hi]
    simp only [Option.bind_eq_bind, Option.bind_some, h.evalBranch?_arena hn, h.evalBranch?_arena hm,
      List.getElem?_map, getElem?_across hn, getElem?_across hm, Option.map_some]

/-- All that is asked for when the block is read is there, and what is read are the values of the surface. -/
structure Readable (a : Arena α) (s : Surface α) : Prop where
  laid : a.Laid a.size
  slices (i : Nat) : i < a.size → ∃ span, a.span? i = some span ∧ slice? a.ys span = some (a.branchYs i) ∧
    slice? a.values span = some (a.branchValues i) ∧ (a.branchYs i).length = (a.branchValues i).length ∧
    a.branchYs i ≠ []
  exists_branch_value (search : Axis.Search α) (i : Nat) (y : α) : i < a.size →
    ∃ v, a.evalBranch? search i y = some v
  exists_value (search : Axis.Search α) (x y : α) : ∃ v, a.eval? search x y = some v
  branch_value (i : Nat) (y : α) : i < a.size → a.evalBranch? Axis.passed i y = some (s.evalBranch i y)
  value (x y : α) : a.eval? Axis.passed x y = some (s.eval x y)

theorem readable_of_build {d : Draft α} (h : d.build = .ok s) (hpos : 0 < s.size) :
    d.pack = .ok s.arena ∧ s.arena.Readable s := by
  have hpack : d.pack = .ok s.arena := by
    rw [Draft.pack_eq, h]
    rfl
  have hlaid := Laid.of_pack hpack
  have hsize := size_arena s
  refine ⟨hpack, hlaid, fun i hi ↦ hlaid.exists_slices hi, fun search i y hi ↦ hlaid.exists_evalBranch? hi search y,
    hlaid.exists_eval? (hsize ▸ hpos), fun i y hi ↦ ?_, hlaid.eval?_arena hpos⟩
  rw [hsize] at hi
  have hn : s.nodes[i]? = some _ := List.getElem?_eq_getElem hi
  rw [hlaid.evalBranch?_arena hn, evalBranch, hn]
  rfl

end Arena

end Surface

structure Curve.Readable (c : Curve α) : Prop where
  columns : c.xs.length = c.ys.length
  nonempty : 1 ≤ c.xs.length
  first : ∃ a, c.xs[0]? = some a ∧ c.first? = some a
  last : ∃ b, c.xs[c.xs.length - 1]? = some b ∧ c.last? = some b
  segment (search : Axis.Search α) (x : α) : ∃ i, Axis.segment? search c.xs x = some i ∧ i + 1 < c.xs.length
  exists_value (search : Axis.Search α) (x : α) : ∃ v, Axis.read? search c.xs c.ys x = some v
  value (x : α) : Axis.read? Axis.passed c.xs c.ys x = some (c.eval x)

theorem Curve.readable {c : Curve α} (h : 2 ≤ c.points.length) : c.Readable := by
  have hxs : 2 ≤ c.xs.length := by rwa [xs, List.length_map]
  have hcolumns : c.xs.length = c.ys.length := by rw [xs, ys, List.length_map, List.length_map]
  have hfirst : c.xs[0]? = some _ := List.getElem?_eq_getElem (by omega)
  have hlast : c.xs[c.xs.length - 1]? = some _ := List.getElem?_eq_getElem (by omega)
  refine ⟨hcolumns, by omega, ⟨_, hfirst, ?_⟩, ⟨_, hlast, ?_⟩, Axis.exists_segment? hxs,
    Axis.exists_read? hxs hcolumns, fun x ↦ ?_⟩
  · rw [first?, List.head?_eq_getElem?, hfirst]
  · rw [last?, List.getLast?_eq_getElem?, hlast]
  · obtain ⟨v, hread, heval⟩ := Axis.exists_read?_passed h x
    have hvalue : c.eval x = v := congrArg (·.getD Scalar.undefined) heval
    rw [hvalue]
    exact hread

/-- Curves and surfaces that have been accepted are read without ever asking for what is not there: at every
coordinate, be it infinite or NaN, and wherever the search for a segment stops. -/
theorem readable_of_accepted :
    (∀ (xs ys : List Float) (c : Curve Float), Curve.ofColumns xs ys = .ok c → c.xs = xs ∧ c.ys = ys ∧ c.Readable) ∧
    ∀ (d : Surface.Draft Float) (s : Surface Float), d.build = .ok s → ∃ a, d.pack = .ok a ∧ a.Readable s := by
  constructor
  · intro xs ys c h
    obtain ⟨⟨hlength, hmin, -⟩, rfl⟩ := Curve.ofColumns_eq_ok_iff.mp h
    have hpoints : 2 ≤ (xs.zip ys).length := by
      rw [List.length_zip, ← hlength, min_self]
      exact hmin
    exact ⟨Curve.xs_mk_zip hlength, by simp [Curve.ys, List.map_snd_zip, hlength], Curve.readable hpoints⟩
  · intro d s h
    have hpos := List.length_pos_iff.mpr (Surface.Draft.build_eq_ok_iff.mp h).1.ne_nil
    exact ⟨s.arena, Surface.Arena.readable_of_build h hpos⟩

def singleFirst : Surface.Draft Float :=
  ⟨[⟨-1, [(0, 4)]⟩, ⟨2, [(0, 5), (3, 1)]⟩]⟩

theorem readable_singleFirst :
    (∃ c, Curve.ofColumns [-1, 2] [(4 : Float), 5] = .ok c ∧ c.Readable) ∧
    ∃ a s, singleFirst.build = .ok s ∧ singleFirst.pack = .ok a ∧ a.Readable s := by
  obtain ⟨hcurve, hsurface⟩ := readable_of_accepted
  have hcolumns : Curve.ofColumns [-1, 2] [(4 : Float), 5] = .ok ⟨[(-1, 4), (2, 5)]⟩ := by decide +kernel
  have hbuild : singleFirst.build = .ok ⟨singleFirst.nodes⟩ := by decide +kernel
  obtain ⟨a, hpack, hreadable⟩ := hsurface _ _ hbuild
  exact ⟨⟨_, hcolumns, (hcurve _ _ _ hcolumns).2.2⟩, a, _, hbuild, hpack, hreadable⟩

end ReservoirGas

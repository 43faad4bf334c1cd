import ReservoirGas.Proofs.Drops
import ReservoirGas.Proofs.Tables

namespace ReservoirGas

namespace Curve

variable {α : Type}

theorem eq_mk_zip_iff {xs ys : List α} {c : Curve α} (h : xs.length = ys.length) :
    c = ⟨xs.zip ys⟩ ↔ c.xs = xs ∧ c.ys = ys := by
  constructor
  · rintro rfl
    exact ⟨xs_mk_zip h, List.map_snd_zip h.ge⟩
  · rintro ⟨rfl, rfl⟩
    exact congrArg mk (List.zip_of_prod rfl rfl)

variable [Scalar α]

/-- What is wrong with two columns, wherever it is: the check that finds it, counted in the order of the checks, the
position at which it is found, and the report of it. -/
inductive Fault (xs ys : List α) : Nat → Nat → TableError → Prop
  | lengths (lengths : xs.length ≠ ys.length) :
    Fault xs ys 0 0 (.lengthMismatch "1-D table" xs.length ys.length)
  | short (points : xs.length < 2) : Fault xs ys 1 0 (.tooFewPoints "1-D table" xs.length 2)
  | abscissa {i : Nat} {x : α} (place : xs[i]? = some x) (notFinite : Scalar.isFinite x = false) :
    Fault xs ys 2 i (.nonFinite "x" i)
  | ordinate {i : Nat} {y : α} (place : ys[i]? = some y) (notFinite : Scalar.isFinite y = false) :
    Fault xs ys 3 i (.nonFinite "y" i)
  | order {i : Nat} (drop : Axis.Drops xs i) : Fault xs ys 4 i (.nonMonotonic "x" i)

structure Fault.Least (xs ys : List α) (check position : Nat) (e : TableError) : Prop where
  fault : Fault xs ys check position e
  le : ∀ {check' position' e'}, Fault xs ys check' position' e' →
    toLex (check, position) ≤ toLex (check', position')

variable {xs ys : List α} {check check' position position' : Nat} {e e' : TableError}

theorem Fault.report_unique (h : Fault xs ys check position e) (h' : Fault xs ys check position e') : e = e' := by
  cases h <;> cases h' <;> rfl

namespace Fault

theorem one_le (h : Fault xs ys check position e) (hlengths : xs.length = ys.length) : 1 ≤ check := by
  cases h with
  | lengths hne => exact absurd hlengths hne
  | short | abscissa | ordinate | order => omega

theorem two_le (h : Fault xs ys check position e) (hlengths : xs.length = ys.length) (hpoints : 2 ≤ xs.length) :
    2 ≤ check := by
  have hcheck := h.one_le hlengths
  cases h with
  | lengths | short => omega
  | abscissa | ordinate | order => omega

theorem three_le (h : Fault xs ys check position e) (hlengths : xs.length = ys.length) (hpoints : 2 ≤ xs.length)
    (hxs : Axis.Finite xs) : 3 ≤ check := by
  have hcheck := h.two_le hlengths hpoints
  cases h with
  | lengths | short => omega
  | abscissa hx hvalue =>
    rw [hxs _ (List.mem_of_getElem? hx)] at hvalue
    cases hvalue
  | ordinate | order => omega

theorem four_le (h : Fault xs ys check position e) (hlengths : xs.length = ys.length) (hpoints : 2 ≤ xs.length)
    (hxs : Axis.Finite xs) (hys : Axis.Finite ys) : 4 ≤ check := by
  have hcheck := h.three_le hlengths hpoints hxs
  cases h with
  | lengths | short | abscissa => omega
  | ordinate hy hvalue =>
    rw [hys _ (List.mem_of_getElem? hy)] at hvalue
    cases hvalue
  | order => omega

theorem Least.of_le (h : Fault xs ys check position e)
    (hcheck : ∀ {check' position' e'}, Fault xs ys check' position' e' → check ≤ check')
    (hposition : ∀ {position' e'}, Fault xs ys check position' e' → position ≤ position') :
    Least xs ys check position e := by
  refine ⟨h, fun {check' position' e'} h' ↦ Prod.Lex.toLex_le_toLex.mpr ?_⟩
  rcases (hcheck h').lt_or_eq with hlt | rfl
  · exact .inl hlt
  · exact .inr ⟨rfl, hposition h'⟩

theorem Least.report_unique (h : Least xs ys check position e) (h' : Least xs ys check' position' e') : e = e' := by
  have hplace := toLex.injective (le_antisymm (h.le h'.fault) (h'.le h.fault))
  cases hplace
  exact h.fault.report_unique h'.fault

end Fault

variable [Scalar.Ordered α]

theorem FirstFault.exists_least (h : FirstFault xs ys e) :
    ∃ check position, Fault.Least xs ys check position e := by
  cases h with
  | lengths hne => exact ⟨0, 0, .of_le (.lengths hne) (fun _ ↦ Nat.zero_le _) fun _ ↦ Nat.zero_le _⟩
  | short hlengths hshort =>
    exact ⟨1, 0, .of_le (.short hshort) (fun h' ↦ h'.one_le hlengths) fun _ ↦ Nat.zero_le _⟩
  | abscissa hlengths hpoints hfirst =>
    obtain ⟨x, hx, hvalue⟩ := hfirst.notFinite
    refine ⟨2, _, .of_le (.abscissa hx hvalue) (fun h' ↦ h'.two_le hlengths hpoints) fun h' ↦ ?_⟩
    cases h' with
    | abscissa hx' hvalue' => exact hfirst.le hx' hvalue'
  | ordinate hlengths hpoints hxs hfirst =>
    obtain ⟨y, hy, hvalue⟩ := hfirst.notFinite
    refine ⟨3, _, .of_le (.ordinate hy hvalue) (fun h' ↦ h'.three_le hlengths hpoints hxs) fun h' ↦ ?_⟩
    cases h' with
    | ordinate hy' hvalue' => exact hfirst.le hy' hvalue'
  | order hlengths hpoints hxs hys hfirst =>
    have hleast := Axis.firstDrop_iff_isLeast.mp hfirst
    refine ⟨4, _, .of_le (.order hleast.1) (fun h' ↦ h'.four_le hlengths hpoints hxs hys) fun h' ↦ ?_⟩
    cases h' with
    | order hdrop => exact hleast.2 hdrop

theorem not_fault_of_ofColumns {c : Curve α} (h : ofColumns xs ys = .ok c) : ¬ Fault xs ys check position e := by
  obtain ⟨⟨hlengths, hpoints, hxs, hys, hincreasing⟩, -⟩ := ofColumns_eq_ok_iff.mp h
  intro hfault
  have hcheck := hfault.four_le hlengths hpoints hxs hys
  cases hfault with
  | lengths | short | abscissa | ordinate => omega
  | order hdrop => exact Axis.increasing_iff_forall_not_drops.mp hincreasing _ hdrop

theorem ofColumns_eq_error_iff_least :
    ofColumns xs ys = .error e ↔ ∃ check position, Fault.Least xs ys check position e := by
  constructor
  · intro h
    exact (ofColumns_eq_error_iff.mp h).exists_least
  · rintro ⟨check, position, hleast⟩
    cases h : ofColumns xs ys with
    | ok c => exact absurd hleast.fault (not_fault_of_ofColumns h)
    | error e' =>
      obtain ⟨check', position', hleast'⟩ := (ofColumns_eq_error_iff.mp h).exists_least
      rw [hleast.report_unique hleast']

/-- Columns make a curve if they are as long as each other, with two points or more, and finite, and the abscissae
increase; the curve holds them as they are. Otherwise what is reported is the first of all their faults. -/
theorem ofColumns_outcome (xs ys : List Float) :
    (∀ c, ofColumns xs ys = .ok c ↔
      (xs.length = ys.length ∧ 2 ≤ xs.length ∧ Axis.Finite xs ∧ Axis.Finite ys ∧ Axis.Increasing xs) ∧
        c.xs = xs ∧ c.ys = ys) ∧
    ∀ e, ofColumns xs ys = .error e ↔ ∃ check position, Fault.Least xs ys check position e := by
  refine ⟨fun c ↦ ?_, fun e ↦ ofColumns_eq_error_iff_least⟩
  rw [ofColumns_eq_ok_iff]
  exact and_congr_right fun h ↦ eq_mk_zip_iff h.1

-- the abscissae fall, and two ordinates are not finite
example : ofColumns [(1 : Float), 3, 2] [0, Scalar.undefined, Scalar.undefined] = .error (.nonFinite "y" 1) := by
  decide +kernel

end Curve

end ReservoirGas

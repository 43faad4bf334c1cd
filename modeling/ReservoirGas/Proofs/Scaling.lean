import ReservoirGas.Proofs.Prolongation

namespace ReservoirGas.GasSample

open Exact

def exact (s : GasSample ℚ) : GasSample Exact :=
  numbers s.ratio s.volumeFactor s.viscosity

structure Positive (s : GasSample ℚ) : Prop where
  volumeFactor : 0 < s.volumeFactor
  viscosity : 0 < s.viscosity

def carry (last first s : GasSample ℚ) : GasSample ℚ where
  ratio := last.ratio + (s.ratio - first.ratio)
  volumeFactor := last.volumeFactor * s.volumeFactor / first.volumeFactor
  viscosity := last.viscosity * s.viscosity / first.viscosity

variable {last first prev next s : GasSample ℚ} {rest : List (GasSample ℚ)}

theorem carry_self (h : first.Positive) : carry last first first = last := by
  rw [carry, mul_div_cancel_right₀ _ h.volumeFactor.ne', mul_div_cancel_right₀ _ h.viscosity.ne',
    sub_self, add_zero]

/-- To go on from a sample that was carried along is to carry on from where it came from. -/
theorem carry_carry (h : next.Positive) : carry (carry last prev next) next s = carry last prev s := by
  have hfactor := h.volumeFactor.ne'
  have hviscosity := h.viscosity.ne'
  simp only [carry, mk.injEq]
  refine ⟨by ring, ?_, ?_⟩ <;> field_simp

theorem follow_exact (hprev : prev.Positive) (hnext : next.Positive) :
    follow last.exact prev.exact next.exact = .ok (carry last prev next).exact := by
  rw [exact, exact, exact, follow_numbers _ _ _ _ _ hprev.volumeFactor hprev.viscosity hnext.volumeFactor
    hnext.viscosity, carry, exact, mul_div_assoc, mul_div_assoc]

theorem followAll_exact (hfirst : first.Positive) (hrest : ∀ s ∈ rest, s.Positive) :
    followAll last.exact ((first :: rest).map exact) = .ok (rest.map fun s ↦ (carry last first s).exact) := by
  -- along the master; the next run starts at the sample that was carried to `next`, which cancels
  induction rest generalizing last first with
  | nil => rfl
  | cons next rest ih =>
    obtain ⟨hnext, hrest⟩ := List.forall_mem_cons.mp hrest
    have hrun : followAll (carry last first next).exact _ = _ := ih hnext hrest
    simp only [carry_carry hnext] at hrun
    simp only [List.map_cons, followAll, follow_exact hfirst hnext] at hrun ⊢
    simp only [bind, Except.bind, hrun]
    rfl

theorem Positive.carry (hlast : last.Positive) (hfirst : first.Positive) (hs : s.Positive) :
    (carry last first s).Positive :=
  ⟨div_pos (mul_pos hlast.volumeFactor hs.volumeFactor) hfirst.volumeFactor,
    div_pos (mul_pos hlast.viscosity hs.viscosity) hfirst.viscosity⟩

/-- A relative change does not see the scale of what changes, and it never amounts to twice the mean. -/
theorem exists_relativeChange_mul {l p q : ℚ} (hl : 0 < l) (hp : 0 < p) (hq : 0 < q) :
    ∃ c < 2, relativeChange (number p) (number q) = number c ∧
      relativeChange (number (l * p)) (number (l * q)) = number c := by
  refine ⟨(q - p) / ((q + p) / 2), ?_, relativeChange_number hp hq, ?_⟩
  · rw [div_lt_iff₀ (by positivity)]
    linarith
  · rw [relativeChange_number (mul_pos hl hp) (mul_pos hl hq)]
    congr 1
    field_simp

/-- From `x` to `y` the volume factor and the viscosity have the relative changes that they have from `prev` to
`next`. These are numbers and less than two, so that there is a value which lies them after another. -/
def ChangesAs (prev next x y : GasSample ℚ) : Prop :=
  (∃ c < 2, relativeChange prev.exact.volumeFactor next.exact.volumeFactor = number c ∧
    relativeChange x.exact.volumeFactor y.exact.volumeFactor = number c) ∧
  ∃ c < 2, relativeChange prev.exact.viscosity next.exact.viscosity = number c ∧
    relativeChange x.exact.viscosity y.exact.viscosity = number c

theorem changesAs_carry (hlast : last.Positive) (hfirst : first.Positive) (hprev : prev.Positive)
    (hnext : next.Positive) : ChangesAs prev next (carry last first prev) (carry last first next) := by
  have hfactor := exists_relativeChange_mul (div_pos hlast.volumeFactor hfirst.volumeFactor) hprev.volumeFactor
    hnext.volumeFactor
  have hviscosity := exists_relativeChange_mul (div_pos hlast.viscosity hfirst.viscosity) hprev.viscosity
    hnext.viscosity
  rw [div_mul_eq_mul_div, div_mul_eq_mul_div] at hfactor hviscosity
  exact ⟨hfactor, hviscosity⟩

theorem cons_map_carry (hfirst : first.Positive) :
    last :: rest.map (carry last first) = (first :: rest).map (carry last first) := by
  rw [List.map_cons, carry_self hfirst]

theorem increasing_map_carry {master : List (GasSample ℚ)} (h : (master.map ratio).Pairwise (· < ·)) :
    ((master.map (carry last first)).map ratio).Pairwise (· < ·) := by
  rw [List.pairwise_map] at h
  rw [List.map_map, List.pairwise_map]
  refine h.imp fun {s s'} hlt ↦ ?_
  change last.ratio + (s.ratio - first.ratio) < last.ratio + (s'.ratio - first.ratio)
  linarith

/-- In exact arithmetic every branch can be prolonged along every master of positive samples, and no quotient
on the way is undefined. For each sample of the master but its first there is a new one, at the master's
distance from the last supplied sample and with its values in the master's proportions. So the branch goes on
with the master's relative changes, with positive values and at increasing ratios. -/
theorem prolong_exact {current : List (GasSample Exact)} (hcurrent : current.getLast? = some last.exact)
    (hlast : last.Positive) (hmaster : ∀ s ∈ first :: rest, s.Positive)
    (hincreasing : ((first :: rest).map ratio).Pairwise (· < ·)) :
    prolong current ((first :: rest).map exact) = .ok (rest.map fun s ↦ (carry last first s).exact) ∧
    (∀ (k : Nat) (prev next x y : GasSample ℚ),
      (first :: rest)[k]? = some prev → (first :: rest)[k + 1]? = some next →
      (last :: rest.map (carry last first))[k]? = some x →
      (last :: rest.map (carry last first))[k + 1]? = some y → ChangesAs prev next x y) ∧
    (∀ s ∈ rest.map (carry last first), s.Positive) ∧
    ((last :: rest.map (carry last first)).map ratio).Pairwise (· < ·) := by
  obtain ⟨hfirst, hrest⟩ := List.forall_mem_cons.mp hmaster
  refine ⟨?_, fun k prev next x y hprev hnext hx hy ↦ ?_, List.forall_mem_map.mpr fun s hs ↦ ?_, ?_⟩
  · rw [prolong, hcurrent]
    exact followAll_exact hfirst hrest
  · rw [cons_map_carry hfirst, List.getElem?_map] at hx hy
    rw [hprev] at hx
    rw [hnext] at hy
    cases hx
    cases hy
    exact changesAs_carry hlast hfirst (hmaster prev (List.mem_of_getElem? hprev))
      (hmaster next (List.mem_of_getElem? hnext))
  · exact hlast.carry hfirst (hrest s hs)
  · rw [cons_map_carry hfirst]
    exact increasing_map_carry hincreasing

theorem prolong_exact_doubling :
    prolong [exact ⟨10, 4, 2⟩] [exact ⟨0, 1, 1⟩, exact ⟨1, 2, 1⟩, exact ⟨3, 3, 1 / 2⟩] =
      .ok [exact ⟨11, 8, 2⟩, exact ⟨13, 12, 1⟩] := by
  have hmaster : ∀ s ∈ [(⟨0, 1, 1⟩ : GasSample ℚ), ⟨1, 2, 1⟩, ⟨3, 3, 1 / 2⟩], s.Positive := by
    simp only [List.forall_mem_cons]
    exact ⟨⟨by norm_num, by norm_num⟩, ⟨by norm_num, by norm_num⟩, ⟨by norm_num, by norm_num⟩,
      fun _ h ↦ absurd h List.not_mem_nil⟩
  have hlast : ([exact ⟨10, 4, 2⟩] : List (GasSample Exact)).getLast? = some (exact ⟨10, 4, 2⟩) := rfl
  have hrun := (prolong_exact hlast ⟨by norm_num, by norm_num⟩ hmaster (by decide)).1
  have hfirst : carry ⟨10, 4, 2⟩ ⟨0, 1, 1⟩ ⟨1, 2, 1⟩ = ⟨11, 8, 2⟩ := by
    norm_num [carry]
  have hsecond : carry ⟨10, 4, 2⟩ ⟨0, 1, 1⟩ ⟨3, 3, 1 / 2⟩ = ⟨13, 12, 1⟩ := by
    norm_num [carry]
  simp only [List.map_cons, List.map_nil, hfirst, hsecond] at hrun
  exact hrun

end ReservoirGas.GasSample

import ReservoirGas.Proofs.Completion
import ReservoirGas.Proofs.Properties

namespace ReservoirGas

namespace Outcome

variable {ε β γ ι : Type}

/-- A step of two computations that go through the same items, the first of them ahead. -/
def together (f : β → ι → Except ε β) (g : γ → ι → Except ε γ) (s : β × γ) (i : ι) : Except ε (β × γ) := do
  let b ← f s.1 i
  let c ← g s.2 i
  return (b, c)

theorem together_eq_ok {f : β → ι → Except ε β} {g : γ → ι → Except ε γ} {b b' : β} {c c' : γ} {i : ι}
    (hf : f b i = .ok b') (hg : g c i = .ok c') : together f g (b, c) i = .ok (b', c') := by
  simp [together, hf, hg, bind, Except.bind, pure, Except.pure]

theorem foldlM_together {f : β → ι → Except ε β} {g : γ → ι → Except ε γ} {b b' : β} {c c' : γ}
    {items : List ι} (hf : items.foldlM f b = .ok b') (hg : items.foldlM g c = .ok c') :
    items.foldlM (together f g) (b, c) = .ok (b', c') := by
  induction items generalizing b c with
  | nil =>
    cases hf
    cases hg
    rfl
  | cons i r ih =>
    rw [List.foldlM_cons, bind_eq_ok_iff] at hf hg
    obtain ⟨b₁, hb, hf⟩ := hf
    obtain ⟨c₁, hc, hg⟩ := hg
    rw [List.foldlM_cons, together_eq_ok hb hc]
    exact ih hf hg

end Outcome

open Outcome

variable {α : Type}

namespace BranchSet

def branches (s : BranchSet α) : List (List (GasSample α)) :=
  s.nodes.map Node.samples

theorem ofColumns_eq_ok_iff {pressures : List α} {branches : List (List (GasSample α))} {s : BranchSet α} :
    ofColumns pressures branches = .ok s ↔ s.pressures = pressures ∧ s.branches = branches := by
  rw [ofColumns]
  constructor
  · intro h
    split at h
    · rename_i hlength
      cases h
      rw [BranchSet.pressures, BranchSet.branches, List.map_zipWith, List.map_zipWith,
        ← List.map_uncurry_zip_eq_zipWith, ← List.map_uncurry_zip_eq_zipWith]
      exact ⟨List.map_fst_zip (by omega), List.map_snd_zip (by omega)⟩
    · cases h
  · intro h
    obtain ⟨rfl, rfl⟩ := h
    rw [if_pos (by simp [BranchSet.pressures, BranchSet.branches])]
    have hnodes : List.zipWith Node.mk s.pressures s.branches = s.nodes := by
      simp [BranchSet.pressures, BranchSet.branches]
    rw [hnodes]

theorem branches_eq_map_branch (s : BranchSet α) : s.branches = (List.range s.size).map s.branch := by
  apply List.ext_getElem?
  intro i
  rw [branches, List.getElem?_map, List.getElem?_map]
  rcases Nat.lt_or_ge i s.size with hi | hi
  · rw [List.getElem?_range hi, List.getElem?_eq_getElem hi, Option.map_some, Option.map_some, branch,
      List.getElem?_eq_getElem hi]
    rfl
  · rw [List.getElem?_eq_none hi, List.getElem?_eq_none (by simpa using hi)]
    rfl

def appendValues (value : GasSample α → α) (d : Surface.Draft α) (p : α × List (GasSample α)) :
    Except TableError (Surface.Draft α) :=
  d.appendBranch p.1 (p.2.map fun x ↦ (x.ratio, value x))

theorem appendValues_eq (value : GasSample α → α) (d : Surface.Draft α) (p : α × List (GasSample α)) :
    appendValues value d p =
      p.2.foldlM (fun d' x ↦ d'.appendSample d.nodes.length x.ratio (value x)) (d.appendNode p.1) := by
  rw [appendValues, Surface.Draft.appendBranch, List.foldlM_map]

theorem foldlM_appendValues (value : GasSample α → α) (s : BranchSet α) :
    (s.pressures.zip s.branches).foldlM (appendValues value) {} = .ok ⟨(s.surface value).nodes⟩ := by
  rw [pressures, branches, List.zip_map', List.foldlM_map]
  exact draft_eq_ok value s

theorem branches_prolongNode (s : BranchSet α) (i : Nat) (added : List (GasSample α)) :
    (s.prolongNode i added).branches = s.branches.modify i (· ++ added) := by
  apply List.ext_getElem? fun j ↦ ?_
  simp only [branches, prolongNode, List.getElem?_map, List.getElem?_modify]
  by_cases hij : i = j
  · subst hij
    cases s.nodes[i]? <;> simp
  · simp [hij]

/-- How the two lists of a set come about: from columns, or from a raw table with a branch for each of its
rows. Later a branch may be made longer in its place. -/
inductive Stored : List α → List (List (GasSample α)) → BranchSet α → Prop
  | columns {pressures : List α} {branches : List (List (GasSample α))} {s : BranchSet α}
    (paired : ofColumns pressures branches = .ok s) : Stored pressures branches s
  | table (t : GasTable α) :
    Stored t.pressures ((List.range t.saturated.length).map t.branch) (ofTable t)
  | prolonged {pressures : List α} {branches : List (List (GasSample α))} {s : BranchSet α}
    (stored : Stored pressures branches s) (i : Nat) (added : List (GasSample α)) :
    Stored pressures (branches.modify i (· ++ added)) (s.prolongNode i added)

namespace Stored

variable {pressures : List α} {branches : List (List (GasSample α))} {s raw : BranchSet α}

theorem lists (h : Stored pressures branches s) : s.pressures = pressures ∧ s.branches = branches := by
  induction h with
  | columns hpaired => exact ofColumns_eq_ok_iff.mp hpaired
  | table t =>
    refine ⟨pressures_ofTable t, ?_⟩
    rw [branches_eq_map_branch, size_ofTable]
    apply List.map_congr_left
    intro i hi
    exact branch_ofTable (List.mem_range.mp hi)
  | prolonged hs i added ih =>
    obtain ⟨rfl, rfl⟩ := ih
    exact ⟨pressures_prolongNode _ i added, branches_prolongNode _ i added⟩

variable [Scalar α] {family : Family} {region : Region.Id} {c c' : Completed α}

theorem of_completeNode {i : Nat} (h : Stored pressures branches c.branches)
    (hstep : completeNode family region raw c i = .ok c') :
    ∃ branches', Stored pressures branches' c'.branches := by
  rcases completeNode_eq_ok_iff.mp hstep with ⟨-, rfl⟩ | ⟨-, m, added, -, -, rfl⟩
  · exact ⟨branches, h⟩
  · exact ⟨_, h.prolonged i added⟩

theorem of_foldlM_completeNode {nodes : List Nat} (h : Stored pressures branches c.branches)
    (hrun : nodes.foldlM (completeNode family region raw) c = .ok c') :
    ∃ branches', Stored pressures branches' c'.branches := by
  induction nodes generalizing c branches with
  | nil =>
    cases hrun
    exact ⟨branches, h⟩
  | cons i r ih =>
    rw [List.foldlM_cons, bind_eq_ok_iff] at hrun
    obtain ⟨c₁, hstep, hrun⟩ := hrun
    obtain ⟨branches₁, h₁⟩ := h.of_completeNode hstep
    exact ih h₁ hrun

theorem of_complete (h : Stored pressures branches raw) (hc : raw.complete family region = .ok c) :
    ∃ branches', Stored pressures branches' c.branches :=
  of_foldlM_completeNode (c := ⟨raw, []⟩) h hc

end Stored

variable [Scalar α]

def appendTogether (d : Surface.Draft α × Surface.Draft α) (p : α × List (GasSample α)) :
    Except TableError (Surface.Draft α × Surface.Draft α) :=
  p.2.foldlM
    (together (fun d' x ↦ d'.appendSample d.1.nodes.length x.ratio (inverseVolumeFactor x))
      fun d' x ↦ d'.appendSample d.2.nodes.length x.ratio x.viscosity)
    (d.1.appendNode p.1, d.2.appendNode p.1)

/-- Both surfaces, written at the same time from two lists. -/
def freezeColumns (pressures : List α) (branches : List (List (GasSample α))) :
    Except TableError (Frozen α) := do
  let d ← (pressures.zip branches).foldlM appendTogether ({}, {})
  return ⟨← d.1.build, ← d.2.build⟩

theorem appendTogether_eq : appendTogether (α := α) =
    together (appendValues inverseVolumeFactor) (appendValues GasSample.viscosity) := by
  funext d p
  obtain ⟨d, d'⟩ := d
  -- no sample is refused, so the order in which the two drafts take them does not matter
  have hinverse : appendValues inverseVolumeFactor d p = _ := d.appendBranch_eq_ok _ _
  have hviscosity : appendValues GasSample.viscosity d' p = _ := d'.appendBranch_eq_ok _ _
  rw [together_eq_ok hinverse hviscosity]
  rw [appendValues_eq] at hinverse hviscosity
  exact foldlM_together hinverse hviscosity

theorem freezeColumns_eq (s : BranchSet α) : freezeColumns s.pressures s.branches = s.freeze := by
  rw [freezeColumns, appendTogether_eq,
    foldlM_together (foldlM_appendValues inverseVolumeFactor s) (foldlM_appendValues GasSample.viscosity s),
    freeze, draft_eq_ok, draft_eq_ok]
  rfl

end BranchSet

end ReservoirGas

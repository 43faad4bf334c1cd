import ReservoirGas.Proofs.Completion

namespace ReservoirGas.BranchSet

variable {α : Type}

def Full (s : BranchSet α) : Prop :=
  ∀ i < s.size, 2 ≤ s.branchSize i

variable [Scalar α] {family : Family} {region : Region.Id} {raw s : BranchSet α} {c : Completed α}

theorem Full.foldlM_completeNode (h : s.Full) {k : Nat} (hk : k ≤ s.size) :
    (List.range k).foldlM (completeNode family region s) c = .ok c := by
  induction k with
  | zero => rfl
  | succ k ih =>
    rw [List.range_succ, List.foldlM_append, ih (by omega)]
    have hnode : completeNode family region s c k = .ok c := completeNode_of_two_le (h k (by omega))
    simp [bind, Except.bind, hnode, pure, Except.pure]

theorem Full.complete_eq (h : s.Full) (family : Family) (region : Region.Id) :
    s.complete family region = .ok ⟨s, []⟩ :=
  h.foldlM_completeNode (Nat.le_refl s.size)

theorem full_of_complete (h : raw.complete family region = .ok c) : c.branches.Full := by
  obtain ⟨hraw, hcompletes⟩ := completes_of_complete h
  intro i hi
  exact hcompletes.two_le hraw (hcompletes.size_eq ▸ hi)

/-- Whatever a set was completed to is full, and completing that changes nothing and records nothing, for
any family and region. A set that is completed to itself, with nothing recorded, was full from the start. -/
theorem complete_idempotent (family : Family) (region : Region.Id) (raw : BranchSet α) :
    (∀ c, raw.complete family region = .ok c → c.branches.Full ∧
      ∀ family' region', c.branches.complete family' region' = .ok ⟨c.branches, []⟩) ∧
    (raw.complete family region = .ok ⟨raw, []⟩ ↔ raw.Full) := by
  refine ⟨fun c hc ↦ ?_, fun hself ↦ ?_, fun hfull ↦ ?_⟩
  · have hfull := full_of_complete hc
    exact ⟨hfull, hfull.complete_eq⟩
  · have hfull := full_of_complete hself
    exact hfull
  · exact hfull.complete_eq family region

def oneShort : BranchSet Float :=
  ⟨[⟨1, [⟨1, 2, 1⟩]⟩, ⟨2, [⟨2, 1, 1⟩, ⟨3, 2, 1⟩]⟩]⟩

theorem complete_idempotent_oneShort : ∃ c, oneShort.complete .wet (.ofNat 0) = .ok c ∧
    c.extensions = [⟨0, 1, 1⟩] ∧ c.branches.complete .humid (.ofNat 1) = .ok ⟨c.branches, []⟩ := by
  have hextensions : (oneShort.complete .wet (.ofNat 0)).toOption.map (·.extensions) =
      some [⟨0, 1, 1⟩] := by decide +kernel
  obtain ⟨hagain, -⟩ := complete_idempotent .wet (.ofNat 0) oneShort
  cases hc : oneShort.complete .wet (.ofNat 0) with
  | error e =>
    rw [hc] at hextensions
    cases hextensions
  | ok c =>
    rw [hc] at hextensions
    obtain ⟨-, hsame⟩ := hagain c hc
    exact ⟨c, rfl, Option.some.inj hextensions, hsame _ _⟩

end ReservoirGas.BranchSet

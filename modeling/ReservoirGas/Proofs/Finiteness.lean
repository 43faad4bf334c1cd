import ReservoirGas.Proofs.Failure
import ReservoirGas.Proofs.Numbers
import ReservoirGas.Proofs.Supplied
import Mathlib.Data.List.Perm.Basic

namespace ReservoirGas

open Outcome

section Lists

variable {ι α : Type}

theorem flatMap_take_append_drop (n : Nat) (f : ι → List α) (xs : List ι) :
    (xs.take n).flatMap f ++ (xs.drop n).flatMap f = xs.flatMap f := by
  rw [← List.flatMap_append, List.take_append_drop]

theorem perm_flatMap_append {f g h : ι → List α} (hperm : ∀ x, (f x).Perm (g x ++ h x)) (xs : List ι) :
    (xs.flatMap f).Perm (xs.flatMap g ++ xs.flatMap h) :=
  (List.Perm.flatMap_left xs fun x _ ↦ hperm x).trans (List.flatMap_append_perm xs g h).symm

theorem perm_append_of_parts {a a₁ a₂ b b₁ b₂ : List α} (ha : a.Perm (a₁ ++ a₂)) (hb : b.Perm (b₁ ++ b₂)) :
    (a ++ b).Perm ((a₁ ++ b₁) ++ (a₂ ++ b₂)) := by
  refine (ha.append hb).trans ?_
  rw [List.append_assoc, List.append_assoc]
  exact (List.perm_append_comm_assoc a₂ b₁ b₂).append_left a₁

theorem elim_getElem?_of_forall₂ {R : ι → ι → Prop} {f : ι → α} {xs ys : List ι} (h : List.Forall₂ R xs ys)
    (hf : ∀ x y, R x y → f y = f x) (a : α) (i : Nat) : ys[i]?.elim a f = xs[i]?.elim a f := by
  induction h generalizing i with
  | nil => rfl
  | cons hxy _ ih =>
    cases i with
    | zero => exact hf _ _ hxy
    | succ i => exact ih i

end Lists

namespace GasTable

variable {α : Type}

def checked (t : GasTable α) : List α :=
  t.saturated.flatMap SaturatedRow.values ++
    (t.undersaturated.take t.saturated.length).flatMap (List.flatMap GasSample.values)

def unchecked (t : GasTable α) : List α :=
  (t.undersaturated.drop t.saturated.length).flatMap (List.flatMap GasSample.values)

theorem values_perm (t : GasTable α) : t.values.Perm (t.checked ++ t.unchecked) := by
  rw [values, checked, unchecked, List.append_assoc, flatMap_take_append_drop]

variable [Scalar α]

theorem SameChecked.faults_eq {t t' : GasTable α} (h : t.SameChecked t') (family : Family)
    (region : Region.Id) : t'.faults family region = t.faults family region := by
  have hbranches : ∀ i ∈ List.range t.saturated.length,
      branchFaults family ⟨family.keyword, region⟩ i (t'.branch i) =
        branchFaults family ⟨family.keyword, region⟩ i (t.branch i) := by
    intro i hi
    rw [h.branch_eq (List.mem_range.mp hi)]
  simp only [faults, pressures, h.saturated, List.flatMap_congr hbranches]

theorem Accepted.finite_checked {t : GasTable α} (h : t.Accepted) : Axis.Finite t.checked := by
  have hrow : ∀ r ∈ t.saturated, Axis.Finite r.values := by
    intro r hr
    have hphysical := h.row r hr
    simp only [Axis.Finite, SaturatedRow.values, List.forall_mem_cons]
    exact ⟨hphysical.pressure, isFinite_of_isPositive hphysical.volumeFactor,
      isFinite_of_isPositive hphysical.viscosity, hphysical.ratio, fun _ h ↦ absurd h List.not_mem_nil⟩
  have hsample : ∀ s : GasSample α, s.Physical → Axis.Finite s.values := by
    intro s hphysical
    simp only [Axis.Finite, GasSample.values, List.forall_mem_cons]
    exact ⟨hphysical.ratio, isFinite_of_isPositive hphysical.volumeFactor,
      isFinite_of_isPositive hphysical.viscosity, fun _ h ↦ absurd h List.not_mem_nil⟩
  rw [checked, ← h.take.2, List.flatMap_map]
  intro x hx
  rcases List.mem_append.mp hx with hx | hx
  · obtain ⟨r, hr, hx⟩ := List.mem_flatMap.mp hx
    exact hrow r hr x hx
  · obtain ⟨i, hi, hx⟩ := List.mem_flatMap.mp hx
    obtain ⟨s, hs, hx⟩ := List.mem_flatMap.mp hx
    exact hsample s ((h.branch i (List.mem_range.mp hi)).sample s hs) x hx

end GasTable

namespace SaltTable

variable {α : Type}

def checked (t : SaltTable α) : List α :=
  t.pressures ++ (t.undersaturated.take t.saturated.length).flatMap (List.flatMap SaltSample.values)

def unchecked (t : SaltTable α) : List α :=
  t.saturated.map SaltSaturatedRow.ratio ++
    (t.undersaturated.drop t.saturated.length).flatMap (List.flatMap SaltSample.values)

theorem values_perm (t : SaltTable α) : t.values.Perm (t.checked ++ t.unchecked) := by
  have hrows : (t.saturated.flatMap SaltSaturatedRow.values).Perm
      (t.pressures ++ t.saturated.map SaltSaturatedRow.ratio) := by
    rw [pressures, List.map_eq_flatMap, List.map_eq_flatMap]
    exact perm_flatMap_append (fun r : SaltSaturatedRow α ↦ .refl [r.pressure, r.ratio]) t.saturated
  rw [values, checked, unchecked, ← flatMap_take_append_drop t.saturated.length _ t.undersaturated]
  exact perm_append_of_parts hrows (.refl _)

theorem SameChecked.length_eq {t t' : SaltTable α} (h : t.SameChecked t') :
    t'.saturated.length = t.saturated.length := by
  have hlength := congrArg List.length h.pressures
  rwa [SaltTable.pressures, SaltTable.pressures, List.length_map, List.length_map] at hlength

variable [Scalar α]

/-- Of the rows of a salt table only the pressures are looked at. -/
theorem faults_eq_of_pressures (t : SaltTable α) (region : Region.Id) :
    t.faults region =
      TableOrigin.tooShort ⟨.rwgsalt, region⟩ t.saturated.length ++
      t.pressures.zipIdx.flatMap (fun p ↦
        TableOrigin.finite ⟨.rwgsalt, region⟩ (.saturated .pressure p.2) p.1) ++
      TableOrigin.increasing ⟨.rwgsalt, region⟩ (.saturated .pressure) t.pressures ++
      (List.range t.saturated.length).flatMap fun node ↦ branchFaults ⟨.rwgsalt, region⟩ node (t.branch node) := by
  rw [pressures, List.zipIdx_map, List.flatMap_map]
  rfl

theorem SameChecked.faults_eq {t t' : SaltTable α} (h : t.SameChecked t') (region : Region.Id) :
    t'.faults region = t.faults region := by
  have hbranches : ∀ i ∈ List.range t.saturated.length,
      branchFaults ⟨.rwgsalt, region⟩ i (t'.branch i) = branchFaults ⟨.rwgsalt, region⟩ i (t.branch i) := by
    intro i hi
    rw [h.branch_eq (List.mem_range.mp hi)]
  rw [faults_eq_of_pressures, faults_eq_of_pressures, h.length_eq, h.pressures, List.flatMap_congr hbranches]

theorem Accepted.finite_checked {t : SaltTable α} (h : t.Accepted) : Axis.Finite t.checked := by
  have hsample : ∀ i < t.saturated.length, ∀ s ∈ t.branch i, Axis.Finite s.values := by
    intro i hi s hs
    obtain ⟨hconcentration, hratio⟩ := (h.branch i hi).sample s hs
    simp only [Axis.Finite, SaltSample.values, List.forall_mem_cons]
    exact ⟨hconcentration, hratio, fun _ h ↦ absurd h List.not_mem_nil⟩
  rw [checked, ← h.take.2, List.flatMap_map]
  intro x hx
  rcases List.mem_append.mp hx with hx | hx
  · obtain ⟨r, hr, rfl⟩ := List.mem_map.mp hx
    exact h.pressure r hr
  · obtain ⟨i, hi, hx⟩ := List.mem_flatMap.mp hx
    obtain ⟨s, hs, hx⟩ := List.mem_flatMap.mp hx
    exact hsample i (List.mem_range.mp hi) s hs x hx

end SaltTable

namespace Deck

variable {α : Type}

def checked (d : Deck α) : List α :=
  d.wet.flatMap GasTable.checked ++ d.humid.flatMap GasTable.checked ++ d.salt.flatMap SaltTable.checked

def unchecked (d : Deck α) : List α :=
  d.densities.flatMap Densities.values ++ d.wet.flatMap GasTable.unchecked ++
    d.humid.flatMap GasTable.unchecked ++ d.salt.flatMap SaltTable.unchecked

theorem values_perm (d : Deck α) : d.values.Perm (d.checked ++ d.unchecked) := by
  have hwet := perm_flatMap_append GasTable.values_perm d.wet
  have hhumid := perm_flatMap_append GasTable.values_perm d.humid
  have hsalt := perm_flatMap_append SaltTable.values_perm d.salt
  have hfirst : (d.densities.flatMap Densities.values ++ d.wet.flatMap GasTable.values).Perm
      (d.wet.flatMap GasTable.checked ++
        (d.densities.flatMap Densities.values ++ d.wet.flatMap GasTable.unchecked)) :=
    (hwet.append_left _).trans (List.perm_append_comm_assoc _ _ _)
  exact perm_append_of_parts (perm_append_of_parts hfirst hhumid) hsalt

/-- The decks differ in the numbers that are not checked only. -/
structure SameChecked (d d' : Deck α) : Prop where
  densities : d'.densities.length = d.densities.length
  gas : ∀ family, List.Forall₂ GasTable.SameChecked (d.gasTables family) (d'.gasTables family)
  salt : List.Forall₂ SaltTable.SameChecked d.salt d'.salt

variable [Scalar α] {d d' : Deck α}

omit [Scalar α] in
theorem SameChecked.countFaults_eq (h : d.SameChecked d') : d'.countFaults = d.countFaults := by
  have hwet : d'.wet.length = d.wet.length := (h.gas .wet).length_eq.symm
  have hhumid : d'.humid.length = d.humid.length := (h.gas .humid).length_eq.symm
  have hsalt : d'.salt.length = d.salt.length := h.salt.length_eq.symm
  have hhasSalt : d'.hasSalt = d.hasSalt := by
    rw [Bool.eq_iff_iff, hasSalt_iff, hasSalt_iff, ← List.length_pos_iff, ← List.length_pos_iff, hsalt]
  simp only [countFaults, regionCount, h.densities, hwet, hhumid, hsalt, hhasSalt]

theorem SameChecked.outcome_eq (h : d.SameChecked d') : Stage.check.outcome d' = Stage.check.outcome d := by
  funext p
  obtain ⟨i, part⟩ := p
  cases part with
  | gas family =>
    refine elim_getElem?_of_forall₂ (h.gas family) (fun t t' ht ↦ ?_) (Except.ok ()) i
    exact congrArg (accept · ()) (ht.faults_eq family (.ofNat i))
  | salt =>
    refine elim_getElem?_of_forall₂ h.salt (fun t t' ht ↦ ?_) (Except.ok ()) i
    exact congrArg (accept · ()) (ht.faults_eq (.ofNat i))

theorem SameChecked.check_eq (h : d.SameChecked d') : d'.check = d.check := by
  cases hd : d.check with
  | ok u =>
    rw [check_eq_ok_iff_outcome, ← countFaults_eq_nil_iff] at hd ⊢
    rw [h.countFaults_eq, h.outcome_eq]
    exact hd
  | error e =>
    rw [check_eq_error_iff_firstFailure, ← countFaults_eq_nil_iff, ← head?_countFaults_eq_some_iff,
      Stage.FirstFailure] at hd ⊢
    rw [h.countFaults_eq, h.outcome_eq]
    exact hd

theorem finite_checked_of_check [Scalar.Ordered α] (h : d.check = .ok ()) : Axis.Finite d.checked := by
  have hgas : ∀ family, ∀ t ∈ d.gasTables family, Axis.Finite t.checked := by
    intro family t ht
    obtain ⟨i, hi⟩ := List.mem_iff_getElem?.mp ht
    exact (accepted_of_check h hi).finite_checked
  have hsalt : ∀ t ∈ d.salt, Axis.Finite t.checked := by
    intro t ht
    obtain ⟨i, hi⟩ := List.mem_iff_getElem?.mp ht
    exact (accepted_salt_of_check h hi).finite_checked
  intro x hx
  rcases List.mem_append.mp hx with hx | hx
  · rcases List.mem_append.mp hx with hx | hx
    · obtain ⟨t, ht, hx⟩ := List.mem_flatMap.mp hx
      exact hgas .wet t ht x hx
    · obtain ⟨t, ht, hx⟩ := List.mem_flatMap.mp hx
      exact hgas .humid t ht x hx
  · obtain ⟨t, ht, hx⟩ := List.mem_flatMap.mp hx
    exact hsalt t ht x hx

/-- The numbers of a deck are those that are checked and those that are not, and all that are checked are finite
once the deck is accepted. So the numbers of an accepted deck are all finite exactly if those are that are not
checked, and these can be anything: the check comes out the same for every deck that differs in them only. -/
theorem finite_of_check {d : Deck Float} (h : d.check = .ok ()) :
    d.values.Perm (d.checked ++ d.unchecked) ∧
    (∀ x ∈ d.checked, Float.isFinite x = true) ∧
    ((∀ x ∈ d.values, Float.isFinite x = true) ↔ ∀ x ∈ d.unchecked, Float.isFinite x = true) ∧
    ∀ d', d.SameChecked d' → d'.check = .ok () := by
  have hchecked : ∀ x ∈ d.checked, Float.isFinite x = true := finite_checked_of_check h
  refine ⟨d.values_perm, hchecked, ?_, fun d' hd' ↦ hd'.check_eq.trans h⟩
  constructor
  · intro hall x hx
    exact hall x (d.values_perm.mem_iff.mpr (List.mem_append_right _ hx))
  · intro hunchecked x hx
    rcases List.mem_append.mp (d.values_perm.mem_iff.mp hx) with hx | hx
    · exact hchecked x hx
    · exact hunchecked x hx

def partlyFinite : Deck Float where
  densities := [⟨800, 0 / 0, 1000⟩]
  wet := [⟨[⟨1, 2, 1, 1⟩, ⟨2, 1, 1, 2⟩], [[⟨1, 2, 1⟩], [⟨2, 1, 1⟩, ⟨3, 1, 1⟩], [⟨1 / 0, 1, 1⟩]]⟩]
  humid := [⟨[⟨1, 2, 1, 1⟩, ⟨2, 1, 1, 2⟩], [[⟨1, 2, 1⟩], [⟨2, 1, 1⟩, ⟨3, 1, 1⟩]]⟩]
  salt := [⟨[⟨1, 0 / 0⟩, ⟨2, 1⟩], [[⟨0, 1⟩], [⟨0, 2⟩, ⟨1, 1⟩]]⟩]

theorem finite_partlyFinite : partlyFinite.check = .ok () ∧
    (∀ x ∈ partlyFinite.checked, Float.isFinite x = true) ∧
    ¬ ∀ x ∈ partlyFinite.values, Float.isFinite x = true := by
  have hcheck : partlyFinite.check = .ok () := by decide +kernel
  obtain ⟨-, hchecked, hvalues, -⟩ := finite_of_check hcheck
  exact ⟨hcheck, hchecked, fun hall ↦ absurd (hvalues.mp hall) (by decide +kernel)⟩

end Deck

end ReservoirGas

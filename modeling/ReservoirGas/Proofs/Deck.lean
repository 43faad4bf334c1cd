import ReservoirGas.Acceptance
import ReservoirGas.Proofs.Outcome
import Mathlib.Data.List.Basic

namespace ReservoirGas

open Outcome

namespace Deck

variable {α : Type}

/-- Every list of tables is as long as the list of densities. No salt tables count as none missing. -/
structure CountsAgree (d : Deck α) : Prop where
  wet : d.wet.length = d.regionCount
  humid : d.humid.length = d.regionCount
  salt : d.salt ≠ [] → d.salt.length = d.regionCount

inductive CountFault (d : Deck α) : PropertyError α → Prop
  | wet (differs : d.wet.length ≠ d.regionCount) :
    CountFault d (.tableMismatch .pvtg d.wet.length .density d.regionCount)
  | humid (wet : d.wet.length = d.regionCount) (differs : d.humid.length ≠ d.regionCount) :
    CountFault d (.tableMismatch .pvtgw d.humid.length .density d.regionCount)
  | salt (wet : d.wet.length = d.regionCount) (humid : d.humid.length = d.regionCount)
    (supplied : d.salt ≠ []) (differs : d.salt.length ≠ d.regionCount) :
    CountFault d (.tableMismatch .rwgsalt d.salt.length .density d.regionCount)

theorem hasSalt_iff {d : Deck α} : d.hasSalt = true ↔ d.salt ≠ [] := by
  simp [hasSalt]

theorem lookupSalt_eq_some_iff {d : Deck α} {i : Nat} {salt : Option (SaltTable α)} :
    d.lookupSalt i = some salt ↔ (d.salt ≠ [] → i < d.salt.length) ∧ salt = d.salt[i]? := by
  by_cases hne : d.salt = []
  · simp [lookupSalt, hasSalt, hne, eq_comm]
  · rw [lookupSalt, if_pos (hasSalt_iff.mpr hne), Option.map_eq_some_iff]
    simp only [List.getElem?_eq_some_iff, ne_eq, hne, not_false_eq_true, forall_const]
    constructor
    · intro h
      obtain ⟨table, ⟨hi, rfl⟩, rfl⟩ := h
      exact ⟨hi, (List.getElem?_eq_getElem hi).symm⟩
    · intro h
      obtain ⟨hi, rfl⟩ := h
      exact ⟨_, ⟨hi, rfl⟩, (List.getElem?_eq_getElem hi).symm⟩

theorem lookup_eq_some_iff {d : Deck α} {i : Nat} {e : Entry α} :
    d.lookup i = some e ↔ ∃ rho wet humid, d.densities[i]? = some rho ∧ d.wet[i]? = some wet ∧
      d.humid[i]? = some humid ∧ (d.salt ≠ [] → i < d.salt.length) ∧
      e = ⟨.ofNat i, rho, wet, humid, d.salt[i]?⟩ := by
  simp only [lookup, Option.bind_eq_bind, Option.bind_eq_some_iff, lookupSalt_eq_some_iff]
  constructor
  · intro h
    obtain ⟨rho, hrho, wet, hwet, humid, hhumid, _, ⟨hsalt, rfl⟩, he⟩ := h
    exact ⟨rho, wet, humid, hrho, hwet, hhumid, hsalt, (Option.some.inj he).symm⟩
  · intro h
    obtain ⟨rho, wet, humid, hrho, hwet, hhumid, hsalt, rfl⟩ := h
    exact ⟨rho, hrho, wet, hwet, humid, hhumid, _, ⟨hsalt, rfl⟩, rfl⟩

theorem isSome_lookup_iff {d : Deck α} {i : Nat} : (d.lookup i).isSome = true ↔
    i < d.densities.length ∧ i < d.wet.length ∧ i < d.humid.length ∧
      (d.salt ≠ [] → i < d.salt.length) := by
  simp only [Option.isSome_iff_exists, lookup_eq_some_iff]
  constructor
  · intro h
    obtain ⟨_, rho, wet, humid, hrho, hwet, hhumid, hsalt, -⟩ := h
    exact ⟨(List.getElem?_eq_some_iff.mp hrho).1, (List.getElem?_eq_some_iff.mp hwet).1,
      (List.getElem?_eq_some_iff.mp hhumid).1, hsalt⟩
  · intro h
    obtain ⟨hrho, hwet, hhumid, hsalt⟩ := h
    exact ⟨_, _, _, _, List.getElem?_eq_getElem hrho, List.getElem?_eq_getElem hwet,
      List.getElem?_eq_getElem hhumid, hsalt, rfl⟩

theorem getElem?_filterMap_range {β : Type} {f : Nat → Option β}
    (hclosed : ∀ i j, i ≤ j → (f j).isSome = true → (f i).isSome = true) (n i : Nat) :
    ((List.range n).filterMap f)[i]? = if i < n then f i else none := by
  induction n generalizing i with
  | zero => rfl
  | succ n ih =>
    rw [List.range_succ, List.filterMap_append]
    cases hn : f n with
    | none =>
      rw [List.filterMap_cons_none hn, List.filterMap_nil, List.append_nil, ih]
      rcases Nat.lt_trichotomy i n with h | rfl | h
      · rw [if_pos h, if_pos (Nat.lt_succ_of_lt h)]
      · rw [if_neg (Nat.lt_irrefl i), if_pos (Nat.lt_succ_self i), hn]
      · rw [if_neg (Nat.not_lt_of_gt h), if_neg (by omega)]
    | some x =>
      have hlength : ((List.range n).filterMap f).length = n := by
        apply Nat.le_antisymm
        · rw [← List.getElem?_eq_none_iff, ih, if_neg (Nat.lt_irrefl n)]
        · refine Nat.le_of_not_lt fun hlt ↦ ?_
          have hsome := hclosed _ n (Nat.le_of_lt hlt) (Option.isSome_of_eq_some hn)
          have hnone := ih ((List.range n).filterMap f).length
          rw [if_pos hlt, List.getElem?_eq_none (Nat.le_refl _)] at hnone
          rw [← hnone] at hsome
          cases hsome
      rw [List.filterMap_cons_some hn, List.filterMap_nil]
      rcases Nat.lt_trichotomy i n with h | rfl | h
      · rw [List.getElem?_append_left (hlength.symm ▸ h), ih, if_pos h, if_pos (Nat.lt_succ_of_lt h)]
      · rw [List.getElem?_append_right (Nat.le_of_eq hlength), hlength, Nat.sub_self, if_pos (Nat.lt_succ_self i), hn]
        rfl
      · rw [if_neg (by omega), List.getElem?_eq_none_iff, List.length_append, hlength]
        exact h

theorem getElem?_entries {d : Deck α} {i : Nat} : d.entries[i]? = d.lookup i := by
  have hclosed (i j : Nat) (hij : i ≤ j) (h : (d.lookup j).isSome = true) :
      (d.lookup i).isSome = true := by
    rw [isSome_lookup_iff] at h ⊢
    exact ⟨by omega, by omega, by omega, fun hne ↦ Nat.lt_of_le_of_lt hij (h.2.2.2 hne)⟩
  rw [entries, getElem?_filterMap_range hclosed]
  split
  · rfl
  · rename_i hi
    rw [eq_comm, ← Option.not_isSome_iff_eq_none, isSome_lookup_iff]
    exact fun h ↦ hi h.1

theorem getElem?_entries_eq_some_iff {d : Deck α} {i : Nat} {e : Entry α} :
    d.entries[i]? = some e ↔ ∃ rho wet humid, d.densities[i]? = some rho ∧ d.wet[i]? = some wet ∧
      d.humid[i]? = some humid ∧ (d.salt ≠ [] → i < d.salt.length) ∧
      e = ⟨.ofNat i, rho, wet, humid, d.salt[i]?⟩ := by
  rw [getElem?_entries, lookup_eq_some_iff]

theorem length_entries_le (d : Deck α) : d.entries.length ≤ d.regionCount :=
  Nat.le_trans (List.length_filterMap_le _ _) (Nat.le_of_eq List.length_range)

theorem CountsAgree.isSome_lookup {d : Deck α} (h : d.CountsAgree) {i : Nat} (hi : i < d.regionCount) :
    (d.lookup i).isSome = true :=
  isSome_lookup_iff.mpr ⟨hi, h.wet.symm ▸ hi, h.humid.symm ▸ hi, fun hne ↦ (h.salt hne).symm ▸ hi⟩

/-- Where the numbers of tables agree, every position that is looked up exists. -/
theorem map_lookup_eq {d : Deck α} (h : d.CountsAgree) :
    (List.range d.regionCount).map d.lookup = d.entries.map some := by
  apply List.ext_getElem?
  intro i
  rw [List.getElem?_map, List.getElem?_map, getElem?_entries]
  by_cases hi : i < d.regionCount
  · obtain ⟨e, he⟩ := Option.isSome_iff_exists.mp (h.isSome_lookup hi)
    rw [List.getElem?_range hi, Option.map_some, he, Option.map_some]
  · have hnone : d.lookup i = none := by
      rw [← Option.not_isSome_iff_eq_none, isSome_lookup_iff]
      exact fun h ↦ hi h.1
    rw [hnone, List.getElem?_eq_none (by simpa using hi), Option.map_none, Option.map_none]

theorem CountsAgree.length_entries {d : Deck α} (h : d.CountsAgree) :
    d.entries.length = d.regionCount := by
  have hlength := congrArg List.length (map_lookup_eq h)
  rwa [List.length_map, List.length_map, List.length_range, eq_comm] at hlength

theorem countFaults_eq_nil_iff {d : Deck α} : d.countFaults = [] ↔ d.CountsAgree := by
  simp only [countFaults, List.append_eq_nil_iff, faultUnless_eq_nil_iff, beq_iff_eq]
  constructor
  · intro h
    obtain ⟨⟨hwet, hhumid⟩, hsalt⟩ := h
    refine ⟨hwet, hhumid, fun hne ↦ ?_⟩
    rw [if_pos (hasSalt_iff.mpr hne)] at hsalt
    simpa using faultUnless_eq_nil_iff.mp hsalt
  · intro h
    refine ⟨⟨h.wet, h.humid⟩, ?_⟩
    split
    · rename_i hne
      exact faultUnless_eq_nil_iff.mpr (by simpa using h.salt (hasSalt_iff.mp hne))
    · rfl

theorem head?_countFaults_eq_some_iff {d : Deck α} {e : PropertyError α} :
    d.countFaults.head? = some e ↔ d.CountFault e := by
  rw [countFaults, List.append_assoc, head?_faultUnless_append_eq_some_iff,
    head?_faultUnless_append_eq_some_iff, beq_iff_eq, beq_iff_eq, beq_eq_false_iff_ne,
    beq_eq_false_iff_ne]
  constructor
  · intro h
    rcases h with ⟨hwet, rfl⟩ | ⟨hwet, ⟨hhumid, rfl⟩ | ⟨hhumid, h⟩⟩
    · exact .wet hwet
    · exact .humid hwet hhumid
    · split at h
      · rename_i hsalt
        obtain ⟨hdiffers, rfl⟩ := head?_faultUnless_eq_some_iff.mp h
        exact .salt hwet hhumid (hasSalt_iff.mp hsalt) (beq_eq_false_iff_ne.mp hdiffers)
      · cases h
  · intro h
    cases h with
    | wet hwet => exact .inl ⟨hwet, rfl⟩
    | humid hwet hhumid => exact .inr ⟨hwet, .inl ⟨hhumid, rfl⟩⟩
    | salt hwet hhumid hsalt hdiffers =>
      refine .inr ⟨hwet, .inr ⟨hhumid, ?_⟩⟩
      rw [if_pos (hasSalt_iff.mpr hsalt)]
      exact head?_faultUnless_eq_some_iff.mpr ⟨beq_eq_false_iff_ne.mpr hdiffers, rfl⟩

variable [Scalar α]

theorem check_eq_ok_iff {d : Deck α} :
    d.check = .ok () ↔ d.CountsAgree ∧ ∀ e ∈ d.entries, e.faults = [] := by
  rw [check, accept_unit_eq_ok_iff, faults, List.append_eq_nil_iff, countFaults_eq_nil_iff,
    List.flatMap_eq_nil_iff]

/-- A deck is refused with the first difference of numbers, or else with the first fault of the first
region that has one. -/
theorem check_eq_error_iff {d : Deck α} {e : PropertyError α} :
    d.check = .error e ↔ d.CountFault e ∨ d.CountsAgree ∧ ∃ (i : Nat) (entry : Entry α),
      d.entries[i]? = some entry ∧
      entry.faults.head? = some e ∧ ∀ j < i, ∀ entry' : Entry α, d.entries[j]? = some entry' →
        entry'.faults = [] := by
  rw [check, accept_eq_error_iff, faults, List.head?_append, ← head?_countFaults_eq_some_iff,
    ← countFaults_eq_nil_iff, ← head?_flatMap_eq_some_iff]
  cases d.countFaults with
  | nil => simp
  | cons e' r => simp

end Deck

end ReservoirGas

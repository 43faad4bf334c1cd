import ReservoirGas.Project
import Mathlib.Data.List.Basic

namespace ReservoirGas

variable {α β : Type}

theorem mapM_eq_map {γ δ : Type} {r : γ → Option δ} {k : γ → δ} {xs : List γ}
    (h : ∀ x ∈ xs, r x = some (k x)) : xs.mapM r = some (xs.map k) := by
  induction xs with
  | nil => rfl
  | cons x xs ih =>
    have hx := h x List.mem_cons_self
    have hxs := ih fun y hy ↦ h y (List.mem_cons_of_mem x hy)
    rw [List.mapM_cons, hx, hxs]
    rfl

theorem mapM_eq_none {γ δ : Type} {r : γ → Option δ} {xs : List γ} {x : γ} (hx : x ∈ xs)
    (h : r x = none) : xs.mapM r = none := by
  induction xs with
  | nil => cases hx
  | cons y ys ih =>
    rw [List.mapM_cons]
    rcases List.mem_cons.mp hx with rfl | hx
    · rw [h]
      rfl
    · rw [ih hx]
      cases r y <;> rfl

/-- `replace` goes through the numbers that `values` lists: it changes nothing if `f` fixes them all, and
has no result if `f` has none for one of them. -/
structure Replaces {γ : Type} (f : α → Option α) (replace : γ → Option γ) (values : γ → List α) : Prop where
  fixed : ∀ x, (∀ n ∈ values x, f n = some n) → replace x = some x
  lost : ∀ x, (∃ n ∈ values x, f n = none) → replace x = none

theorem Replaces.list {γ : Type} {f : α → Option α} {replace : γ → Option γ} {values : γ → List α}
    (h : Replaces f replace values) : Replaces f (List.mapM replace) (List.flatMap values) where
  fixed xs hxs := by
    have hfixed : ∀ x ∈ xs, replace x = some (id x) := by
      intro x hx
      exact h.fixed x fun n hn ↦ hxs n (List.mem_flatMap.mpr ⟨x, hx, hn⟩)
    rw [mapM_eq_map hfixed, List.map_id]
  lost xs hxs := by
    obtain ⟨n, hn, hf⟩ := hxs
    obtain ⟨x, hx, hn⟩ := List.mem_flatMap.mp hn
    exact mapM_eq_none hx (h.lost x ⟨n, hn, hf⟩)

theorem Replaces.parts {γ δ τ : Type} {f : α → Option α} {r₁ : γ → Option γ} {r₂ : δ → Option δ}
    {values₁ : γ → List α} {values₂ : δ → List α} {first : τ → γ} {second : τ → δ} {build : γ → δ → τ}
    (h₁ : Replaces f r₁ values₁) (h₂ : Replaces f r₂ values₂) (hbuild : ∀ t, build (first t) (second t) = t) :
    Replaces f (fun t ↦ do return build (← r₁ (first t)) (← r₂ (second t)))
      (fun t ↦ values₁ (first t) ++ values₂ (second t)) where
  fixed t h := by
    obtain ⟨hfirst, hsecond⟩ := List.forall_mem_append.mp h
    simp [h₁.fixed _ hfirst, h₂.fixed _ hsecond, hbuild]
  lost t h := by
    obtain ⟨n, hn, hf⟩ := h
    rcases List.mem_append.mp hn with hn | hn
    · simp [h₁.lost _ ⟨n, hn, hf⟩]
    · simp [h₂.lost _ ⟨n, hn, hf⟩]

namespace Densities

def values (d : Densities α) : List α :=
  [d.oil, d.gas, d.water]

def traverse (f : α → Option β) (d : Densities α) : Option (Densities β) := do
  return ⟨← f d.oil, ← f d.gas, ← f d.water⟩

theorem replaces (f : α → Option α) : Replaces f (traverse f) values where
  fixed d h := by
    simp only [values, List.forall_mem_cons] at h
    simp [traverse, h]
  lost d h := by
    simp only [values, List.exists_mem_cons_iff] at h
    rcases h with h | h | h | h <;> simp_all [traverse]

end Densities

namespace SaturatedRow

def values (r : SaturatedRow α) : List α :=
  [r.pressure, r.volumeFactor, r.viscosity, r.ratio]

def traverse (f : α → Option β) (r : SaturatedRow α) : Option (SaturatedRow β) := do
  return ⟨← f r.pressure, ← f r.volumeFactor, ← f r.viscosity, ← f r.ratio⟩

theorem replaces (f : α → Option α) : Replaces f (traverse f) values where
  fixed r h := by
    simp only [values, List.forall_mem_cons] at h
    simp [traverse, h]
  lost r h := by
    simp only [values, List.exists_mem_cons_iff] at h
    rcases h with h | h | h | h | h <;> simp_all [traverse]

end SaturatedRow

namespace GasSample

def values (s : GasSample α) : List α :=
  [s.ratio, s.volumeFactor, s.viscosity]

def traverse (f : α → Option β) (s : GasSample α) : Option (GasSample β) := do
  return ⟨← f s.ratio, ← f s.volumeFactor, ← f s.viscosity⟩

theorem replaces (f : α → Option α) : Replaces f (traverse f) values where
  fixed s h := by
    simp only [values, List.forall_mem_cons] at h
    simp [traverse, h]
  lost s h := by
    simp only [values, List.exists_mem_cons_iff] at h
    rcases h with h | h | h | h <;> simp_all [traverse]

end GasSample

namespace GasTable

def values (t : GasTable α) : List α :=
  t.saturated.flatMap SaturatedRow.values ++ t.undersaturated.flatMap (List.flatMap GasSample.values)

def traverse (f : α → Option β) (t : GasTable α) : Option (GasTable β) := do
  return ⟨← t.saturated.mapM (SaturatedRow.traverse f),
    ← t.undersaturated.mapM (List.mapM (GasSample.traverse f))⟩

theorem replaces (f : α → Option α) : Replaces f (traverse f) (values : GasTable α → List α) :=
  (SaturatedRow.replaces f).list.parts (GasSample.replaces f).list.list fun _ ↦ rfl

end GasTable

namespace SaltSaturatedRow

def values (r : SaltSaturatedRow α) : List α :=
  [r.pressure, r.ratio]

def traverse (f : α → Option β) (r : SaltSaturatedRow α) : Option (SaltSaturatedRow β) := do
  return ⟨← f r.pressure, ← f r.ratio⟩

theorem replaces (f : α → Option α) : Replaces f (traverse f) values where
  fixed r h := by
    simp only [values, List.forall_mem_cons] at h
    simp [traverse, h]
  lost r h := by
    simp only [values, List.exists_mem_cons_iff] at h
    rcases h with h | h | h <;> simp_all [traverse]

end SaltSaturatedRow

namespace SaltSample

def values (s : SaltSample α) : List α :=
  [s.concentration, s.ratio]

def traverse (f : α → Option β) (s : SaltSample α) : Option (SaltSample β) := do
  return ⟨← f s.concentration, ← f s.ratio⟩

theorem replaces (f : α → Option α) : Replaces f (traverse f) values where
  fixed s h := by
    simp only [values, List.forall_mem_cons] at h
    simp [traverse, h]
  lost s h := by
    simp only [values, List.exists_mem_cons_iff] at h
    rcases h with h | h | h <;> simp_all [traverse]

end SaltSample

namespace SaltTable

def values (t : SaltTable α) : List α :=
  t.saturated.flatMap SaltSaturatedRow.values ++ t.undersaturated.flatMap (List.flatMap SaltSample.values)

def traverse (f : α → Option β) (t : SaltTable α) : Option (SaltTable β) := do
  return ⟨← t.saturated.mapM (SaltSaturatedRow.traverse f),
    ← t.undersaturated.mapM (List.mapM (SaltSample.traverse f))⟩

theorem replaces (f : α → Option α) : Replaces f (traverse f) (values : SaltTable α → List α) :=
  (SaltSaturatedRow.replaces f).list.parts (SaltSample.replaces f).list.list fun _ ↦ rfl

end SaltTable

namespace Deck

def values (d : Deck α) : List α :=
  d.densities.flatMap Densities.values ++ d.wet.flatMap GasTable.values ++
    d.humid.flatMap GasTable.values ++ d.salt.flatMap SaltTable.values

def traverse (f : α → Option β) (d : Deck α) : Option (Deck β) := do
  return ⟨← d.densities.mapM (Densities.traverse f), ← d.wet.mapM (GasTable.traverse f),
    ← d.humid.mapM (GasTable.traverse f), ← d.salt.mapM (SaltTable.traverse f)⟩

theorem replaces (f : α → Option α) : Replaces f (traverse f) values where
  fixed d h := by
    simp only [values, List.forall_mem_append] at h
    obtain ⟨⟨⟨hdensities, hwet⟩, hhumid⟩, hsalt⟩ := h
    have hdensities := (Densities.replaces f).list.fixed _ hdensities
    have hwet := (GasTable.replaces f).list.fixed _ hwet
    have hhumid := (GasTable.replaces f).list.fixed _ hhumid
    have hsalt := (SaltTable.replaces f).list.fixed _ hsalt
    simp only [traverse, hdensities, hwet, hhumid, hsalt]
    rfl
  lost d h := by
    obtain ⟨n, hn, hf⟩ := h
    simp only [values, List.mem_append] at hn
    rcases hn with ((hn | hn) | hn) | hn
    · have hdensities := (Densities.replaces f).list.lost _ ⟨n, hn, hf⟩
      simp [traverse, hdensities]
    · have hwet := (GasTable.replaces f).list.lost _ ⟨n, hn, hf⟩
      simp [traverse, hwet]
    · have hhumid := (GasTable.replaces f).list.lost _ ⟨n, hn, hf⟩
      simp [traverse, hhumid]
    · have hsalt := (SaltTable.replaces f).list.lost _ ⟨n, hn, hf⟩
      simp [traverse, hsalt]

end Deck

namespace OilVaporization

def values : OilVaporization α → List α
  | .parameters vap1 vap2 => [vap1, vap2]
  | _ => []

def limits : OilVaporization α → List α
  | .rates maxDissolved maxVaporized => maxDissolved.toList ++ maxVaporized.toList
  | _ => []

def traverseLimit (g : α → Option (Option β)) : Option α → Option (Option β)
  | none => some none
  | some x => g x

def traverse (f : α → Option β) (g : α → Option (Option β)) :
    OilVaporization α → Option (OilVaporization β)
  | .undefined => some .undefined
  | .parameters vap1 vap2 => do return .parameters (← f vap1) (← f vap2)
  | .rates maxDissolved maxVaporized => do
    return .rates (← traverseLimit g maxDissolved) (← traverseLimit g maxVaporized)

def keepLimits (keep : α → Bool) : OilVaporization α → OilVaporization α
  | .rates maxDissolved maxVaporized => .rates (maxDissolved.filter keep) (maxVaporized.filter keep)
  | v => v

theorem traverseLimit_kept {g : α → Option (Option α)} {keep : α → Bool} {limit : Option α}
    (h : ∀ x ∈ limit.toList, g x = some (if keep x then some x else none)) :
    traverseLimit g limit = some (limit.filter keep) := by
  cases limit with
  | none => rfl
  | some x => exact h x (by simp)

theorem traverse_kept {f : α → Option α} {g : α → Option (Option α)} {keep : α → Bool}
    {v : OilVaporization α} (hf : ∀ x ∈ v.values, f x = some x)
    (hg : ∀ x ∈ v.limits, g x = some (if keep x then some x else none)) :
    v.traverse f g = some (v.keepLimits keep) := by
  cases v with
  | undefined => rfl
  | parameters vap1 vap2 =>
    have hvap1 := hf vap1 (by simp [values])
    have hvap2 := hf vap2 (by simp [values])
    simp [traverse, keepLimits, hvap1, hvap2]
  | rates maxDissolved maxVaporized =>
    obtain ⟨hdissolved, hvaporized⟩ := List.forall_mem_append.mp hg
    simp [traverse, keepLimits, traverseLimit_kept hdissolved, traverseLimit_kept hvaporized]

theorem keepLimits_eq_self {keep : α → Bool} {v : OilVaporization α} (h : ∀ x ∈ v.limits, keep x = true) :
    v.keepLimits keep = v := by
  cases v with
  | rates maxDissolved maxVaporized =>
    obtain ⟨hdissolved, hvaporized⟩ := List.forall_mem_append.mp h
    have hfilter (limit : Option α) (hlimit : ∀ x ∈ limit.toList, keep x = true) :
        limit.filter keep = limit := by
      cases limit with
      | none => rfl
      | some x => rw [Option.filter_some, if_pos (hlimit x (by simp))]
    rw [keepLimits, hfilter _ hdissolved, hfilter _ hvaporized]
  | _ => rfl

theorem traverse_lost {f : α → Option β} {g : α → Option (Option β)} {v : OilVaporization α} {x : α}
    (hx : x ∈ v.values) (h : f x = none) : v.traverse f g = none := by
  cases v with
  | undefined => cases hx
  | parameters vap1 vap2 =>
    rcases List.mem_pair.mp hx with rfl | rfl
    · simp [traverse, h]
    · simp [traverse, h]
  | rates maxDissolved maxVaporized => cases hx

end OilVaporization

namespace Schedule

def values (s : Schedule α) : List α :=
  s.steps.flatMap OilVaporization.values

def limits (s : Schedule α) : List α :=
  s.steps.flatMap OilVaporization.limits

def traverse (f : α → Option β) (g : α → Option (Option β)) (s : Schedule α) : Option (Schedule β) := do
  return ⟨← s.steps.mapM (OilVaporization.traverse f g)⟩

def keepLimits (keep : α → Bool) (s : Schedule α) : Schedule α :=
  ⟨s.steps.map (OilVaporization.keepLimits keep)⟩

theorem traverse_kept {f : α → Option α} {g : α → Option (Option α)} {keep : α → Bool} {s : Schedule α}
    (hf : ∀ x ∈ s.values, f x = some x)
    (hg : ∀ x ∈ s.limits, g x = some (if keep x then some x else none)) :
    s.traverse f g = some (s.keepLimits keep) := by
  have hsteps : s.steps.mapM (OilVaporization.traverse f g) =
      some (s.steps.map (OilVaporization.keepLimits keep)) := by
    apply mapM_eq_map
    intro v hv
    apply OilVaporization.traverse_kept
    · exact fun x hx ↦ hf x (List.mem_flatMap.mpr ⟨v, hv, hx⟩)
    · exact fun x hx ↦ hg x (List.mem_flatMap.mpr ⟨v, hv, hx⟩)
  rw [traverse, hsteps]
  rfl

theorem keepLimits_eq_self {keep : α → Bool} {s : Schedule α} (h : ∀ x ∈ s.limits, keep x = true) :
    s.keepLimits keep = s := by
  have hsteps : s.steps.map (OilVaporization.keepLimits keep) = s.steps := by
    have hself : ∀ v ∈ s.steps, v.keepLimits keep = id v := by
      intro v hv
      exact OilVaporization.keepLimits_eq_self fun x hx ↦ h x (List.mem_flatMap.mpr ⟨v, hv, hx⟩)
    rw [List.map_congr_left hself, List.map_id]
  rw [keepLimits, hsteps]

theorem traverse_lost {f : α → Option β} {g : α → Option (Option β)} {s : Schedule α} {x : α}
    (hx : x ∈ s.values) (h : f x = none) : s.traverse f g = none := by
  obtain ⟨v, hv, hx⟩ := List.mem_flatMap.mp hx
  rw [traverse, mapM_eq_none hv (OilVaporization.traverse_lost hx h)]
  rfl

end Schedule

namespace Project

def values (p : Project) : List Float :=
  p.schedule.values ++ p.deck.values

def limits (p : Project) : List Float :=
  p.schedule.limits

def traverse (f : Float → Option Float) (g : Float → Option (Option Float)) (p : Project) :
    Option Project := do
  return { p with schedule := ← p.schedule.traverse f g, deck := ← p.deck.traverse f }

variable {f : Float → Option Float} {g : Float → Option (Option Float)} {p : Project}

def keepLimits (keep : Float → Bool) (p : Project) : Project :=
  { p with schedule := p.schedule.keepLimits keep }

theorem traverse_kept {keep : Float → Bool} (hf : ∀ x ∈ p.values, f x = some x)
    (hg : ∀ x ∈ p.limits, g x = some (if keep x then some x else none)) :
    p.traverse f g = some (p.keepLimits keep) := by
  obtain ⟨hschedule, hdeck⟩ := List.forall_mem_append.mp hf
  have hschedule := Schedule.traverse_kept hschedule hg
  have hdeck := (Deck.replaces f).fixed p.deck hdeck
  rw [traverse, hschedule, hdeck]
  rfl

theorem keepLimits_eq_self {keep : Float → Bool} (h : ∀ x ∈ p.limits, keep x = true) :
    p.keepLimits keep = p := by
  rw [keepLimits, Schedule.keepLimits_eq_self h]

theorem traverse_fixed (hf : ∀ x ∈ p.values, f x = some x) (hg : ∀ x ∈ p.limits, g x = some (some x)) :
    p.traverse f g = some p := by
  have hkept : p.traverse f g = some (p.keepLimits fun _ ↦ true) := traverse_kept hf hg
  rw [hkept, keepLimits_eq_self fun _ _ ↦ rfl]

theorem traverse_lost {x : Float} (hx : x ∈ p.values) (h : f x = none) : p.traverse f g = none := by
  rcases List.mem_append.mp hx with hx | hx
  · rw [traverse, Schedule.traverse_lost hx h]
    rfl
  · rw [traverse, (Deck.replaces f).lost p.deck ⟨x, hx, h⟩]
    cases p.schedule.traverse f g <;> rfl

end Project

end ReservoirGas

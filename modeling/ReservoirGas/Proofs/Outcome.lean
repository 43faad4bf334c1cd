import ReservoirGas.Tables

namespace ReservoirGas.Outcome

variable {ε ε' β γ : Type}

@[simp] theorem bind_eq_ok_iff {x : Except ε β} {f : β → Except ε γ} {c : γ} :
    (x >>= f) = .ok c ↔ ∃ b, x = .ok b ∧ f b = .ok c := by
  cases x <;> simp [bind, Except.bind]

@[simp] theorem bind_eq_error_iff {x : Except ε β} {f : β → Except ε γ} {e : ε} :
    (x >>= f) = .error e ↔ x = .error e ∨ ∃ b, x = .ok b ∧ f b = .error e := by
  cases x <;> simp [bind, Except.bind]

theorem seq_eq_ok_iff {x : Except ε Unit} {y : Except ε γ} {c : γ} :
    (x >>= fun _ ↦ y) = .ok c ↔ x = .ok () ∧ y = .ok c := by
  cases x <;> simp [bind, Except.bind]

theorem seq_eq_error_iff {x : Except ε Unit} {y : Except ε γ} {e : ε} :
    (x >>= fun _ ↦ y) = .error e ↔ x = .error e ∨ x = .ok () ∧ y = .error e := by
  cases x <;> simp [bind, Except.bind]

@[simp] theorem pure_eq_ok_iff {b c : β} : (pure b : Except ε β) = .ok c ↔ b = c := by
  simp [pure, Except.pure]

@[simp] theorem pure_ne_error {b : β} {e : ε} : (pure b : Except ε β) ≠ .error e := by
  simp [pure, Except.pure]

@[simp] theorem mapError_eq_ok_iff {x : Except ε β} {f : ε → ε'} {b : β} :
    x.mapError f = .ok b ↔ x = .ok b := by
  cases x with
  | ok b' =>
    have hmap : (Except.ok b' : Except ε β).mapError f = .ok b' := rfl
    rw [hmap, Except.ok.injEq, Except.ok.injEq]
  | error e =>
    have hmap : (Except.error e : Except ε β).mapError f = .error (f e) := rfl
    rw [hmap]
    simp

theorem mapError_eq_error_iff {x : Except ε β} {f : ε → ε'} {e' : ε'} :
    x.mapError f = .error e' ↔ ∃ e, x = .error e ∧ f e = e' := by
  cases x with
  | ok b =>
    have hmap : (Except.ok b : Except ε β).mapError f = .ok b := rfl
    rw [hmap]
    simp
  | error e =>
    have hmap : (Except.error e : Except ε β).mapError f = .error (f e) := rfl
    rw [hmap]
    simp

theorem discard_eq_ok_iff {x : Except ε β} : discard x = .ok () ↔ ∃ b, x = .ok b := by
  cases x <;> simp [discard, Functor.mapConst, Except.map]

theorem discard_eq_error_iff {x : Except ε β} {e : ε} : discard x = .error e ↔ x = .error e := by
  cases x <;> simp [discard, Functor.mapConst, Except.map]

theorem mapM_eq_ok_iff {f : β → Except ε γ} {o : Option β} {y : Option γ} :
    o.mapM f = .ok y ↔ o = none ∧ y = none ∨ ∃ b c, o = some b ∧ f b = .ok c ∧ y = some c := by
  cases o with
  | none => simp [pure, Except.pure, eq_comm]
  | some b => cases h : f b <;> simp [Functor.map, Except.map, h, eq_comm]

theorem flatMap_zipIdx_eq_nil_iff {ι : Type} {faults : Nat → ι → List ε} {P : ι → Prop} {l : List ι}
    (h : ∀ i x, faults i x = [] ↔ P x) :
    l.zipIdx.flatMap (fun p ↦ faults p.2 p.1) = [] ↔ ∀ x ∈ l, P x := by
  rw [List.flatMap_eq_nil_iff]
  constructor
  · intro hall x hx
    obtain ⟨i, hi⟩ := List.mem_iff_getElem?.mp hx
    exact (h i x).mp (hall (x, i) (List.mem_zipIdx_iff_getElem?.mpr hi))
  · intro hall p hp
    exact (h p.2 p.1).mpr (hall p.1 (List.fst_mem_of_mem_zipIdx hp))

theorem head?_flatMap_eq_some_iff {ι : Type} {faults : ι → List ε} {members : List ι} {e : ε} :
    (members.flatMap faults).head? = some e ↔ ∃ (i : Nat) (m : ι), members[i]? = some m ∧
      (faults m).head? = some e ∧ ∀ j < i, ∀ m', members[j]? = some m' → faults m' = [] := by
  induction members with
  | nil => simp
  | cons m r ih =>
    rw [List.flatMap_cons, List.head?_append]
    constructor
    · intro h
      cases hm : faults m with
      | cons e' faults' =>
        rw [hm] at h
        cases h
        exact ⟨0, m, rfl, by rw [hm]; rfl, fun j hj ↦ absurd hj (Nat.not_lt_zero j)⟩
      | nil =>
        rw [hm] at h
        obtain ⟨i, m', hi, he, hbefore⟩ := ih.mp h
        refine ⟨i + 1, m', hi, he, fun j hj m'' hj' ↦ ?_⟩
        cases j with
        | zero =>
          cases hj'
          exact hm
        | succ j => exact hbefore j (by omega) m'' hj'
    · intro h
      obtain ⟨i, m', hi, he, hbefore⟩ := h
      cases i with
      | zero =>
        cases hi
        rw [he]
        rfl
      | succ i =>
        rw [hbefore 0 (Nat.succ_pos i) m rfl]
        exact ih.mpr ⟨i, m', hi, he, fun j hj m'' hj' ↦ hbefore (j + 1) (by omega) m'' hj'⟩

/-- The same for members that are checked with their positions, where `P` is what the check is about. -/
theorem head?_flatMap_zipIdx_eq_some_iff {ι : Type} {faults : Nat → ι → List ε} {P : ι → Prop}
    {members : List ι} {e : ε} (h : ∀ i m, faults i m = [] ↔ P m) :
    (members.zipIdx.flatMap fun p ↦ faults p.2 p.1).head? = some e ↔ ∃ (i : Nat) (m : ι),
      members[i]? = some m ∧ (faults i m).head? = some e ∧ ∀ m' ∈ members.take i, P m' := by
  simp only [head?_flatMap_eq_some_iff, List.getElem?_zipIdx, Option.map_eq_some_iff, Nat.zero_add]
  constructor
  · intro hfirst
    obtain ⟨i, _, ⟨m, hm, rfl⟩, he, hbefore⟩ := hfirst
    refine ⟨i, m, hm, he, fun m' hm' ↦ ?_⟩
    obtain ⟨j, hj, rfl⟩ := List.mem_take_iff_getElem.mp hm'
    have hj' : j < members.length := by omega
    exact (h j _).mp (hbefore j (by omega) _ ⟨_, List.getElem?_eq_getElem hj', rfl⟩)
  · intro hfirst
    obtain ⟨i, m, hm, he, hbefore⟩ := hfirst
    refine ⟨i, _, ⟨m, hm, rfl⟩, he, fun j hj p hp ↦ ?_⟩
    obtain ⟨m', hm', rfl⟩ := hp
    obtain ⟨hj', rfl⟩ := List.getElem?_eq_some_iff.mp hm'
    exact (h j _).mpr (hbefore _ (List.mem_take_iff_getElem.mpr ⟨j, by omega, rfl⟩))

theorem head?_flatMap_range_eq_some_iff {faults : Nat → List ε} {P : Nat → Prop} {n : Nat} {e : ε}
    (h : ∀ i, faults i = [] ↔ P i) :
    ((List.range n).flatMap faults).head? = some e ↔ ∃ i < n, (faults i).head? = some e ∧ ∀ j < i, P j := by
  simp only [head?_flatMap_eq_some_iff, List.getElem?_eq_some_iff, List.length_range, List.getElem_range]
  constructor
  · intro hfirst
    obtain ⟨i, _, ⟨hi, rfl⟩, he, hbefore⟩ := hfirst
    exact ⟨i, hi, he, fun j hj ↦ (h j).mp (hbefore j hj j ⟨by omega, rfl⟩)⟩
  · intro hfirst
    obtain ⟨i, hi, he, hbefore⟩ := hfirst
    refine ⟨i, i, ⟨hi, rfl⟩, he, fun j hj m hm ↦ ?_⟩
    obtain ⟨-, rfl⟩ := hm
    exact (h j).mpr (hbefore j hj)

theorem head?_append_eq_some_iff {a b : List ε} {e : ε} :
    (a ++ b).head? = some e ↔ a.head? = some e ∨ a = [] ∧ b.head? = some e := by
  cases a <;> simp

theorem head?_faultUnless_eq_some_iff {test : Bool} {e e' : ε} :
    (faultUnless test e).head? = some e' ↔ test = false ∧ e = e' := by
  cases test <;> simp [faultUnless]

theorem head?_faultUnless_append_eq_some_iff {test : Bool} {e e' : ε} {r : List ε} :
    (faultUnless test e ++ r).head? = some e' ↔
      test = false ∧ e = e' ∨ test = true ∧ r.head? = some e' := by
  cases test <;> simp [faultUnless]

theorem accept_unit_eq_ok_iff {faults : List ε} : accept faults () = .ok () ↔ faults = [] := by
  simp [accept_eq_ok_iff]

theorem accept_append (a b : List ε) :
    accept (a ++ b) () = accept a () >>= fun _ ↦ accept b () := by
  cases a <;> rfl

end ReservoirGas.Outcome

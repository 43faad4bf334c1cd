import ReservoirGas.Model
import ReservoirGas.Proofs.Outcome
import Mathlib.Data.List.Forall2

namespace ReservoirGas.Jobs

open Outcome

variable {ε β : Type} {jobs : List (Unit → Except ε β)}

/-- The results by position that stand after the jobs in `finished` have finished. -/
structure Standing (jobs : List (Unit → Except ε β)) (finished : List Nat)
    (done : List (Option (Except ε β))) : Prop where
  length_eq : done.length = jobs.length
  result : ∀ i job, jobs[i]? = some job → i ∈ finished → done[i]? = some (some (job ()))

theorem Standing.start (jobs : List (Unit → Except ε β)) :
    Standing jobs [] (jobs.map fun _ ↦ none) where
  length_eq := List.length_map _
  result _ _ _ h := absurd h List.not_mem_nil

theorem Standing.finish {finished : List Nat} {done : List (Option (Except ε β))}
    (h : Standing jobs finished done) (i : Nat) :
    Standing jobs (i :: finished) (finish jobs done i) where
  length_eq := (List.length_set ..).trans h.length_eq
  result j job hj hmem := by
    have hlt : j < done.length := by
      rw [h.length_eq]
      exact (List.getElem?_eq_some_iff.mp hj).1
    -- position `i` has just been written, the others are as they were
    by_cases hij : i = j
    · subst hij
      rw [Jobs.finish, List.getElem?_set_self hlt, hj]
      rfl
    · rw [Jobs.finish, List.getElem?_set_ne hij]
      apply h.result j job hj
      rcases List.mem_cons.mp hmem with rfl | hmem
      · exact absurd rfl hij
      · exact hmem

theorem Standing.run {finished : List Nat} {done : List (Option (Except ε β))}
    (h : Standing jobs finished done) (order : List Nat) :
    Standing jobs (order.reverse ++ finished) (order.foldl (Jobs.finish jobs) done) := by
  induction order generalizing finished done with
  | nil => exact h
  | cons i order ih => simpa using ih (h.finish i)

theorem results_eq {order : List Nat} (h : ∀ i < jobs.length, i ∈ order) :
    results order jobs = jobs.map fun job ↦ some (job ()) := by
  have hrun := (Standing.start jobs).run order
  apply List.ext_getElem?
  intro i
  rw [List.getElem?_map]
  cases hi : jobs[i]? with
  | none =>
    rw [Option.map_none, List.getElem?_eq_none_iff]
    exact hrun.length_eq ▸ List.getElem?_eq_none_iff.mp hi
  | some job =>
    have hlt := (List.getElem?_eq_some_iff.mp hi).1
    exact hrun.result i job hi (by simpa using h i hlt)

theorem collect_map_run (jobs : List (Unit → Except ε β)) :
    collect (jobs.map fun job ↦ job ()) = inTurn jobs := by
  induction jobs with
  | nil => rfl
  | cons job r ih =>
    rw [List.map_cons, inTurn]
    cases h : job () with
    | error e => rfl
    | ok x =>
      rw [collect, ih]
      rfl

/-- Side by side, the first failing position is reported, as in turn. -/
theorem sideBySide_eq_inTurn {order : List Nat} (h : ∀ i < jobs.length, i ∈ order) :
    sideBySide order jobs = inTurn jobs := by
  rw [sideBySide, results_eq h, ← collect_map_run, List.filterMap_map]
  exact congrArg collect (congrFun List.filterMap_eq_map jobs)

theorem inTurn_eq_ok_iff {xs : List β} :
    inTurn jobs = .ok xs ↔ List.Forall₂ (fun job x ↦ job () = .ok x) jobs xs := by
  induction jobs generalizing xs with
  | nil =>
    rw [List.forall₂_nil_left_iff, inTurn, Except.ok.injEq]
    exact eq_comm
  | cons job r ih =>
    simp only [inTurn, bind_eq_ok_iff, pure_eq_ok_iff]
    constructor
    · intro h
      obtain ⟨x, hx, ys, hys, rfl⟩ := h
      exact .cons hx (ih.mp hys)
    · intro h
      cases h with
      | cons hx hr => exact ⟨_, hx, _, ih.mpr hr, rfl⟩

theorem exists_job_of_inTurn {xs : List β} (h : inTurn jobs = .ok xs) {i : Nat} {x : β}
    (hx : xs[i]? = some x) : ∃ job, jobs[i]? = some job ∧ job () = .ok x := by
  have hall := inTurn_eq_ok_iff.mp h
  obtain ⟨hi, rfl⟩ := List.getElem?_eq_some_iff.mp hx
  have hi' : i < jobs.length := by
    rw [hall.length_eq]
    exact hi
  exact ⟨jobs[i], List.getElem?_eq_getElem hi', hall.get hi' hi⟩

theorem inTurn_eq_error_iff {e : ε} :
    inTurn jobs = .error e ↔ ∃ (i : Nat) (job : Unit → Except ε β), jobs[i]? = some job ∧
      job () = .error e ∧ ∀ j < i, ∀ job', jobs[j]? = some job' → ∃ x, job' () = .ok x := by
  induction jobs with
  | nil => simp [inTurn]
  | cons job r ih =>
    simp only [inTurn, bind_eq_error_iff, pure_ne_error, and_false, exists_false, or_false, ih]
    constructor
    · intro h
      rcases h with he | ⟨x, hx, i, job', hi, he, hbefore⟩
      · exact ⟨0, job, rfl, he, fun j hj ↦ absurd hj (Nat.not_lt_zero j)⟩
      · refine ⟨i + 1, job', hi, he, fun j hj job'' hj' ↦ ?_⟩
        cases j with
        | zero =>
          cases hj'
          exact ⟨x, hx⟩
        | succ j => exact hbefore j (by omega) job'' hj'
    · intro h
      obtain ⟨i, job', hi, he, hbefore⟩ := h
      cases i with
      | zero =>
        cases hi
        exact .inl he
      | succ i =>
        obtain ⟨x, hx⟩ := hbefore 0 (Nat.succ_pos i) job rfl
        exact .inr ⟨x, hx, i, job', hi, he, fun j hj job'' hj' ↦ hbefore (j + 1) (by omega) job'' hj'⟩

end ReservoirGas.Jobs

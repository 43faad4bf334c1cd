import ReservoirGas.Proofs.Json.Documents
import ReservoirGas.Proofs.Store

namespace ReservoirGas

open Document

namespace Json

theorem reread_of_not_finite {x : Float} (h : x.isFinite = false) : reread x = .null := by
  rw [reread, floatText, if_neg (by simp [h])]
  rfl

theorem reread_of_finite {x : Float} (h : x.isFinite = true) :
    (∃ y, reread x = .float y) ∨ reread x = .unreadable := by
  obtain ⟨w, htext, hw, hpoint⟩ := exists_floatText h
  have hreread : reread x = w.numeral.value := by
    have hends : Ends [] := fun _ h ↦ nomatch h
    have hvalue := value?_floatText x 0 hends
    rw [htext, value?_text hw hends, Option.some.injEq, Prod.mk.injEq] at hvalue
    exact hvalue.1.symm
  rw [hreread]
  exact Written.value_numeral hpoint

def number? (x : Float) : Option Float :=
  (reread x).float?

/-- A number as it is read where it may be missing. -/
def limit? (x : Float) : Option (Option Float) :=
  (reread x).optionalFloat?

theorem scalars_readsAs : Scalars ReadsAs number? limit? where
  text h := by
    cases h
    exact ⟨rfl, rfl⟩
  bool h := by
    cases h
    rfl
  nat {n d} h := by
    cases h
    simp [reading, uint32?, n.toNat_lt_size]
  null h := by
    cases h
    rfl
  float h := by
    cases h
    rfl
  settled {x d} h := by
    cases h
    have hreading : reading (.float x) = reread x := rfl
    rw [hreading]
    cases hfinite : x.isFinite
    · rw [number?, limit?, reread_of_not_finite hfinite]
      exact ⟨rfl, rfl, rfl, fun h ↦ nomatch h⟩
    · rcases reread_of_finite hfinite with ⟨y, hy⟩ | hunreadable
      · rw [number?, limit?, hy]
        exact ⟨rfl, rfl, rfl, fun h ↦ nomatch h⟩
      · rw [number?, limit?, hunreadable]
        exact ⟨rfl, rfl, rfl, fun _ ↦ ⟨rfl, rfl⟩⟩

@[simp]
theorem writable_null : Writable .null :=
  trivial

@[simp]
theorem writable_bool (b : Bool) : Writable (.bool b) :=
  trivial

@[simp]
theorem writable_float (x : Float) : Writable (.float x) :=
  trivial

@[simp]
theorem writable_text (s : String) : Writable (.text s) :=
  trivial

@[simp]
theorem writable_list_iff {ds : List Document} : Writable (.list ds) ↔ ∀ d ∈ ds, Writable d := by
  rw [Writable]
  induction ds with
  | nil => simp [WritableItems]
  | cons d ds ih => simp [WritableItems, ih]

@[simp]
theorem writable_record_iff {es : List (String × Document)} :
    Writable (.record es) ↔ ∀ e ∈ es, Writable e.2 := by
  rw [record, Writable]
  induction es with
  | nil => simp [WritableEntries]
  | cons e es ih => simp [WritableEntries, ih]

end Json

open Json

theorem GasTable.writable (t : GasTable Float) : Writable t.toDocument := by
  simp [toDocument, SaturatedRow.toDocument, GasSample.toDocument]

theorem SaltTable.writable (t : SaltTable Float) : Writable t.toDocument := by
  simp [toDocument, SaltSaturatedRow.toDocument, SaltSample.toDocument]

theorem Deck.writable (d : Deck Float) : Writable d.toDocument := by
  simp [toDocument, Densities.toDocument, GasTable.writable, SaltTable.writable]

theorem OilVaporization.writable (v : OilVaporization Float) : Writable v.toDocument := by
  cases v with
  | undefined => simp [toDocument]
  | parameters vap1 vap2 => simp [toDocument]
  | rates maxDissolved maxVaporized =>
    cases maxDissolved <;> cases maxVaporized <;> simp [toDocument, rateDocument]

theorem Schedule.writable (s : Schedule Float) : Writable s.toDocument := by
  simp [toDocument, stepDocument, OilVaporization.writable]

namespace Project

variable {p : Project} {stem : String} {files : Files}

theorem writable (p : Project) : Writable p.toDocument := by
  have hversion : Writable (.int p.version.toNat) := by
    have hsize := p.version.toNat_lt_size
    have hsizes : UInt32.size ≤ UInt64.size := by decide
    rw [Writable]
    omega
  simp [toDocument, BuildOptions.toDocument, Deck.writable, Schedule.writable, hversion]

theorem ofText_json (p : Project) :
    ofText .json (p.toText .json) =
      match p.traverse number? limit? with
      | some q => q.check.map fun _ ↦ q
      | none => .error (.malformed .json) := by
  obtain ⟨d, hd, hcarried⟩ := exists_read?_write p.writable
  have hread : Format.read? .json (p.toText .json) = some d := hd
  rw [ofText, ofTextBy, parse?, hread, Option.bind_some, Project.reads Json.scalars_readsAs .json p d hcarried]
  cases p.traverse number? limit? with
  | none => rfl
  | some q =>
    simp only [bind, Except.bind, pure, Except.pure]
    cases q.check <;> rfl

theorem check_keepLimits (keep : Float → Bool) : (p.keepLimits keep).check = p.check :=
  rfl

/-- A project is saved as JSON if it passes its checks, and loaded with the numbers that their texts stand
for. With a number that is not finite it is not loaded at all, but for the limits of the schedule: these are
missing then. -/
theorem load_save_json (p : Project) (files : Files) (hstem : FilePath.EndsInName stem) :
    (∀ e, p.check = .error e → p.save .json (stem ++ ("." ++ "json")) files = (.error e, files)) ∧
    (p.check = .ok () →
      (p.save .json (stem ++ ("." ++ "json")) files).1 = .ok () ∧
      load (p.save .json (stem ++ ("." ++ "json")) files).2.read? (stem ++ ("." ++ "json")) =
        (match p.traverse number? limit? with
        | some q => q.check.map fun _ ↦ q
        | none => .error (.malformed .json)) ∧
      ((∃ x ∈ p.values, x.isFinite = false) →
        load (p.save .json (stem ++ ("." ++ "json")) files).2.read? (stem ++ ("." ++ "json")) =
          .error (.malformed .json)) ∧
      ((∀ x ∈ p.values, number? x = some x) →
        (∀ x ∈ p.limits, x.isFinite = true → limit? x = some (some x)) →
        load (p.save .json (stem ++ ("." ++ "json")) files).2.read? (stem ++ ("." ++ "json")) =
          .ok (p.keepLimits Float.isFinite))) := by
  refine ⟨fun e ↦ save_of_error, fun hcheck ↦ ?_⟩
  rw [load_save hstem rfl hcheck, ofText_json, save_of_check hcheck]
  refine ⟨rfl, rfl, fun hlost ↦ ?_, fun hvalues hlimits ↦ ?_⟩
  · obtain ⟨x, hx, hfinite⟩ := hlost
    have hnumber : number? x = none := by
      rw [number?, reread_of_not_finite hfinite]
      rfl
    rw [traverse_lost hx hnumber]
  · have hkept : p.traverse number? limit? = some (p.keepLimits Float.isFinite) := by
      apply traverse_kept hvalues
      intro x hx
      split
      · rename_i hfinite
        exact hlimits x hx hfinite
      · rename_i hfinite
        rw [limit?, reread_of_not_finite (by simpa using hfinite)]
        rfl
    rw [hkept]
    simp only [check_keepLimits, hcheck]
    rfl

/-- A project whose numbers are finite but for one of the limits. -/
def unlimited : Project where
  version := 1
  name := "a"
  schedule := ⟨[.parameters 1 2, .rates (some (1 / 0)) (some 3)]⟩
  deck := Model.oneRegion

theorem load_save_json_boundless :
    (boundless.save .json "a.json" []).1 = .ok () ∧
    load (boundless.save .json "a.json" []).2.read? "a.json" = .error (.malformed .json) ∧
    load (unlimited.save .json "a.json" []).2.read? "a.json" =
      .ok { unlimited with schedule := ⟨[.parameters 1 2, .rates none (some 3)]⟩ } := by
  have hstem : FilePath.EndsInName "a" := ⟨'a', by decide, by decide⟩
  have hpath : "a" ++ ("." ++ "json") = "a.json" := by decide
  obtain ⟨-, hboundless⟩ := load_save_json boundless [] hstem
  obtain ⟨-, hunlimited⟩ := load_save_json unlimited [] hstem
  obtain ⟨hsaved, -, hlost, -⟩ := hboundless check_boundless
  obtain ⟨-, -, -, hloaded⟩ := hunlimited (by decide +kernel)
  rw [hpath] at hsaved hlost hloaded
  have hvalues : ∀ x ∈ unlimited.values, number? x = some x := by
    decide +kernel
  have hlimits : ∀ x ∈ unlimited.limits, x.isFinite = true → limit? x = some (some x) := by
    decide +kernel
  have hkept : unlimited.keepLimits Float.isFinite =
      { unlimited with schedule := ⟨[.parameters 1 2, .rates none (some 3)]⟩ } := by
    decide +kernel
  refine ⟨hsaved, hlost (by decide +kernel), ?_⟩
  rw [hloaded hvalues hlimits, hkept]

end Project

end ReservoirGas

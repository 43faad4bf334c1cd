import ReservoirGas.Command
import ReservoirGas.Proofs.Independence
import ReservoirGas.Proofs.Json.Projects
import ReservoirGas.Proofs.Printing

namespace ReservoirGas

open Outcome
open Decimal (numberText fixedDigits exponentDigits)

namespace GasProperties

variable {α : Type} [Scalar α] {g : GasProperties α} {c : BranchSet.Completed α} {raw : BranchSet α}
  {i : Nat}

theorem Holds.isExtended_iff (h : g.Holds c) (hcompletes : c.Completes raw) (hi : i < raw.size) :
    g.isExtended i = true ↔ raw.branchSize i = 1 := by
  have hmem : g.isExtended i = true ↔ i ∈ c.extensions.map Extension.node := by
    rw [isExtended, h.extensions_eq, List.any_eq_true, List.mem_map]
    simp only [beq_iff_eq]
  rw [hmem, hcompletes.extended, List.mem_filter, List.mem_range, decide_eq_true_eq]
  exact and_iff_right hi

end GasProperties

namespace Report

variable {g : GasProperties Float} {c : BranchSet.Completed Float} {t : GasTable Float}

def tableName : Family → String
  | .wet => "PVTG"
  | .humid => "PVTGW"

def ratioName : Family → String
  | .wet => "RV"
  | .humid => "RW"

def right (s : String) : String :=
  String.ofList (s.toList.leftpad 14 ' ')

def pressureText (pressure : Float) (extrapolated : Bool) : String :=
  "  P = " ++ numberText (fixedDigits 3) (pressure / 1e5) ++ " bar" ++
    if extrapolated then "  (extrapolated)" else ""

def columnText (family : Family) : String :=
  "    " ++ right (ratioName family) ++ " " ++ right "B" ++ " " ++ right "MU"

def sampleText (s : GasSample Float) : String :=
  "    " ++ right (numberText (exponentDigits 6) s.ratio) ++ " " ++
    right (numberText (exponentDigits 6) (1 / (1 / s.volumeFactor))) ++ " " ++
    right (numberText (exponentDigits 6) s.viscosity)

/-- The lines for a raw table and its completed branches: a heading for each saturated pressure, in bar, which
is marked if the raw branch is a single sample, and a line for each sample of the completed branch. -/
def printout (family : Family) (region : Nat) (t : GasTable Float) (samples : Nat → List (GasSample Float)) :
    List String :=
  (tableName family ++ " region " ++ toString region) ::
  t.saturated.zipIdx.flatMap fun (row, i) ↦
    pressureText row.pressure ((t.branch i).length = 1) :: columnText family :: (samples i).map sampleText

theorem padLeft_eq (s : String) : padLeft 14 s = right s := by
  apply String.toList_injective
  simp [padLeft, right, List.leftpad, String.length_toList]

theorem columns_eq (a b c : String) : columns a b c = "    " ++ right a ++ " " ++ right b ++ " " ++ right c := by
  simp only [columns, padLeft_eq]
  rfl

theorem nodeLine_eq (pressure : Float) (extended : Bool) :
    nodeLine pressure extended = pressureText pressure extended := by
  rw [nodeLine, Decimal.fixedText_eq (by decide)]
  rfl

theorem columns_ratioColumn (family : Family) :
    columns family.ratioColumn.name "B" "MU" = columnText family := by
  rw [columns_eq]
  cases family <;> rfl

theorem sampleLine_eq (s : GasSample Float) :
    sampleLine s.ratio (BranchSet.inverseVolumeFactor s) s.viscosity = sampleText s := by
  simp only [sampleLine, columns_eq, Decimal.exponentText_eq (show 0 < 6 by decide)]
  rfl

theorem zipWith_sampleLine (h : g.Holds c) (i : Nat) :
    List.zipWith (fun s viscosity ↦ sampleLine s.1 s.2 viscosity) (g.inverseVolumeFactor.branch i)
      (g.viscosity.branchValues i) = (c.branches.branch i).map sampleText := by
  rw [h.inverse_eq, h.viscosity_eq, BranchSet.branch_surface, BranchSet.branchValues_surface,
    List.zipWith_map, List.zipWith_self]
  exact List.map_congr_left fun s _ ↦ sampleLine_eq s

theorem nodeLines_eq (h : g.Holds c) (hcompletes : c.Completes (.ofTable t)) {i : Nat}
    (hi : i < t.saturated.length) (pressure : Float) :
    nodeLines g i pressure = pressureText pressure ((t.branch i).length = 1) :: columnText g.family ::
      (c.branches.branch i).map sampleText := by
  have hextended : g.isExtended i = decide ((t.branch i).length = 1) := by
    rw [Bool.eq_iff_iff, decide_eq_true_eq, ← BranchSet.branch_ofTable hi]
    exact h.isExtended_iff hcompletes (by rw [BranchSet.size_ofTable]; exact hi)
  rw [nodeLines, zipWith_sampleLine h, hextended, nodeLine_eq, columns_ratioColumn]

theorem branches_eq (h : g.Holds c) (hcompletes : c.Completes (.ofTable t)) (region : Nat) :
    branches region g = printout g.family region t c.branches.branch := by
  have hpressures : g.inverseVolumeFactor.xs = t.pressures := by
    rw [h.inverse_eq, BranchSet.xs_surface, hcompletes.pressures, BranchSet.pressures_ofTable]
  have hkeyword : s!"{g.family.keyword.name} region {region}" =
      tableName g.family ++ " region " ++ toString region := by
    cases g.family <;> rfl
  rw [branches, hpressures, printout, hkeyword, GasTable.pressures, List.zipIdx_map, List.flatMap_map]
  refine congrArg _ (List.flatMap_congr fun p hp ↦ ?_)
  exact nodeLines_eq h hcompletes (List.snd_lt_of_mem_zipIdx hp) p.1.pressure

end Report

theorem Project.build_eq_ok_of_build {p : Project} {m : Model Float} (h : p.build = .ok m) :
    Model.build p.options (.ofSchedule p.schedule) p.deck = .ok m := by
  rw [build, seq_eq_ok_iff, mapError_eq_ok_iff] at h
  exact h.2

theorem Model.isSome_gas?_iff {α : Type} {m : Model α} {region : Nat} {family : Family} :
    (m.gas? region family).isSome = true ↔ region < m.regions.length := by
  rw [gas?, region?, Option.isSome_map, isSome_getElem?]

theorem CommandError.text_regionOutOfRange (region count : Nat) :
    (CommandError.regionOutOfRange region count).text =
      "Error: RegionOutOfRange \x7b region: " ++ toString region ++ ", count: " ++ toString count ++ " \x7d\n" := by
  simp only [text, term, Term.render, Term.renderItems, Term.nat]
  -- the pieces of the two texts differ, their characters do not
  apply String.toList_injective
  simp

namespace Command

variable {load : String → Except ProjectError Project} {args : List String} {path : String} {region : Nat}
  {family : Family} {p : Project} {m : Model Float}

/-- The file at `path` holds the project `p`, and `m` is the model of it. -/
structure Opens (load : String → Except ProjectError Project) (path : String) (p : Project)
    (m : Model Float) : Prop where
  load : load path = .ok p
  build : p.build = .ok m

theorem branches_of_opens (h : Opens load path p m) : branches load path region family =
    match m.gas? region family with
    | some g => .ok (Report.branches region g)
    | none => .error (.regionOutOfRange region m.regions.length) := by
  rw [branches, h.load]
  simp only [Except.mapError, bind, Except.bind, h.build]
  cases m.gas? region family <;> rfl

theorem branches_eq_ok_iff {lines : List String} : branches load path region family = .ok lines ↔
    ∃ p m g, Opens load path p m ∧ m.gas? region family = some g ∧ lines = Report.branches region g := by
  constructor
  · intro h
    obtain ⟨p, hload, h⟩ := bind_eq_ok_iff.mp h
    obtain ⟨m, hbuild, h⟩ := bind_eq_ok_iff.mp h
    cases hg : m.gas? region family with
    | some g =>
      rw [hg] at h
      cases h
      exact ⟨p, m, g, ⟨mapError_eq_ok_iff.mp hload, mapError_eq_ok_iff.mp hbuild⟩, hg, rfl⟩
    | none =>
      rw [hg] at h
      cases h
  · intro h
    obtain ⟨p, m, g, hopens, hg, rfl⟩ := h
    rw [branches_of_opens hopens, hg]

/-- What is inspected: the raw table `t` of a region, its completed branches `c`, and the finished tables `g`,
which hold these along increasing ratios, and of each volume factor its inverse. -/
structure Inspected (p : Project) (m : Model Float) (region : Nat) (family : Family) (t : GasTable Float)
    (c : BranchSet.Completed Float) (g : GasProperties Float) : Prop where
  table : (p.deck.gasTables family)[region]? = some t
  completed : (BranchSet.ofTable t).complete family (.ofNat region) = .ok c
  gas : m.gas? region family = some g
  holds : g.Holds c
  stored : ∀ i, g.inverseVolumeFactor.branch i =
    (c.branches.branch i).map fun s ↦ (s.ratio, 1 / s.volumeFactor)
  increasing : ∀ i, Axis.Increasing ((c.branches.branch i).map GasSample.ratio)

theorem exists_inspected (family : Family) (h : Opens load path p m) (hregion : region < m.regions.length) :
    ∃ t c g, Inspected p m region family t c g ∧
      branches load path region family = .ok (Report.printout family region t c.branches.branch) := by
  have hbuilt := Model.builtFrom_of_build (Project.build_eq_ok_of_build h.build)
  have hr : m.regions[region]? = some m.regions[region] := List.getElem?_eq_getElem hregion
  obtain ⟨-, hgas, -, -⟩ := hbuilt.exists_entry hr
  obtain ⟨t, ht, hofTable⟩ := hgas family
  obtain ⟨c, hc, hholds⟩ := GasProperties.exists_holds_of_ofTable hofTable
  obtain ⟨-, hcompletes⟩ := BranchSet.completes_of_complete hc
  have hg : m.gas? region family = some (m.regions[region].gas family) := by
    rw [Model.gas?, Model.region?, hr, Option.map_some]
  refine ⟨t, c, m.regions[region].gas family, ⟨ht, hc, hg, hholds, fun i ↦ ?_, fun i ↦ ?_⟩, ?_⟩
  · rw [hholds.inverse_eq, BranchSet.branch_surface]
    rfl
  · have hincreasing := hholds.inverse_sound.increasing_branchYs i
    rwa [hholds.inverse_eq, BranchSet.branchYs_surface] at hincreasing
  · rw [branches_of_opens h, hg]
    simp only [Report.branches_eq hholds hcompletes, GasProperties.family_of_ofTable hofTable]

theorem exists_branches_iff (family : Family) : (∃ lines, branches load path region family = .ok lines) ↔
    ∃ p m, Opens load path p m ∧ region < m.regions.length := by
  constructor
  · intro h
    obtain ⟨lines, hlines⟩ := h
    obtain ⟨p, m, g, hopens, hg, -⟩ := branches_eq_ok_iff.mp hlines
    exact ⟨p, m, hopens, Model.isSome_gas?_iff.mp (Option.isSome_of_eq_some hg)⟩
  · intro h
    obtain ⟨p, m, hopens, hregion⟩ := h
    obtain ⟨t, c, g, -, hlines⟩ := exists_inspected family hopens hregion
    exact ⟨_, hlines⟩

theorem branches_of_length_le (h : Opens load path p m) (hregion : m.regions.length ≤ region) :
    branches load path region family = .error (.regionOutOfRange region m.regions.length) := by
  have hnone : m.gas? region family = none := by
    rw [← Option.not_isSome_iff_eq_none, Model.isSome_gas?_iff]
    exact Nat.not_lt_of_le hregion
  rw [branches_of_opens h, hnone]

theorem outcomeBy_of_branches {lines : List String} (h : ofArguments? args = some (.inspect path region family))
    (hlines : branches load path region family = .ok lines) :
    outcomeBy load args = ⟨0, String.join (lines.map (· ++ "\n")), ""⟩ := by
  rw [outcomeBy, h]
  simp only [run, hlines, printed]

theorem outcomeBy_of_branches_error {e : CommandError}
    (h : ofArguments? args = some (.inspect path region family))
    (he : branches load path region family = .error e) : outcomeBy load args = ⟨1, "", e.text⟩ := by
  rw [outcomeBy, h]
  simp only [run, he, printed]
  rfl

/-- What an inspection does, with any reader of files and any reader of texts as projects, of which
`Project.parse?` is one. It succeeds if and only if the file loads as a project that has a model and the model
has the region. Otherwise it prints nothing, and a region that there is not is named in the error, with the
number of those there are. What is printed is the printout of the raw table and of its completed branches. -/
theorem outcome_inspect (parse : Project.Parser) (read : String → Option ByteArray)
    (h : ofArguments? args = some (.inspect path region family)) :
    let load := Project.loadBy parse read
    ((outcomeBy load args).exit = 0 ↔ ∃ p m, Opens load path p m ∧ region < m.regions.length) ∧
    ((outcomeBy load args).exit ≠ 0 → (outcomeBy load args).stdout = "") ∧
    ∀ p m, Opens load path p m →
      (m.regions.length ≤ region → outcomeBy load args = ⟨1, "",
        "Error: RegionOutOfRange \x7b region: " ++ toString region ++ ", count: " ++
          toString m.regions.length ++ " \x7d\n"⟩) ∧
      (region < m.regions.length → ∃ t c g, Inspected p m region family t c g ∧
        outcomeBy load args =
          ⟨0, String.join ((Report.printout family region t c.branches.branch).map (· ++ "\n")), ""⟩) := by
  intro load
  refine ⟨?_, fun hexit ↦ ?_, fun p m hopens ↦ ⟨fun hregion ↦ ?_, fun hregion ↦ ?_⟩⟩
  · rw [← exists_branches_iff family]
    cases hlines : branches load path region family with
    | ok lines => simp [outcomeBy_of_branches h hlines]
    | error e => simp [outcomeBy_of_branches_error h hlines]
  · cases hlines : branches load path region family with
    | ok lines =>
      rw [outcomeBy_of_branches h hlines] at hexit
      exact absurd rfl hexit
    | error e => rw [outcomeBy_of_branches_error h hlines]
  · rw [outcomeBy_of_branches_error h (branches_of_length_le hopens hregion),
      CommandError.text_regionOutOfRange]
  · obtain ⟨t, c, g, hinspected, hlines⟩ := exists_inspected family hopens hregion
    exact ⟨t, c, g, hinspected, outcomeBy_of_branches h hlines⟩

/-- A project of one region, of which the first wet branch is a single sample. -/
def oneRegion : Project where
  version := 1
  name := "a"
  deck := Model.oneRegion

def readOneRegion (_ : String) : Option ByteArray :=
  some (oneRegion.toText .json).toUTF8

theorem exists_opens_oneRegion :
    ∃ m, Opens (Project.load readOneRegion) "a.json" oneRegion m ∧ m.regions.length = 1 := by
  have hformat : Project.formatOf "a.json" = .ok .json := by decide +kernel
  have hnumbers : oneRegion.traverse Json.number? Json.limit? = some oneRegion := by decide +kernel
  have hcheck : oneRegion.check = .ok () := by decide +kernel
  have htext : Project.ofText .json (oneRegion.toText .json) = .ok oneRegion := by
    rw [Project.ofText_json, hnumbers]
    simp only [hcheck, Except.map]
  have hload : Project.load readOneRegion "a.json" = .ok oneRegion :=
    (Project.load_of_text hformat rfl).trans htext
  have hlength : oneRegion.build.map (fun m ↦ m.regions.length) = .ok 1 := by decide +kernel
  cases hbuild : oneRegion.build with
  | ok m =>
    rw [hbuild] at hlength
    exact ⟨m, ⟨hload, hbuild⟩, Except.ok.inj hlength⟩
  | error e =>
    rw [hbuild] at hlength
    cases hlength

theorem printout_oneRegion {t : GasTable Float} {c : BranchSet.Completed Float}
    (ht : (oneRegion.deck.gasTables .wet)[0]? = some t)
    (hc : (BranchSet.ofTable t).complete .wet (.ofNat 0) = .ok c) :
    Report.printout .wet 0 t c.branches.branch =
      ["PVTG region 0",
        "  P = 10.000 bar  (extrapolated)",
        "                RV              B             MU",
        "       1.000000e-1    5.000000e-1    1.000000e-5",
        "       2.000000e-1    4.800000e-1    1.050000e-5",
        "  P = 20.000 bar",
        "                RV              B             MU",
        "       2.000000e-1    2.500000e-1    2.000000e-5",
        "       3.000000e-1    2.400000e-1    2.100000e-5"] := by
  have hlines := congrArg (Except.map fun c ↦ Report.printout .wet 0 t c.branches.branch) hc
  refine Except.ok.inj (hlines.symm.trans ?_)
  cases ht
  decide +kernel

theorem outcome_inspect_oneRegion :
    outcome readOneRegion ["inspect", "a.json"] =
      ⟨0, "PVTG region 0\n" ++
        "  P = 10.000 bar  (extrapolated)\n" ++
        "                RV              B             MU\n" ++
        "       1.000000e-1    5.000000e-1    1.000000e-5\n" ++
        "       2.000000e-1    4.800000e-1    1.050000e-5\n" ++
        "  P = 20.000 bar\n" ++
        "                RV              B             MU\n" ++
        "       2.000000e-1    2.500000e-1    2.000000e-5\n" ++
        "       3.000000e-1    2.400000e-1    2.100000e-5\n", ""⟩ ∧
    outcome readOneRegion ["inspect", "--region", "1", "a.json"] =
      ⟨1, "", "Error: RegionOutOfRange \x7b region: 1, count: 1 \x7d\n"⟩ := by
  have hfirst : ofArguments? ["inspect", "a.json"] = some (.inspect "a.json" 0 .wet) := by decide +kernel
  have hsecond : ofArguments? ["inspect", "--region", "1", "a.json"] = some (.inspect "a.json" 1 .wet) := by
    decide +kernel
  obtain ⟨m, hopens, hlength⟩ := exists_opens_oneRegion
  constructor
  · obtain ⟨t, c, g, hinspected, hprinted⟩ :=
      ((outcome_inspect Project.parse? readOneRegion hfirst).2.2 oneRegion m hopens).2 (by omega)
    refine hprinted.trans ?_
    rw [printout_oneRegion hinspected.table hinspected.completed]
    decide +kernel
  · have hrange :=
      ((outcome_inspect Project.parse? readOneRegion hsecond).2.2 oneRegion m hopens).1 (by omega)
    refine hrange.trans ?_
    rw [hlength]
    decide +kernel

end Command

end ReservoirGas

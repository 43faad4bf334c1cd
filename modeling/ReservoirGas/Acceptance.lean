import ReservoirGas.Deck
import ReservoirGas.Tables

namespace ReservoirGas

/-- A cell of a raw table. Rows and nodes count from zero; a node is the saturated row that an
undersaturated sample belongs to. -/
inductive Cell
  | saturated (column : Column) (row : Nat)
  | undersaturated (column : Column) (row node : Nat)
  deriving DecidableEq, Repr

/-- The row of a cell in words. Salt tables have no saturated counterpart of their inner rows, so there
the inner rows are just rows. -/
def Cell.rowName (table : Keyword) : Cell → String
  | .saturated _ row => s!"saturated row {row}"
  | .undersaturated _ row node =>
    if table = .rwgsalt then s!"row {row} of node {node}"
    else s!"undersaturated row {row} of node {node}"

def Cell.column : Cell → Column
  | .saturated column _ => column
  | .undersaturated column _ _ => column

def Cell.place (table : Keyword) (c : Cell) : String :=
  s!"{c.column.name} in {c.rowName table}"

def Cell.step (table : Keyword) (c : Cell) : String :=
  s!"{c.column.name} at {c.rowName table}"

inductive PropertyError (α : Type)
  | tableMismatch (left : Keyword) (leftCount : Nat) (right : Keyword) (rightCount : Nat)
  | insufficientData (table : Keyword) (region : Region.Id) (rows : Nat)
  | extrapolationImpossible (family : Family) (region : Region.Id) (node : Nat)
  | missingBranch (table : Keyword) (region : Region.Id) (node : Nat)
  | nonMonotonic (table : Keyword) (region : Region.Id) (cell : Cell)
  | nonPhysical (table : Keyword) (region : Region.Id) (cell : Cell) (value : α)
  | invalidTable (cause : TableError)
  | invalidNumber (cause : NumericError α)
  deriving DecidableEq

namespace PropertyError

variable {α : Type}

def message (text : α → String) : PropertyError α → String
  | .tableMismatch left leftCount right rightCount =>
    s!"Table sizes mismatch. {left.name}: {leftCount}, {right.name}: {rightCount}"
  | .insufficientData table region rows =>
    s!"Saturated {table.name} table of region {region} must have at least 2 rows (found {rows})"
  | .extrapolationImpossible family region node =>
    s!"{family.keyword.name} tables of region {region} are invalid: pressure node {node} has a single " ++
    "undersaturated entry and no later node exhibits undersaturated gas"
  | .missingBranch table region node =>
    s!"{table.name} table of region {region}: pressure node {node} has no undersaturated data"
  | .nonMonotonic table region cell =>
    s!"{table.name} table of region {region}: {cell.step table} is not strictly increasing"
  | .nonPhysical table region cell value =>
    s!"{table.name} table of region {region}: non-physical value {text value} for {cell.place table}"
  | .invalidTable cause => s!"Table error: {cause.message}"
  | .invalidNumber cause => s!"Numeric error: {cause.message text}"

def isInputError : PropertyError α → Bool
  | .invalidNumber (.invariant _) => false
  | _ => true

end PropertyError

variable {α : Type} [Scalar α]

def minSaturatedRows : Nat := 2

structure TableOrigin where
  table : Keyword
  region : Region.Id

namespace TableOrigin

def tooShort (o : TableOrigin) (rows : Nat) : List (PropertyError α) :=
  faultUnless (minSaturatedRows ≤ rows) (.insufficientData o.table o.region rows)

def finite (o : TableOrigin) (cell : Cell) (x : α) : List (PropertyError α) :=
  faultUnless (Scalar.isFinite x) (.nonPhysical o.table o.region cell x)

def positive (o : TableOrigin) (cell : Cell) (x : α) : List (PropertyError α) :=
  faultUnless (Scalar.isPositive x) (.nonPhysical o.table o.region cell x)

def increasing (o : TableOrigin) (cell : Nat → Cell) (xs : List α) : List (PropertyError α) :=
  ((Axis.firstNonIncreasing xs).map fun row ↦ .nonMonotonic o.table o.region (cell row)).toList

def present {β : Type} (o : TableOrigin) (node : Nat) (branch : List β) : List (PropertyError α) :=
  faultUnless (!branch.isEmpty) (.missingBranch o.table o.region node)

end TableOrigin

namespace GasTable

def rowFaults (family : Family) (o : TableOrigin) (row : Nat) (r : SaturatedRow α) :
    List (PropertyError α) :=
  o.finite (.saturated .pressure row) r.pressure ++
  o.positive (.saturated .volumeFactor row) r.volumeFactor ++
  o.positive (.saturated .viscosity row) r.viscosity ++
  o.finite (.saturated family.ratioColumn row) r.ratio

def sampleFaults (family : Family) (o : TableOrigin) (node row : Nat) (s : GasSample α) :
    List (PropertyError α) :=
  o.finite (.undersaturated family.ratioColumn row node) s.ratio ++
  o.positive (.undersaturated .volumeFactor row node) s.volumeFactor ++
  o.positive (.undersaturated .viscosity row node) s.viscosity

def branchFaults (family : Family) (o : TableOrigin) (node : Nat) (branch : List (GasSample α)) :
    List (PropertyError α) :=
  o.present node branch ++
  branch.zipIdx.flatMap (fun (s, row) ↦ sampleFaults family o node row s) ++
  o.increasing (.undersaturated family.ratioColumn · node) (branch.map GasSample.ratio)

/-- What keeps a gas table from being accepted, the first fault first: its length, the saturated
rows, the pressures, then node by node the undersaturated samples. -/
def faults (family : Family) (region : Region.Id) (t : GasTable α) : List (PropertyError α) :=
  let o : TableOrigin := ⟨family.keyword, region⟩
  o.tooShort t.saturated.length ++
  t.saturated.zipIdx.flatMap (fun (r, row) ↦ rowFaults family o row r) ++
  o.increasing (.saturated .pressure) t.pressures ++
  (List.range t.saturated.length).flatMap fun node ↦ branchFaults family o node (t.branch node)

def check (family : Family) (region : Region.Id) (t : GasTable α) : Except (PropertyError α) Unit :=
  accept (t.faults family region) ()

end GasTable

namespace SaltTable

def branchFaults (o : TableOrigin) (node : Nat) (branch : List (SaltSample α)) :
    List (PropertyError α) :=
  o.present node branch ++
  branch.zipIdx.flatMap (fun (s, row) ↦
    o.finite (.undersaturated .saltConcentration row node) s.concentration ++
    o.finite (.undersaturated .saltRatio row node) s.ratio) ++
  o.increasing (.undersaturated .saltConcentration · node) (branch.map SaltSample.concentration)

/-- What keeps a salt table from being accepted. A node may have a single sample, and the saturated
ratios are not looked at. -/
def faults (region : Region.Id) (t : SaltTable α) : List (PropertyError α) :=
  let o : TableOrigin := ⟨.rwgsalt, region⟩
  o.tooShort t.saturated.length ++
  t.saturated.zipIdx.flatMap (fun (r, row) ↦ o.finite (.saturated .pressure row) r.pressure) ++
  o.increasing (.saturated .pressure) t.pressures ++
  (List.range t.saturated.length).flatMap fun node ↦ branchFaults o node (t.branch node)

def check (region : Region.Id) (t : SaltTable α) : Except (PropertyError α) Unit :=
  accept (t.faults region) ()

end SaltTable

namespace Deck

def countFaults (d : Deck α) : List (PropertyError α) :=
  let against (table : Keyword) (count : Nat) : List (PropertyError α) :=
    faultUnless (count == d.regionCount) (.tableMismatch table count .density d.regionCount)
  against Family.wet.keyword d.wet.length ++
  against Family.humid.keyword d.humid.length ++
  if d.hasSalt then against .rwgsalt d.salt.length else []

def checkCounts (d : Deck α) : Except (PropertyError α) Unit :=
  accept d.countFaults ()

def Entry.faults (e : Entry α) : List (PropertyError α) :=
  Family.all.flatMap (fun f ↦ (e.gasTable f).faults f e.id) ++
  (e.salt.map fun t ↦ t.faults e.id).getD []

def faults (d : Deck α) : List (PropertyError α) :=
  d.countFaults ++ d.entries.flatMap Entry.faults

def check (d : Deck α) : Except (PropertyError α) Unit :=
  accept d.faults ()

end Deck

end ReservoirGas

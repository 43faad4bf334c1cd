import ReservoirGas.Completion

namespace ReservoirGas

structure SaturatedCurves (α : Type) where
  volumeFactor : Curve α
  inverseVolumeFactor : Curve α
  inverseViscosityFactor : Curve α
  ratio : Curve α
  deriving BEq, DecidableEq, Repr

namespace SaturatedCurves

variable {α : Type} [Scalar α]

def ofTable (t : GasTable α) : Except TableError (SaturatedCurves α) := do
  let curve (value : SaturatedRow α → α) := Curve.ofColumns t.pressures (t.saturated.map value)
  return {
    volumeFactor := ← curve SaturatedRow.volumeFactor
    inverseVolumeFactor := ← curve fun r ↦ Scalar.one / r.volumeFactor
    inverseViscosityFactor := ← curve fun r ↦ Scalar.one / (r.viscosity * r.volumeFactor)
    ratio := ← curve SaturatedRow.ratio }

def pressures (c : SaturatedCurves α) : List α :=
  c.volumeFactor.xs

end SaturatedCurves

variable {α : Type}

structure GasProperties (α : Type) where
  family : Family
  saturated : SaturatedCurves α
  inverseVolumeFactor : Surface α
  viscosity : Surface α
  extensions : List Extension
  deriving BEq, DecidableEq

namespace GasProperties

variable [Scalar α]

def ofTable (family : Family) (region : Region.Id) (t : GasTable α) :
    Except (PropertyError α) (GasProperties α) := do
  accept (TableOrigin.tooShort ⟨family.keyword, region⟩ t.saturated.length) ()
  let saturated ← (SaturatedCurves.ofTable t).mapError .invalidTable
  let completed ← (BranchSet.ofTable t).complete family region
  let frozen ← completed.branches.freeze.mapError .invalidTable
  return ⟨family, saturated, frozen.inverseVolumeFactor, frozen.viscosity, completed.extensions⟩

def size (g : GasProperties α) : Nat :=
  g.inverseVolumeFactor.size

def volumeFactorAt (g : GasProperties α) (pressure ratio : α) : α :=
  Scalar.one / g.inverseVolumeFactor.eval pressure ratio

def viscosityAt (g : GasProperties α) (pressure ratio : α) : α :=
  g.viscosity.eval pressure ratio

def isExtended (g : GasProperties α) (node : Nat) : Bool :=
  g.extensions.any fun e ↦ e.node == node

end GasProperties

namespace SaltTable

variable [Scalar α]

def draft (t : SaltTable α) : Except TableError (Surface.Draft α) :=
  t.pressures.zipIdx.foldlM
    (fun d (p, i) ↦ d.appendBranch p ((t.branch i).map fun s ↦ (s.concentration, s.ratio))) {}

def surface (region : Region.Id) (t : SaltTable α) : Except (PropertyError α) (Surface α) := do
  accept (TableOrigin.tooShort ⟨.rwgsalt, region⟩ t.saturated.length) ()
  let draft ← t.draft.mapError .invalidTable
  draft.build.mapError .invalidTable

end SaltTable

structure RegionProperties (α : Type) where
  id : Region.Id
  densities : Densities α
  wet : GasProperties α
  humid : GasProperties α
  salt : Option (Surface α)
  deriving BEq, DecidableEq

namespace RegionProperties

def gas (r : RegionProperties α) : Family → GasProperties α
  | .wet => r.wet
  | .humid => r.humid

/-- The tables of a region: wet gas, then humid gas, then salt if there is any. -/
def ofEntry [Scalar α] (e : Deck.Entry α) : Except (PropertyError α) (RegionProperties α) := do
  let wet ← GasProperties.ofTable .wet e.id e.wet
  let humid ← GasProperties.ofTable .humid e.id e.humid
  let salt ← e.salt.mapM fun t ↦ t.surface e.id
  return ⟨e.id, e.densities, wet, humid, salt⟩

end RegionProperties

end ReservoirGas

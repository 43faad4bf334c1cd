import ReservoirGas.Main
import ReservoirGas.Proofs.Axis
import ReservoirGas.Proofs.Outcome
import ReservoirGas.Proofs.Binary64
import ReservoirGas.Proofs.Completion
import ReservoirGas.Proofs.Exact
import ReservoirGas.Proofs.Tables
import ReservoirGas.Proofs.Freezing
import ReservoirGas.Proofs.Jobs
import ReservoirGas.Proofs.Properties
import ReservoirGas.Proofs.Deck
import ReservoirGas.Proofs.Acceptance
import ReservoirGas.Proofs.Construction
import ReservoirGas.Proofs.Refusal
import ReservoirGas.Proofs.Store
import ReservoirGas.Proofs.Carried
import ReservoirGas.Proofs.Edited
import ReservoirGas.Proofs.Codec
import ReservoirGas.Proofs.Tolerance
import ReservoirGas.Proofs.Json.Documents
import ReservoirGas.Proofs.Json.Projects
import ReservoirGas.Proofs.Binary64.Packing
import ReservoirGas.Proofs.Binary64.Arithmetic
import ReservoirGas.Proofs.Binary64.Values
import ReservoirGas.Proofs.Binary64.Bounds
import ReservoirGas.Proofs.Change
import ReservoirGas.Proofs.Positive
import ReservoirGas.Proofs.Arena
import ReservoirGas.Proofs.Writing
import ReservoirGas.Proofs.Independence
import ReservoirGas.Proofs.Supplied
import ReservoirGas.Proofs.Salt
import ReservoirGas.Proofs.Scaling
import ReservoirGas.Proofs.Finiteness
import ReservoirGas.Proofs.Inspection
import ReservoirGas.Proofs.Idempotence
import ReservoirGas.Proofs.FirstFault
import ReservoirGas.Proofs.Lockstep
import ReservoirGas.Proofs.Frozen
import ReservoirGas.Proofs.Binary64.Inverse
import ReservoirGas.Proofs.Saturated
import ReservoirGas.Proofs.Polyline
import ReservoirGas.Proofs.Curve
import ReservoirGas.Proofs.Blending
import ReservoirGas.Proofs.Enclosure
import ReservoirGas.Proofs.Drops
import ReservoirGas.Proofs.Search
import ReservoirGas.Proofs.Diagnosis
import ReservoirGas.Proofs.Reading
import ReservoirGas.Proofs.Columns
import ReservoirGas.Proofs.Region

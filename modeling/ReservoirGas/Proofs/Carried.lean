import ReservoirGas.Document.Decode
import Mathlib.Data.List.Forall2

namespace ReservoirGas.Document

def items? : Document → Option (List Document)
  | .list ds => some ds
  | _ => none

def entries? : Document → Option (List (Document × Document))
  | .map es => some es
  | _ => none

theorem items?_eq_some_iff {d : Document} {ds : List Document} : d.items? = some ds ↔ d = .list ds := by
  cases d <;> simp [items?]

theorem entries?_eq_some_iff {d : Document} {es : List (Document × Document)} :
    d.entries? = some es ↔ d = .map es := by
  cases d <;> simp [entries?]

section

variable (S : Document → Document → Prop)

mutual

/-- The second document has the containers of the first, and `S` holds between their scalars. -/
def Carried : Document → Document → Prop
  | .list ds, d' => ∃ ds' ∈ d'.items?, CarriedItems ds ds'
  | .map es, d' => ∃ es' ∈ d'.entries?, CarriedEntries es es'
  | d, d' => S d d'

def CarriedItems : List Document → List Document → Prop
  | [], [] => True
  | d :: ds, d' :: ds' => Carried d d' ∧ CarriedItems ds ds'
  | _, _ => False

def CarriedEntries : List (Document × Document) → List (Document × Document) → Prop
  | [], [] => True
  | (k, v) :: es, (k', v') :: es' => Carried k k' ∧ Carried v v' ∧ CarriedEntries es es'
  | _, _ => False

end

variable [∀ d d', Decidable (S d d')]

mutual

instance decidableCarried : (d d' : Document) → Decidable (Carried S d d')
  | .list ds, d' =>
    have (ds' : List Document) : Decidable (CarriedItems S ds ds') := decidableCarriedItems ds ds'
    inferInstanceAs (Decidable (∃ ds' ∈ d'.items?, CarriedItems S ds ds'))
  | .map es, d' =>
    have (es' : List (Document × Document)) : Decidable (CarriedEntries S es es') :=
      decidableCarriedEntries es es'
    inferInstanceAs (Decidable (∃ es' ∈ d'.entries?, CarriedEntries S es es'))
  | .null, d' | .bool _, d' | .int _, d' | .float _, d' | .text _, d' | .plain _, d' | .unreadable, d' =>
    inferInstanceAs (Decidable (S _ d'))

instance decidableCarriedItems : (ds ds' : List Document) → Decidable (CarriedItems S ds ds')
  | [], [] => .isTrue trivial
  | d :: ds, d' :: ds' =>
    have := decidableCarried d d'
    have := decidableCarriedItems ds ds'
    inferInstanceAs (Decidable (Carried S d d' ∧ CarriedItems S ds ds'))
  | [], _ :: _ => .isFalse id
  | _ :: _, [] => .isFalse id

instance decidableCarriedEntries : (es es' : List (Document × Document)) → Decidable (CarriedEntries S es es')
  | [], [] => .isTrue trivial
  | (k, v) :: es, (k', v') :: es' =>
    have := decidableCarried k k'
    have := decidableCarried v v'
    have := decidableCarriedEntries es es'
    inferInstanceAs (Decidable (Carried S k k' ∧ Carried S v v' ∧ CarriedEntries S es es'))
  | [], _ :: _ => .isFalse id
  | _ :: _, [] => .isFalse id

end

end

variable {S : Document → Document → Prop}

theorem carriedItems_iff {ds ds' : List Document} :
    CarriedItems S ds ds' ↔ List.Forall₂ (Carried S) ds ds' := by
  induction ds generalizing ds' with
  | nil => cases ds' <;> simp [CarriedItems]
  | cons d ds ih => cases ds' <;> simp [CarriedItems, ih]

theorem carried_list_iff {ds : List Document} {d : Document} :
    Carried S (.list ds) d ↔ ∃ ds', d = .list ds' ∧ List.Forall₂ (Carried S) ds ds' := by
  simp only [Carried, Option.mem_def, items?_eq_some_iff, carriedItems_iff]

theorem carried_map_iff {es : List (Document × Document)} {d : Document} :
    Carried S (.map es) d ↔ ∃ es', d = .map es' ∧ CarriedEntries S es es' := by
  simp only [Carried, Option.mem_def, entries?_eq_some_iff]

/-- What is read where a scalar was written, with its kind known beforehand or not. A number is read as `f`
says where it has to be there, and as `g` says where it may be missing. -/
structure Scalars (S : Document → Document → Prop) (f : Float → Option Float)
    (g : Float → Option (Option Float)) : Prop where
  text : ∀ {s d}, S (.text s) d → d.text? = some s ∧ d.settle = .text s
  bool : ∀ {b d}, S (.bool b) d → d.bool? = some b
  nat : ∀ {n : UInt32} {d}, S (.int n.toNat) d → d.uint32? = some n
  null : ∀ {d}, S .null d → d.settle = .null
  float : ∀ {x d}, S (.float x) d → d.float? = f x
  settled : ∀ {x d}, S (.float x) d → d.settle.float? = f x ∧ d.settle.optionalFloat? = g x ∧
    d.settle.height = 0 ∧ (d.settle.isReadable = false → f x = none ∧ g x = none)

end ReservoirGas.Document

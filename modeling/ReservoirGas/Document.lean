namespace ReservoirGas

inductive Document
  | null
  | bool (b : Bool)
  | int (n : Int)
  | float (x : Float)
  | text (s : String)
  /-- A scalar without quotes, whose kind is left to whoever reads it. -/
  | plain (s : String)
  | list (items : List Document)
  | map (entries : List (Document × Document))
  /-- A value that can be passed over but not read. -/
  | unreadable

namespace Document

instance : Inhabited Document := ⟨null⟩

mutual

def height : Document → Nat
  | list items => heightOfItems items + 1
  | map entries => heightOfEntries entries + 1
  | _ => 0

def heightOfItems : List Document → Nat
  | [] => 0
  | d :: r => max d.height (heightOfItems r)

def heightOfEntries : List (Document × Document) → Nat
  | [] => 0
  | (k, v) :: r => max (max k.height v.height) (heightOfEntries r)

end

mutual

def isReadable : Document → Bool
  | unreadable => false
  | list items => areReadable items
  | map entries => areReadableEntries entries
  | _ => true

def areReadable : List Document → Bool
  | [] => true
  | d :: r => d.isReadable && areReadable r

def areReadableEntries : List (Document × Document) → Bool
  | [] => true
  | (k, v) :: r => k.isReadable && v.isReadable && areReadableEntries r

end

def record (entries : List (String × Document)) : Document :=
  map (entries.map fun (k, v) ↦ (text k, v))

end Document

end ReservoirGas

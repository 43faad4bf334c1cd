import ReservoirGas.Units
import Mathlib.Algebra.Group.Nat.Defs
import Mathlib.Order.Nat

namespace ReservoirGas.Region

def lastWord : UInt32 := UInt32.ofNat (UInt32.size - 1)

def narrow? (n : UInt64) : Option UInt32 :=
  if n ≤ lastWord.toUInt64 then some n.toUInt32 else none

def saturatingAdd (a b : UInt32) : UInt32 :=
  if a + b < a then lastWord else a + b

theorem toNat_lastWord : lastWord.toNat = 2 ^ 32 - 1 := rfl

theorem toNat_saturatingAdd (a b : UInt32) : (saturatingAdd a b).toNat = min (a.toNat + b.toNat) (2 ^ 32 - 1) := by
  have ha := a.toNat_lt
  have hb := b.toNat_lt
  have hsum := UInt32.toNat_add a b
  by_cases hwraps : a + b < a
  · rw [saturatingAdd, if_pos hwraps, toNat_lastWord]
    rw [UInt32.lt_iff_toNat_lt] at hwraps
    omega
  · rw [saturatingAdd, if_neg hwraps]
    rw [UInt32.lt_iff_toNat_lt] at hwraps
    omega

theorem toNat_narrow (n : UInt64) :
    ((narrow? n).getD (lastWord - 1)).toNat = if n.toNat < 2 ^ 32 then n.toNat else 2 ^ 32 - 2 := by
  have hfits : n ≤ lastWord.toUInt64 ↔ n.toNat < 2 ^ 32 := by
    rw [UInt64.le_iff_toNat_le, UInt32.toNat_toUInt64, toNat_lastWord]
    omega
  by_cases hn : n.toNat < 2 ^ 32
  · rw [narrow?, if_pos (hfits.mpr hn), if_pos hn, Option.getD_some, UInt64.toNat_toUInt32, Nat.mod_eq_of_lt hn]
  · rw [narrow?, if_neg (mt hfits.mp hn), if_neg hn]
    rfl

namespace Id

variable {m n : Nat}

theorem maxIndex_eq : maxIndex = 2 ^ 32 - 2 := rfl

theorem toNat_code_ofNat (n : Nat) : (ofNat n).code.toNat = min n maxIndex + 1 := by
  have hfits : min n maxIndex + 1 < UInt32.size := by
    rw [maxIndex_eq, UInt32.size]
    omega
  rw [ofNat, UInt32.toNat_ofNat_of_lt' hfits]

theorem toNat_index_add_one (id : Id) : id.index.toNat + 1 = id.code.toNat := by
  have hcode : id.code.toNat ≠ 0 := fun h ↦ id.code_ne_zero (UInt32.toNat_inj.mp h)
  have hlt := id.code.toNat_lt
  rw [index, UInt32.toNat_sub, UInt32.toNat_one]
  omega

theorem toNat_ofNat (n : Nat) : (ofNat n).toNat = min n maxIndex := by
  have hindex := toNat_index_add_one (ofNat n)
  rw [toNat_code_ofNat] at hindex
  exact Nat.succ.inj hindex

theorem ext_toNat {a b : Id} (h : a.toNat = b.toNat) : a = b := by
  have hcode : a.code = b.code := by
    rw [← UInt32.toNat_inj, ← toNat_index_add_one, ← toNat_index_add_one]
    exact congrArg (· + 1) h
  cases a
  cases b
  cases hcode
  rfl

theorem toNat_le_maxIndex (id : Id) : id.toNat ≤ maxIndex := by
  have hindex := toNat_index_add_one id
  have hlt := id.code.toNat_lt
  rw [toNat, maxIndex_eq]
  omega

theorem ofIndex_index (id : Id) : ofIndex id.index = id :=
  ext_toNat ((toNat_ofNat id.toNat).trans (min_eq_left id.toNat_le_maxIndex))

theorem code_ofIndex (w : UInt32) : (ofIndex w).code = saturatingAdd 1 w := by
  rw [← UInt32.toNat_inj, ofIndex, toNat_code_ofNat, toNat_saturatingAdd, UInt32.toNat_one, maxIndex_eq]
  omega

theorem ofNat_toNat_eq_ofIndex (n : UInt64) : ofNat n.toNat = ofIndex ((narrow? n).getD (lastWord - 1)) := by
  -- what is taken for a position that does not fit has the last identifier, as that position has
  refine ext_toNat ?_
  rw [ofIndex, toNat_ofNat, toNat_ofNat, toNat_narrow, maxIndex_eq]
  split <;> omega

theorem le_ofNat_iff : (ofNat m).le (ofNat n) = true ↔ m ≤ n ∨ maxIndex ≤ n := by
  rw [Id.le, decide_eq_true_iff, UInt32.le_iff_toNat_le, toNat_code_ofNat, toNat_code_ofNat]
  omega

theorem ofNat_eq_ofNat_iff : ofNat m = ofNat n ↔ m = n ∨ maxIndex ≤ m ∧ maxIndex ≤ n := by
  constructor
  · intro h
    have hnat := congrArg toNat h
    rw [toNat_ofNat, toNat_ofNat] at hnat
    omega
  · intro h
    refine ext_toNat ?_
    rw [toNat_ofNat, toNat_ofNat]
    omega

/-- An identifier is the position plus one in 32 bits, by steps that do not wrap. It stands for its position and for
no other up to the largest position that has one; the positions from there on share the last identifier. -/
theorem stands_for_position :
    (∀ w, (ofIndex w).code = saturatingAdd 1 w) ∧
    (∀ n : UInt64, ofNat n.toNat = ofIndex ((narrow? n).getD (lastWord - 1))) ∧
    (∀ n, (ofNat n).code.toNat = min n (2 ^ 32 - 2) + 1 ∧ (ofNat n).toNat = min n (2 ^ 32 - 2)) ∧
    (∀ m n, (ofNat m).le (ofNat n) = true ↔ m ≤ n ∨ 2 ^ 32 - 2 ≤ n) ∧
    (∀ n, (ofNat n).toNat = n ↔ n < 2 ^ 32 - 1) ∧
    (∀ m n, ofNat m = ofNat n ↔ m = n ∨ 2 ^ 32 - 2 ≤ m ∧ 2 ^ 32 - 2 ≤ n) ∧
    ∀ id, ofIndex id.index = id ∧ id.index.toNat + 1 = id.code.toNat := by
  refine ⟨code_ofIndex, ofNat_toNat_eq_ofIndex, fun n ↦ ⟨toNat_code_ofNat n, toNat_ofNat n⟩,
    fun m n ↦ le_ofNat_iff, fun n ↦ ?_, fun m n ↦ ofNat_eq_ofNat_iff,
    fun id ↦ ⟨ofIndex_index id, toNat_index_add_one id⟩⟩
  rw [toNat_ofNat, maxIndex_eq]
  omega

example : [2 ^ 32 - 3, 2 ^ 32 - 2, 2 ^ 32 - 1, 2 ^ 32].map (fun n ↦ (ofNat n).code) =
    [lastWord - 1, lastWord, lastWord, lastWord] := by decide +kernel

end Id

end ReservoirGas.Region

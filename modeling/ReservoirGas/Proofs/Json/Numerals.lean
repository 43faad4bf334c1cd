import ReservoirGas.Document.Json

namespace ReservoirGas

namespace Binary

open Float.Model UnpackedFloat

theorem biased_ne_of_isFinite {x : Float} (h : x.isFinite = true) :
    x.toBits.toNat / fractionSize % exponentSize ≠ exponentSize - 1 := by
  intro hbiased
  have hexponent : @unpackExponent .binary64 x.toModel.toBits.toBitVec = -1#_ := by
    apply BitVec.eq_of_toNat_eq
    have hfield : x.toModel.toBits.toNat / 2 ^ 52 % 2 ^ 11 = 2 ^ 11 - 1 := hbiased
    simpa [unpackExponent, Nat.shiftRight_eq_div_pow] using hfield
  have hfinite : (UnpackedFloat.unpack .binary64 x.toModel.toBits.toBitVec).isFinite = true := h
  delta UnpackedFloat.unpack at hfinite
  rw [if_pos hexponent] at hfinite
  split at hfinite <;> cases hfinite

theorem exists_of_isFinite {x : Float} (h : x.isFinite = true) : ∃ m q, ofFloat x = .finite m q := by
  rw [ofFloat]
  simp only [if_neg (biased_ne_of_isFinite h)]
  split
  · exact ⟨_, _, rfl⟩
  · exact ⟨_, _, rfl⟩

end Binary

namespace Decimal

theorem isDigit_of_mem_digitChars {n : Nat} {c : Char} (h : c ∈ digitChars n) : c.isDigit = true :=
  Nat.isDigit_of_mem_toDigits (by decide) (by decide) h

theorem digitChars_ne_nil (n : Nat) : digitChars n ≠ [] :=
  Nat.toDigits_ne_nil

theorem head?_digitChars_ne {n : Nat} (hn : 0 < n) : (digitChars n).head? ≠ some '0' := by
  rw [digitChars]
  induction n using Nat.base_induction 10 (by decide) with
  | single m hm =>
    rw [Nat.toDigits_of_lt_base hm, List.head?_cons, ne_eq, Option.some.injEq]
    have hdigits : ∀ m < 10, 0 < m → m.digitChar ≠ '0' := by decide
    exact hdigits m hm hn
  | digit m k hk hm ih =>
    rw [← Nat.toDigits_append_toDigits (by decide) hm hk, List.head?_append]
    obtain ⟨c, r, hr⟩ := List.exists_cons_of_ne_nil (Nat.toDigits_ne_nil (n := m) (b := 10))
    have hne := ih hm
    rw [hr] at hne ⊢
    simpa using hne

end Decimal

namespace Json

structure IsWhole (cs : List Char) : Prop where
  ne_nil : cs ≠ []
  digit : ∀ c ∈ cs, c.isDigit = true
  head : cs.length = 1 ∨ cs.head? ≠ some '0'

def IsDigits (cs : List Char) : Prop :=
  cs ≠ [] ∧ ∀ c ∈ cs, c.isDigit = true

def Ends (r : List Char) : Prop :=
  ∀ c ∈ r.head?, c.isDigit = false ∧ c ≠ '.' ∧ c ≠ 'e' ∧ c ≠ 'E'

theorem digitRun_append {ds r : List Char} (hds : ∀ c ∈ ds, c.isDigit = true)
    (hr : ∀ c ∈ r.head?, c.isDigit = false) : digitRun (ds ++ r) = (ds, r) := by
  have htake : r.takeWhile Char.isDigit = [] := by
    cases r with
    | nil => rfl
    | cons c r => simp [hr c rfl]
  have hdrop : r.dropWhile Char.isDigit = r := by
    cases r with
    | nil => rfl
    | cons c r => simp [hr c rfl]
  rw [digitRun, List.takeWhile_append_of_pos hds, List.dropWhile_append_of_pos hds, htake, hdrop,
    List.append_nil]

theorem wholePart_append {ds r : List Char} (hds : IsWhole ds) (hr : ∀ c ∈ r.head?, c.isDigit = false) :
    wholePart (ds ++ r) = some (ds, r) := by
  rw [wholePart, digitRun_append hds.digit hr]
  split
  · rename_i h
    cases h
    exact absurd rfl hds.ne_nil
  · rename_i h
    cases h
    rcases hds.head with hlength | hhead
    · cases hlength
    · exact absurd rfl hhead
  · rfl

def fractionText : Option (List Char) → List Char
  | none => []
  | some ds => '.' :: ds

theorem fractionPart_append {fraction : Option (List Char)} {r : List Char}
    (hfraction : ∀ ds ∈ fraction, IsDigits ds) (hr : ∀ c ∈ r.head?, c.isDigit = false ∧ c ≠ '.') :
    fractionPart (fractionText fraction ++ r) = some (fraction, r) := by
  cases fraction with
  | none =>
    cases r with
    | nil => rfl
    | cons c r =>
      rw [fractionText, List.nil_append, fractionPart]
      intro cs hcs
      cases hcs
      exact (hr '.' rfl).2 rfl
  | some ds =>
    obtain ⟨hne, hdigit⟩ := hfraction ds rfl
    rw [fractionText, List.cons_append, fractionPart, digitRun_append hdigit fun c hc ↦ (hr c hc).1]
    split
    · rename_i h
      cases h
      exact absurd rfl hne
    · rename_i h
      cases h
      rfl

structure Exponent where
  negative : Bool
  digits : List Char

def Exponent.value (e : Exponent) : Int :=
  if e.negative then -(Decimal.ofDigits e.digits : Int) else Decimal.ofDigits e.digits

def exponentText : Option Exponent → List Char
  | none => []
  | some e => 'e' :: (if e.negative then '-' else '+') :: e.digits

theorem exponentPart_append {exponent : Option Exponent} {r : List Char}
    (hexponent : ∀ e ∈ exponent, IsDigits e.digits) (hr : Ends r) :
    exponentPart (exponentText exponent ++ r) = some (exponent.map Exponent.value, r) := by
  cases exponent with
  | none =>
    cases r with
    | nil => rfl
    | cons c r =>
      obtain ⟨-, -, he, hE⟩ := hr c rfl
      simp [exponentText, exponentPart, he, hE]
  | some e =>
    obtain ⟨hne, hdigit⟩ := hexponent e rfl
    have hrun : digitRun (e.digits ++ r) = (e.digits, r) :=
      digitRun_append hdigit fun c hc ↦ (hr c hc).1
    obtain ⟨d, ds, hds⟩ := List.exists_cons_of_ne_nil hne
    rw [hds, List.cons_append] at hrun
    cases hnegative : e.negative <;>
      simp [exponentText, exponentPart, hnegative, Exponent.value, hds, hrun]

/-- The text of one number, taken apart. -/
structure Written where
  negative : Bool
  whole : List Char
  fraction : Option (List Char)
  exponent : Option Exponent

namespace Written

def text (w : Written) : List Char :=
  (if w.negative then ['-'] else []) ++ (w.whole ++ (fractionText w.fraction ++ exponentText w.exponent))

def numeral (w : Written) : Numeral :=
  ⟨w.negative, w.whole, w.fraction, w.exponent.map Exponent.value⟩

structure Valid (w : Written) : Prop where
  whole : IsWhole w.whole
  fraction : ∀ ds ∈ w.fraction, IsDigits ds
  exponent : ∀ e ∈ w.exponent, IsDigits e.digits

end Written

theorem head?_exponentText (exponent : Option Exponent) {r : List Char} {c : Char}
    (hr : Ends r) (hc : c ∈ (exponentText exponent ++ r).head?) : c.isDigit = false ∧ c ≠ '.' := by
  cases exponent with
  | none => exact ⟨(hr c hc).1, (hr c hc).2.1⟩
  | some e =>
    cases hc
    decide

theorem head?_fractionText (fraction : Option (List Char)) {r : List Char} {c : Char}
    (hr : ∀ c ∈ r.head?, c.isDigit = false) (hc : c ∈ (fractionText fraction ++ r).head?) :
    c.isDigit = false := by
  cases fraction with
  | none => exact hr c hc
  | some ds =>
    cases hc
    decide

theorem numeral?_text {w : Written} {r : List Char} (hw : w.Valid) (hr : Ends r) :
    numeral? (w.text ++ r) = some (w.numeral, r) := by
  have hexponent := exponentPart_append hw.exponent hr
  have hfraction := fractionPart_append hw.fraction fun c ↦ head?_exponentText w.exponent hr
  have hwhole := wholePart_append hw.whole fun c ↦
    head?_fractionText w.fraction fun c hc ↦ (head?_exponentText w.exponent hr hc).1
  obtain ⟨c, cs, hcs⟩ := List.exists_cons_of_ne_nil hw.whole.ne_nil
  have hsign : c ≠ '-' := by
    rintro rfl
    have hdigit := hw.whole.digit '-' (by simp [hcs])
    exact absurd hdigit (by decide)
  rw [hcs, List.cons_append] at hwhole
  cases hnegative : w.negative <;>
    simp [numeral?, Written.text, Written.numeral, hnegative, hcs, hsign, hwhole, hfraction, hexponent]

theorem Written.value_numeral {w : Written} (h : w.fraction.isSome ∨ w.exponent.isSome) :
    (∃ x, w.numeral.value = .float x) ∨ w.numeral.value = .unreadable := by
  have hfloat (negative : Bool) (n : Nat) (e : Int) :
      (∃ x, Numeral.float negative n e = .float x) ∨ Numeral.float negative n e = .unreadable := by
    rw [Numeral.float]
    split
    · exact .inl ⟨_, rfl⟩
    · exact .inr rfl
  rw [Numeral.value, numeral]
  cases hfraction : w.fraction <;> cases hexponent : w.exponent
  · simp [hfraction, hexponent] at h
  all_goals exact hfloat _ _ _

end Json

namespace Decimal

open Json

def padded (n places : Nat) : List Char :=
  List.replicate (places + 1 - (digitChars n).length) '0' ++ digitChars n

theorem isDigit_of_mem_padded {n places : Nat} {c : Char} (h : c ∈ padded n places) : c.isDigit = true := by
  rw [padded, List.mem_append, List.mem_replicate] at h
  rcases h with ⟨-, rfl⟩ | h
  · decide
  · exact isDigit_of_mem_digitChars h

theorem length_padded (n places : Nat) :
    (padded n places).length = max (places + 1) (digitChars n).length := by
  rw [padded, List.length_append, List.length_replicate]
  omega

theorem isWhole_take_padded (n places : Nat) :
    IsWhole ((padded n places).take ((padded n places).length - places)) := by
  have hlength := length_padded n places
  refine ⟨?_, fun c hc ↦ isDigit_of_mem_padded (List.mem_of_mem_take hc), ?_⟩
  · rw [← List.length_pos_iff, List.length_take]
    omega
  · rcases Nat.lt_or_ge (places + 1) (digitChars n).length with hlt | hle
    · -- no zeros were put in front, and the number itself begins with none
      right
      have hplain : padded n places = digitChars n := by
        rw [padded, Nat.sub_eq_zero_of_le (Nat.le_of_lt hlt)]
        rfl
      have hpos : 0 < n := by
        apply Nat.pos_of_ne_zero
        rintro rfl
        have hone : (digitChars 0).length = 1 := rfl
        omega
      rw [hplain, List.head?_take, if_neg (by omega)]
      exact head?_digitChars_ne hpos
    · left
      rw [List.length_take]
      omega

theorem exists_pointed (n places : Nat) :
    ∃ whole fraction, (pointed n places).toList = whole ++ fractionText fraction ∧ IsWhole whole ∧
      (∀ ds ∈ fraction, IsDigits ds) ∧ (fraction = none ↔ places = 0) := by
  obtain ⟨whole, hwhole⟩ : ∃ ds, ds = (padded n places).take ((padded n places).length - places) := ⟨_, rfl⟩
  obtain ⟨part, hpart⟩ : ∃ ds, ds = (padded n places).drop ((padded n places).length - places) := ⟨_, rfl⟩
  have htext : (pointed n places).toList = if part.isEmpty then whole else whole ++ '.' :: part := by
    rw [pointed, String.toList_ofList, hwhole, hpart]
    rfl
  have hlength : part.length = places := by
    have hpadded := length_padded n places
    rw [hpart, List.length_drop]
    omega
  refine ⟨whole, if part.isEmpty then none else some part, ?_, hwhole ▸ isWhole_take_padded n places, ?_, ?_⟩
  · rw [htext]
    cases part <;> simp [fractionText]
  · intro ds hds
    cases part with
    | nil => cases hds
    | cons c r =>
      cases hds
      exact ⟨List.cons_ne_nil c r, fun c' hc' ↦ isDigit_of_mem_padded (List.mem_of_mem_drop (hpart ▸ hc'))⟩
  · rw [← hlength]
    cases part <;> simp

theorem isDigits_digitChars (n : Nat) : IsDigits (digitChars n) :=
  ⟨digitChars_ne_nil n, fun _ ↦ isDigit_of_mem_digitChars⟩

end Decimal

namespace Json

open Decimal

/-- A finite number is written with a point or an exponent. -/
theorem exists_floatText {x : Float} (h : x.isFinite = true) :
    ∃ w : Written, (floatText x).toList = w.text ∧ w.Valid ∧ (w.fraction.isSome ∨ w.exponent.isSome) := by
  obtain ⟨m, q, hmq⟩ := Binary.exists_of_isFinite h
  have hsign : (if Binary.isNegative x then "-" else "").toList =
      if Binary.isNegative x then ['-'] else [] := by
    cases Binary.isNegative x <;> rfl
  generalize hd : shortest floatStyle.tie m q = d
  rw [floatText, if_pos h, Style.write, hmq]
  simp only [hd]
  split
  · by_cases hexponent : d.exponent < 0
    · obtain ⟨whole, fraction, htext, hwhole, hfraction, hnone⟩ := exists_pointed d.digits d.exponent.natAbs
      refine ⟨⟨Binary.isNegative x, whole, fraction, none⟩, ?_, ⟨hwhole, hfraction, fun _ h ↦ nomatch h⟩, ?_⟩
      · have hlast : ¬ 0 ≤ d.exponent := by omega
        simp [positional, hexponent, hlast, hsign, htext, Written.text, exponentText]
      · left
        rw [Option.isSome_iff_ne_none, ne_eq, hnone]
        omega
    · obtain ⟨whole, fraction, htext, hwhole, -, hnone⟩ :=
        exists_pointed (d.digits * Decimal.powerOfTen d.exponent.natAbs) 0
      rw [hnone.mpr rfl] at htext
      have hzero : ∀ ds ∈ some ['0'], IsDigits ds := by
        intro ds hds
        cases hds
        exact ⟨List.cons_ne_nil _ _, List.forall_mem_singleton.mpr rfl⟩
      refine ⟨⟨Binary.isNegative x, whole, some ['0'], none⟩, ?_, ⟨hwhole, hzero, fun _ h ↦ nomatch h⟩,
        .inl rfl⟩
      have hlast : 0 ≤ d.exponent := by omega
      have hpoint : floatStyle.pointZero = true := rfl
      simp [positional, hexponent, hlast, hpoint, hsign, htext, Written.text, fractionText, exponentText]
  · obtain ⟨whole, fraction, htext, hwhole, hfraction, -⟩ :=
      exists_pointed d.digits ((digitChars d.digits).length - 1)
    have hdigits : ∀ e ∈ some (Exponent.mk (d.magnitude < 0) (digitChars d.magnitude.natAbs)),
        IsDigits e.digits := by
      intro e he
      cases he
      exact isDigits_digitChars _
    refine ⟨⟨Binary.isNegative x, whole, fraction, some ⟨d.magnitude < 0, digitChars d.magnitude.natAbs⟩⟩,
      ?_, ⟨hwhole, hfraction, hdigits⟩, .inr rfl⟩
    have hplus : floatStyle.plus = true := rfl
    have hmagnitude : Nat.toDigits 10 d.magnitude.natAbs = digitChars d.magnitude.natAbs := rfl
    have hstring (s : String) : toString s = s := rfl
    by_cases hnegative : d.magnitude < 0 <;>
      simp [exponential, hplus, hnegative, hmagnitude, hstring, hsign, htext, Written.text, exponentText]

theorem gather_of_lt {ds : List Char} {n : Nat} (h : Nat.ofDigitChars 10 ds n < UInt64.size) :
    gather n ds = (Nat.ofDigitChars 10 ds n, ds.length) := by
  induction ds generalizing n with
  | nil => rfl
  | cons c ds ih =>
    rw [Nat.ofDigitChars_cons] at h
    have hhead : 10 * n + (c.toNat - '0'.toNat) < UInt64.size := by
      rw [Nat.ofDigitChars_eq_ofDigitChars_zero] at h
      have hone : 1 ≤ 10 ^ ds.length := Nat.one_le_pow _ _ (by decide)
      have hmul := Nat.mul_le_mul_right (10 * n + (c.toNat - '0'.toNat)) hone
      omega
    rw [gather, if_pos hhead, ih h, Nat.ofDigitChars_cons]
    rfl

theorem exists_natText {n : Nat} (h : n < UInt64.size) :
    ∃ w : Written, (toString (n : Int)).toList = w.text ∧ w.Valid ∧ w.numeral.value = .int n := by
  have hwhole : IsWhole (digitChars n) := by
    refine ⟨digitChars_ne_nil n, fun _ ↦ isDigit_of_mem_digitChars, ?_⟩
    rcases Nat.eq_zero_or_pos n with rfl | hpos
    · exact .inl rfl
    · exact .inr (head?_digitChars_ne hpos)
  refine ⟨⟨false, digitChars n, none, none⟩, ?_, ⟨hwhole, fun _ h ↦ (nomatch h), fun _ h ↦ nomatch h⟩, ?_⟩
  · have htext : (toString (n : Int)).toList = Nat.toDigits 10 n := Nat.toList_repr
    rw [htext]
    simp [Written.text, fractionText, exponentText, digitChars]
  · have hvalue : Nat.ofDigitChars 10 (digitChars n) 0 = n := Nat.ofDigitChars_ten_toDigits
    have hgather : gather 0 (digitChars n) = (n, (digitChars n).length) := by
      rw [gather_of_lt (by rw [hvalue]; exact h), hvalue]
    simp [Written.numeral, Numeral.value, hgather]

end Json

end ReservoirGas

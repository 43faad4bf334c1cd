import ReservoirGas.Proofs.Carried
import ReservoirGas.Proofs.Json.Numerals
import ReservoirGas.Proofs.Json.Strings
import Mathlib.Data.List.DropRight

namespace ReservoirGas.Json

open Document

def reread (x : Float) : Document :=
  ((read? (floatText x)).getD .null)

/-- What stands in the text in the place of a scalar. -/
def reading : Document → Document
  | .float x => reread x
  | .plain s => .text s
  | .unreadable => .null
  | d => d

def ReadsAs (d d' : Document) : Prop :=
  d' = reading d

mutual

def Writable : Document → Prop
  | .int n => 0 ≤ n ∧ n < UInt64.size
  | .list ds => WritableItems ds
  | .map es => WritableEntries es
  | _ => True

def WritableItems : List Document → Prop
  | [] => True
  | d :: ds => Writable d ∧ WritableItems ds

def WritableEntries : List (Document × Document) → Prop
  | [] => True
  | (k, v) :: es => (∃ s, k = .text s) ∧ Writable v ∧ WritableEntries es

end

section Space

theorem skipSpace_skipSpace (cs : List Char) : skipSpace (skipSpace cs) = skipSpace cs := by
  rw [skipSpace, skipSpace, List.dropWhile_idempotent]

theorem skipSpace_newLine (depth : Nat) (cs : List Char) :
    skipSpace ((newLine depth).toList ++ cs) = skipSpace cs := by
  have hspaces : ∀ c ∈ (newLine depth).toList, isSpace c = true := by
    intro c hc
    simp only [newLine, String.toList_ofList, List.mem_cons, List.mem_replicate] at hc
    rcases hc with rfl | ⟨-, rfl⟩ <;> decide
  rw [skipSpace, List.dropWhile_append_of_pos hspaces, skipSpace]

theorem skipSpace_of_not {c : Char} (hc : isSpace c = false) (cs : List Char) :
    skipSpace (c :: cs) = c :: cs := by
  rw [skipSpace, List.dropWhile_cons_of_neg (by simp [hc])]

theorem value?_skipSpace (fuel : Nat) (cs : List Char) : value? fuel (skipSpace cs) = value? fuel cs := by
  cases fuel with
  | zero => rw [value?, value?]
  | succ fuel => rw [value?, value?, skipSpace_skipSpace]

theorem value?_space (fuel : Nat) (cs : List Char) : value? fuel (' ' :: cs) = value? fuel cs := by
  rw [← value?_skipSpace, ← value?_skipSpace fuel cs]
  rfl

theorem value?_newLine (fuel depth : Nat) (cs : List Char) :
    value? fuel ((newLine depth).toList ++ cs) = value? fuel cs := by
  rw [← value?_skipSpace, skipSpace_newLine, value?_skipSpace]

end Space

section Numbers

theorem Written.exists_text_eq_cons {w : Written} (hw : w.Valid) :
    ∃ c cs, w.text = c :: cs ∧ (c = '-' ∨ c.isDigit = true) := by
  cases hnegative : w.negative
  · obtain ⟨c, cs, hcs⟩ := List.exists_cons_of_ne_nil hw.whole.ne_nil
    refine ⟨c, cs ++ (fractionText w.fraction ++ exponentText w.exponent), ?_, .inr ?_⟩
    · simp [text, hnegative, hcs]
    · exact hw.whole.digit c (by simp [hcs])
  · exact ⟨'-', _, by rw [text, hnegative]; rfl, .inl rfl⟩

theorem value?_text {w : Written} {r : List Char} (hw : w.Valid) (hr : Ends r) (fuel : Nat) :
    value? (fuel + 1) (w.text ++ r) = some (w.numeral.value, r) := by
  obtain ⟨c, cs, hcs, hc⟩ := Written.exists_text_eq_cons hw
  have hspace : isSpace c = false := by
    rcases hc with rfl | hc
    · decide
    · rw [isSpace]
      simp only [Bool.or_eq_false_iff, beq_eq_false_iff_ne]
      refine ⟨⟨⟨?_, ?_⟩, ?_⟩, ?_⟩ <;> (rintro rfl; exact absurd hc (by decide))
  have hnumeral := numeral?_text hw hr
  rw [hcs, List.cons_append] at hnumeral ⊢
  rw [value?, skipSpace_of_not hspace]
  -- no other value begins with a digit or a sign
  split
  case h_7 => rw [hnumeral]; rfl
  all_goals
    rename_i h
    cases h
    exact absurd hc (by decide)

theorem exists_value?_floatText (x : Float) :
    ∃ d, ∀ fuel r, Ends r → value? (fuel + 1) ((floatText x).toList ++ r) = some (d, r) := by
  by_cases hfinite : x.isFinite = true
  · obtain ⟨w, htext, hw, -⟩ := exists_floatText hfinite
    refine ⟨w.numeral.value, fun fuel r hr ↦ ?_⟩
    rw [htext, value?_text hw hr]
  · refine ⟨.null, fun fuel r _ ↦ ?_⟩
    rw [floatText, if_neg hfinite]
    rfl

theorem value?_floatText (x : Float) (fuel : Nat) {r : List Char} (hr : Ends r) :
    value? (fuel + 1) ((floatText x).toList ++ r) = some (reread x, r) := by
  obtain ⟨d, hd⟩ := exists_value?_floatText x
  have halone : read? (floatText x) = some d := by
    have hvalue := hd (2 * (floatText x).toList.length + 1) [] (fun _ h ↦ nomatch h)
    rw [List.append_nil] at hvalue
    rw [read?, hvalue]
    rfl
  rw [hd fuel r hr, reread, halone, Option.getD_some]

end Numbers

section Containers

variable {fuel : Nat} {cs rest r : List Char} {d : Document} {ds : List Document}
  {es : List (Document × Document)} {k : String}

theorem items?_bracket (fuel : Nat) (r : List Char) : items? fuel (']' :: r) = none := by
  cases fuel with
  | zero => rfl
  | succ fuel => cases fuel <;> rfl

theorem entries?_brace (fuel : Nat) (r : List Char) : entries? fuel ('\x7d' :: r) = none := by
  cases fuel <;> rfl

theorem items?_skipSpace (fuel : Nat) (cs : List Char) : items? fuel (skipSpace cs) = items? fuel cs := by
  cases fuel with
  | zero => rw [items?, items?]
  | succ fuel => rw [items?, items?, value?_skipSpace]

theorem entries?_skipSpace (fuel : Nat) (cs : List Char) :
    entries? fuel (skipSpace cs) = entries? fuel cs := by
  cases fuel with
  | zero => rw [entries?, entries?]
  | succ fuel => rw [entries?, entries?, skipSpace_skipSpace]

theorem value?_list (h : items? fuel cs = some (ds, r)) :
    value? (fuel + 1) ('[' :: cs) = some (.list ds, r) := by
  have hopen : skipSpace ('[' :: cs) = '[' :: cs := rfl
  rw [← items?_skipSpace] at h
  rw [value?, hopen]
  simp only
  split
  · rename_i hclose
    rw [hclose, items?_bracket] at h
    cases h
  · rw [h]
    rfl

theorem value?_map (h : entries? fuel cs = some (es, r)) :
    value? (fuel + 1) ('\x7b' :: cs) = some (.map es, r) := by
  have hopen : skipSpace ('\x7b' :: cs) = '\x7b' :: cs := rfl
  rw [← entries?_skipSpace] at h
  rw [value?, hopen]
  simp only
  split
  · rename_i hclose
    rw [hclose, entries?_brace] at h
    cases h
  · rw [h]
    rfl

theorem items?_last (h : value? fuel cs = some (d, rest)) (hrest : skipSpace rest = ']' :: r) :
    items? (fuel + 1) cs = some ([d], r) := by
  rw [items?, h]
  simp [hrest]

theorem items?_more (h : value? fuel cs = some (d, ',' :: rest)) (hrest : items? fuel rest = some (ds, r)) :
    items? (fuel + 1) cs = some (d :: ds, r) := by
  have hcomma : skipSpace (',' :: rest) = ',' :: rest := rfl
  rw [items?, h]
  simp [hcomma, hrest]

theorem entries?_newLine (fuel depth : Nat) (cs : List Char) :
    entries? fuel ((newLine depth).toList ++ cs) = entries? fuel cs := by
  rw [← entries?_skipSpace, skipSpace_newLine, entries?_skipSpace]

theorem entries?_entry (h : value? fuel cs = some (d, rest)) :
    entries? (fuel + 1) ((quote k).toList ++ ':' :: cs) =
      match skipSpace rest with
      | ',' :: r => do
        let (es, r) ← entries? fuel r
        return ((.text k, d) :: es, r)
      | '\x7d' :: r => return ([(.text k, d)], r)
      | _ => none := by
  have hquote : (quote k).toList ++ ':' :: cs = '"' :: (k.toList.flatMap escape ++ '"' :: ':' :: cs) := by
    simp [quote]
  have hopen (r : List Char) : skipSpace ('"' :: r) = '"' :: r := rfl
  have hcolon : skipSpace (':' :: cs) = ':' :: cs := rfl
  rw [entries?, hquote, hopen]
  simp only [string?_escape]
  rw [Option.bind_eq_bind, Option.bind_some, hcolon]
  simp only [h]
  rfl

end Containers

section Rendering

variable {fuel depth : Nat} {cs r : List Char} {v : Document}

theorem value?_quote (s : String) (fuel : Nat) (r : List Char) :
    value? (fuel + 1) ((quote s).toList ++ r) = some (.text s, r) := by
  have hquote : (quote s).toList ++ r = '"' :: (s.toList.flatMap escape ++ '"' :: r) := by
    simp [quote]
  have hopen (r : List Char) : skipSpace ('"' :: r) = '"' :: r := rfl
  rw [value?, hquote, hopen]
  exact string?_escape s r

theorem value?_int {n : Int} (hn : 0 ≤ n ∧ n < UInt64.size) (fuel : Nat) (hr : Ends r) :
    value? (fuel + 1) ((toString n).toList ++ r) = some (.int n, r) := by
  obtain ⟨m, rfl⟩ := Int.eq_ofNat_of_zero_le hn.1
  obtain ⟨w, htext, hw, hvalue⟩ := exists_natText (Int.ofNat_lt.mp hn.2)
  rw [htext, value?_text hw hr, hvalue]

theorem ends_items (ds : List Document) (depth' : Nat) :
    Ends ((renderItems depth ds).toList ++ ((newLine depth').toList ++ r)) := by
  cases ds <;> simp [renderItems, newLine, Ends]

theorem ends_entries (es : List (Document × Document)) (depth' : Nat) :
    Ends ((renderEntries depth es).toList ++ ((newLine depth').toList ++ r)) := by
  obtain _ | ⟨⟨k, v⟩, es⟩ := es <;> simp [renderEntries, newLine, Ends]

theorem one_le_length_newLine (depth : Nat) : 1 ≤ (newLine depth).toList.length := by
  simp [newLine]

theorem exists_of_succ {d : Document} (d' : Document) {n fuel : Nat} {cs r : List Char} (hfuel : n < fuel)
    (hvalue : ∀ fuel, value? (fuel + 1) cs = some (d', r)) (hcarried : Carried ReadsAs d d') :
    ∃ d', value? fuel cs = some (d', r) ∧ Carried ReadsAs d d' := by
  obtain ⟨fuel, rfl⟩ := Nat.exists_eq_add_one_of_ne_zero (Nat.ne_zero_of_lt hfuel)
  exact ⟨d', hvalue fuel, hcarried⟩

mutual

/-- The text of a document at the front of a text. Its length is fuel enough. -/
theorem value?_render : ∀ (d : Document), Writable d → ∀ (depth fuel : Nat) {r : List Char},
    Ends r → (render depth d).toList.length < fuel →
    ∃ d', value? fuel ((render depth d).toList ++ r) = some (d', r) ∧ Carried ReadsAs d d'
  | .null => fun _ _ _ _ _ hfuel ↦ exists_of_succ .null hfuel (fun _ ↦ by rw [render]; rfl) rfl
  | .bool true => fun _ _ _ _ _ hfuel ↦ exists_of_succ (.bool true) hfuel (fun _ ↦ by rw [render]; rfl) rfl
  | .bool false => fun _ _ _ _ _ hfuel ↦ exists_of_succ (.bool false) hfuel (fun _ ↦ by rw [render]; rfl) rfl
  | .int n => fun hn _ _ _ hr hfuel ↦ exists_of_succ (.int n) hfuel (fun fuel ↦ value?_int hn fuel hr) rfl
  | .float x => fun _ _ _ _ hr hfuel ↦ exists_of_succ (reread x) hfuel (fun fuel ↦ value?_floatText x fuel hr) rfl
  | .text s => fun _ _ _ r _ hfuel ↦ exists_of_succ (.text s) hfuel (fun fuel ↦ value?_quote s fuel r) rfl
  | .plain s => fun _ _ _ r _ hfuel ↦ exists_of_succ (.text s) hfuel (fun fuel ↦ value?_quote s fuel r) rfl
  | .unreadable => fun _ _ _ _ _ hfuel ↦ exists_of_succ .null hfuel (fun _ ↦ by rw [render]; rfl) rfl
  | .list [] => fun _ _ _ _ _ hfuel ↦ exists_of_succ (.list []) hfuel (fun _ ↦ by rw [render]; rfl)
      ⟨[], rfl, trivial⟩
  | .map [] => fun _ _ _ _ _ hfuel ↦ exists_of_succ (.map []) hfuel (fun _ ↦ by rw [render]; rfl)
      ⟨[], rfl, trivial⟩
  | .list (d :: ds) => by
    intro hd depth fuel r hr hfuel
    obtain ⟨hd, hds⟩ := hd
    simp only [render, String.toList_append, List.append_assoc, List.length_append] at hfuel ⊢
    have hopen : "[".toList = ['['] := rfl
    have hclose : "]".toList = [']'] := rfl
    have hline₁ := one_le_length_newLine (depth + 1)
    have hline₂ := one_le_length_newLine depth
    rw [hopen, hclose] at hfuel ⊢
    simp only [List.length_singleton] at hfuel
    obtain ⟨fuel, rfl⟩ : ∃ n, fuel = n + 2 := ⟨fuel - 2, by omega⟩
    obtain ⟨v, hv, hcarried⟩ := value?_render d hd (depth + 1) fuel
      (ends_items (r := ']' :: r) ds depth) (by omega)
    rw [← value?_newLine fuel (depth + 1)] at hv
    obtain ⟨ds', hds', hcarrieds⟩ := items?_render ds hds (depth + 1) depth hv (by omega)
    refine ⟨.list (v :: ds'), ?_, v :: ds', rfl, hcarried, hcarrieds⟩
    exact value?_list hds'
  | .map ((k, v) :: es) => by
    intro hd depth fuel r hr hfuel
    obtain ⟨⟨s, rfl⟩, hv, hes⟩ := hd
    simp only [render, String.toList_append, List.append_assoc, List.length_append] at hfuel ⊢
    have hopen : "\x7b".toList = ['\x7b'] := rfl
    have hclose : "\x7d".toList = ['\x7d'] := rfl
    have hcolon : ": ".toList = [':', ' '] := rfl
    have hline₁ := one_le_length_newLine (depth + 1)
    have hline₂ := one_le_length_newLine depth
    rw [hopen, hclose, hcolon] at hfuel ⊢
    simp only [List.length_cons, List.length_nil] at hfuel
    obtain ⟨fuel, rfl⟩ : ∃ n, fuel = n + 2 := ⟨fuel - 2, by omega⟩
    obtain ⟨v', hv', hcarried⟩ := value?_render v hv (depth + 1) fuel
      (ends_entries (r := '\x7d' :: r) es depth) (by omega)
    rw [← value?_space] at hv'
    obtain ⟨es', hes', hcarrieds⟩ := entries?_render es hes (depth + 1) depth hv' (by omega) s
    refine ⟨.map ((.text s, v') :: es'), ?_, (.text s, v') :: es', rfl, rfl, hcarried, hcarrieds⟩
    rw [← entries?_newLine _ (depth + 1)] at hes'
    exact value?_map hes'

theorem items?_render : ∀ (ds : List Document), WritableItems ds → ∀ (depth depth' : Nat) {fuel : Nat}
    {cs r : List Char} {v : Document},
    value? fuel cs = some (v, (renderItems depth ds).toList ++ ((newLine depth').toList ++ ']' :: r)) →
    (renderItems depth ds).toList.length ≤ fuel →
    ∃ ds', items? (fuel + 1) cs = some (v :: ds', r) ∧ CarriedItems ReadsAs ds ds'
  | [] => by
    intro _ _ depth' _ _ _ _ hv _
    rw [renderItems, String.toList_empty, List.nil_append] at hv
    exact ⟨[], items?_last hv (skipSpace_newLine depth' _), trivial⟩
  | d :: ds => by
    intro hds depth depth' fuel cs r v hv hfuel
    obtain ⟨hd, hds⟩ := hds
    simp only [renderItems, String.toList_append, List.append_assoc, List.length_append] at hv hfuel
    have hcomma : ",".toList = [','] := rfl
    have hline := one_le_length_newLine depth
    rw [hcomma] at hv hfuel
    simp only [List.length_singleton] at hfuel
    obtain ⟨fuel, rfl⟩ : ∃ n, fuel = n + 1 := ⟨fuel - 1, by omega⟩
    obtain ⟨d', hd', hcarried⟩ := value?_render d hd depth fuel
      (ends_items (r := ']' :: r) ds depth') (by omega)
    rw [← value?_newLine fuel depth] at hd'
    obtain ⟨ds', hds', hcarrieds⟩ := items?_render ds hds depth depth' hd' (by omega)
    exact ⟨d' :: ds', items?_more hv hds', hcarried, hcarrieds⟩

theorem entries?_render : ∀ (es : List (Document × Document)), WritableEntries es → ∀ (depth depth' : Nat)
    {fuel : Nat} {cs r : List Char} {v : Document},
    value? fuel cs = some (v, (renderEntries depth es).toList ++ ((newLine depth').toList ++ '\x7d' :: r)) →
    (renderEntries depth es).toList.length ≤ fuel → ∀ k : String,
    ∃ es', entries? (fuel + 1) ((quote k).toList ++ ':' :: cs) = some ((.text k, v) :: es', r) ∧
      CarriedEntries ReadsAs es es'
  | [] => by
    intro _ _ depth' _ _ _ _ hv _ k
    rw [renderEntries, String.toList_empty, List.nil_append] at hv
    refine ⟨[], ?_, trivial⟩
    rw [entries?_entry hv, skipSpace_newLine]
    rfl
  | (k, v) :: es => by
    intro hes depth depth' fuel cs r v' hv hfuel s'
    obtain ⟨⟨s, rfl⟩, hd, hes⟩ := hes
    simp only [renderEntries, String.toList_append, List.append_assoc, List.length_append] at hv hfuel
    have hcomma : ",".toList = [','] := rfl
    have hcolon : ": ".toList = [':', ' '] := rfl
    have hline := one_le_length_newLine depth
    rw [hcomma, hcolon] at hv hfuel
    simp only [List.length_cons, List.length_nil] at hfuel
    obtain ⟨fuel, rfl⟩ : ∃ n, fuel = n + 1 := ⟨fuel - 1, by omega⟩
    obtain ⟨d', hd', hcarried⟩ := value?_render v hd depth fuel
      (ends_entries (r := '\x7d' :: r) es depth') (by omega)
    rw [← value?_space] at hd'
    obtain ⟨es', hes', hcarrieds⟩ := entries?_render es hes depth depth' hd' (by omega) s
    rw [← entries?_newLine _ depth] at hes'
    refine ⟨(.text s, d') :: es', ?_, rfl, hcarried, hcarrieds⟩
    have hkey : render depth (.text s) = quote s := by rw [render]
    have hnext (r : List Char) : skipSpace ([','] ++ r) = ',' :: r := rfl
    rw [entries?_entry hv, hnext, hkey]
    simp only [List.cons_append, List.nil_append, hes']
    rfl

end

/-- The text of a document is read as this document with the numbers read again. -/
theorem exists_read?_write {d : Document} (hd : Writable d) :
    ∃ d', read? (write d) = some d' ∧ Carried ReadsAs d d' := by
  obtain ⟨d', hd', hcarried⟩ := value?_render d hd 0 (2 * (write d).toList.length + 2)
    (r := []) (fun _ h ↦ nomatch h) (by rw [write]; omega)
  refine ⟨d', ?_, hcarried⟩
  rw [List.append_nil] at hd'
  rw [read?]
  rw [write] at hd' ⊢
  rw [hd']
  rfl

end Rendering

end ReservoirGas.Json

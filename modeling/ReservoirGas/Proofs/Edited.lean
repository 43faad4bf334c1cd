import ReservoirGas.Proofs.Carried
import Mathlib.Data.List.Perm.Basic

namespace ReservoirGas.Document

section Lost

variable {β γ : Type}

def unlessLost (lost : Bool) (x : Option β) : Option β :=
  if lost then none else x

@[simp] theorem unlessLost_false (x : Option β) : unlessLost false x = x := rfl

@[simp] theorem unlessLost_none (lost : Bool) : unlessLost lost (none : Option β) = none := by
  cases lost <;> rfl

@[simp] theorem unlessLost_bind (lost : Bool) (x : Option β) (f : β → Option γ) :
    (unlessLost lost x).bind f = unlessLost lost (x.bind f) := by
  cases lost <;> rfl

@[simp] theorem bind_unlessLost (lost : Bool) (x : Option β) (f : β → Option γ) :
    (x.bind fun y ↦ unlessLost lost (f y)) = unlessLost lost (x.bind f) := by
  cases lost with
  | false => rfl
  | true => cases x <;> rfl

@[simp] theorem unlessLost_unlessLost (lost lost' : Bool) (x : Option β) :
    unlessLost lost (unlessLost lost' x) = unlessLost (lost || lost') x := by
  cases lost <;> rfl

end Lost

def entriesOf (fs : Fields) : List (Document × Document) :=
  fs.map fun p ↦ (.text p.1, p.2)

theorem record_eq_map (fs : Fields) : record fs = .map (entriesOf fs) := rfl

structure Leeway where
  default? : String → Option Document
  mayAdd : List (Document × Document) → Document → Prop

section

variable (S : Document → Document → Prop) (w : Leeway)

def Addable (es : List (Document × Document)) (e : Document × Document) : Prop :=
  ∃ name, S (.text name) e.1 ∧ .text name ∉ es.map Prod.fst ∧ w.mayAdd es e.2

mutual

/-- The second document is the first one after editing. Its scalars are related by `S`, and `lost` tells
whether a key is missed. -/
inductive Edited : Bool → Document → Document → Prop
  | same {d d' : Document} (h : Carried S d d') : Edited false d d'
  | list {lost : Bool} {ds ds' : List Document} (h : EditedItems lost ds ds') :
    Edited lost (.list ds) (.list ds')
  | map {lost : Bool} {es kept added es' : List (Document × Document)} (hkept : EditedEntries lost es kept)
    (hadded : ∀ e ∈ added, Addable S w es e) (hperm : es'.Perm (kept ++ added)) :
    Edited lost (.map es) (.map es')

inductive EditedItems : Bool → List Document → List Document → Prop
  | nil : EditedItems false [] []
  | cons {lost lost' : Bool} {d d' : Document} {ds ds' : List Document} (h : Edited lost d d')
    (hs : EditedItems lost' ds ds') : EditedItems (lost || lost') (d :: ds) (d' :: ds')

inductive EditedEntries : Bool → List (Document × Document) → List (Document × Document) → Prop
  | nil : EditedEntries false [] []
  | keep {lost lost' : Bool} {k k' v v' : Document} {es es' : List (Document × Document)}
    (hk : Carried S k k') (hv : Edited lost v v') (hs : EditedEntries lost' es es') :
    EditedEntries (lost || lost') ((k, v) :: es) ((k', v') :: es')
  | leaveOut {lost : Bool} {name : String} {v : Document} {es es' : List (Document × Document)}
    (h : w.default? name = some v) (hs : EditedEntries lost es es') :
    EditedEntries lost ((.text name, v) :: es) es'
  | lose {lost : Bool} {name : String} {v : Document} {es es' : List (Document × Document)}
    (h : w.default? name = none) (hs : EditedEntries lost es es') :
    EditedEntries true ((.text name, v) :: es) es'

end

end

variable {S : Document → Document → Prop} {w : Leeway} {lost : Bool} {es l fs : Fields} {d : Document}

theorem editedItems_of_carried {ds ds' : List Document} (h : List.Forall₂ (Carried S) ds ds') :
    EditedItems S w false ds ds' := by
  induction h with
  | nil => exact .nil
  | cons hd _ ih => exact .cons (.same hd) ih

theorem editedEntries_of_carried {es es' : List (Document × Document)} (h : CarriedEntries S es es') :
    EditedEntries S w false es es' := by
  induction es generalizing es' with
  | nil =>
    cases es' with
    | nil => exact .nil
    | cons e' es' => cases h
  | cons e es ih =>
    cases es' with
    | nil => cases h
    | cons e' es' =>
      obtain ⟨hk, hv, hs⟩ := h
      exact .keep hk (.same hv) (ih hs)

theorem edited_list_iff {ds : List Document} :
    Edited S w lost (.list ds) d ↔ ∃ ds', d = .list ds' ∧ EditedItems S w lost ds ds' := by
  constructor
  · intro h
    cases h with
    | same h =>
      obtain ⟨ds', rfl, hds⟩ := carried_list_iff.mp h
      exact ⟨ds', rfl, editedItems_of_carried hds⟩
    | list h => exact ⟨_, rfl, h⟩
  · intro h
    obtain ⟨ds', rfl, hds⟩ := h
    exact .list hds

theorem exists_of_edited_map {es : List (Document × Document)} (h : Edited S w lost (.map es) d) :
    ∃ es' kept added, d = .map es' ∧ EditedEntries S w lost es kept ∧
      (∀ e ∈ added, Addable S w es e) ∧ es'.Perm (kept ++ added) := by
  cases h with
  | same h =>
    obtain ⟨es', rfl, hes⟩ := carried_map_iff.mp h
    exact ⟨es', es', [], rfl, editedEntries_of_carried hes, fun _ he ↦ absurd he List.not_mem_nil,
      by rw [List.append_nil]⟩
  | map hkept hadded hperm => exact ⟨_, _, _, rfl, hkept, hadded, hperm⟩

/-- Where `write` has written a value, `read` reads what `value` says, unless something is missed. -/
def Reads {γ δ : Type} (S : Document → Document → Prop) (w : Leeway) (write : γ → Document)
    (read : Document → Option δ) (value : γ → Option δ) : Prop :=
  ∀ lost x d, Edited S w lost (write x) d → read d = unlessLost lost (value x)

theorem Reads.items {γ δ : Type} {write : γ → Document} {read : Document → Option δ}
    {value : γ → Option δ} (h : Reads S w write read value) {xs : List γ} {ds : List Document}
    (hds : EditedItems S w lost (xs.map write) ds) : ds.mapM read = unlessLost lost (xs.mapM value) := by
  induction xs generalizing lost ds with
  | nil =>
    cases hds
    rfl
  | cons x xs ih =>
    cases hds with
    | cons hx hxs =>
      rw [List.mapM_cons, List.mapM_cons, h _ x _ hx, ih hxs]
      simp [Bool.or_comm]

theorem Reads.list {γ δ : Type} {write : γ → Document} {read : Document → Option δ}
    {value : γ → Option δ} (h : Reads S w write read value) :
    Reads S w (fun xs ↦ .list (xs.map write)) (list? read) (List.mapM value) := by
  intro lost xs d hd
  obtain ⟨ds, rfl, hds⟩ := edited_list_iff.mp hd
  exact h.items hds

theorem mapM_of_list_nil {γ δ : Type} {write : γ → Document} {value : γ → Option δ} {xs : List γ}
    (h : Document.list [] = .list (xs.map write)) : xs.mapM value = some [] := by
  rw [List.map_eq_nil_iff.mp (Document.list.inj h).symm]
  rfl

section Scalars

variable {f : Float → Option Float} {g : Float → Option (Option Float)}

theorem Scalars.reads_text (hS : Scalars S f g) : Reads S w .text text? some := by
  intro lost s d h
  cases h with
  | same h => exact (hS.text h).1

theorem Scalars.reads_bool (hS : Scalars S f g) : Reads S w .bool bool? some := by
  intro lost b d h
  cases h with
  | same h => exact hS.bool h

theorem Scalars.reads_nat (hS : Scalars S f g) :
    Reads S w (fun n : UInt32 ↦ .int n.toNat) uint32? some := by
  intro lost n d h
  cases h with
  | same h => exact hS.nat h

theorem Scalars.reads_float (hS : Scalars S f g) : Reads S w .float float? f := by
  intro lost x d h
  cases h with
  | same h => exact hS.float h

end Scalars

/-- What has become of a field: it is still there with a value that `V` relates to the one that it had, it was
left out, or it is missed. -/
inductive Found (w : Leeway) (V : Bool → Document → Document → Prop) (l : Fields) :
    String × Document → Bool → Prop
  | kept {lost : Bool} {name : String} {v v' : Document} (hmem : (name, v') ∈ l) (hv : V lost v v') :
    Found w V l (name, v) lost
  | leftOut {name : String} {v : Document} (hmem : ∀ v', (name, v') ∉ l) (h : w.default? name = some v) :
    Found w V l (name, v) false
  | missed {name : String} {v : Document} (hmem : ∀ v', (name, v') ∉ l) (h : w.default? name = none) :
    Found w V l (name, v) true

namespace Found

variable {V V' : Bool → Document → Document → Prop} {e : String × Document} {l' : Fields}

theorem congr (h : Found w V l e lost) (hmem : ∀ v, (e.1, v) ∈ l ↔ (e.1, v) ∈ l') :
    Found w V l' e lost := by
  cases h with
  | kept hv hedited => exact .kept ((hmem _).mp hv) hedited
  | leftOut hv hdefault => exact .leftOut (fun v' hv' ↦ hv v' ((hmem v').mpr hv')) hdefault
  | missed hv hdefault => exact .missed (fun v' hv' ↦ hv v' ((hmem v').mpr hv')) hdefault

theorem forall₂_congr {losses : List Bool} (h : List.Forall₂ (Found w V l) es losses)
    (hmem : ∀ e ∈ es, ∀ v, (e.1, v) ∈ l ↔ (e.1, v) ∈ l') : List.Forall₂ (Found w V l') es losses := by
  induction h with
  | nil => exact .nil
  | cons he _ ih =>
    obtain ⟨hhead, htail⟩ := List.forall_mem_cons.mp hmem
    exact .cons (he.congr hhead) (ih htail)

theorem mapValues (h : Found w V l e lost) {change : Document → Document}
    (hV : ∀ lost v v', V lost v v' → V' lost v (change v')) :
    Found w V' (l.map fun p ↦ (p.1, change p.2)) e lost := by
  have hfresh {name : String} (hv : ∀ v', (name, v') ∉ l) (v' : Document) :
      (name, v') ∉ l.map fun p ↦ (p.1, change p.2) := by
    intro hmem
    obtain ⟨p, hp, heq⟩ := List.mem_map.mp hmem
    cases heq
    exact hv p.2 hp
  cases h with
  | kept hv hedited => exact .kept (List.mem_map.mpr ⟨_, hv, rfl⟩) (hV _ _ _ hedited)
  | leftOut hv hdefault => exact .leftOut (hfresh hv) hdefault
  | missed hv hdefault => exact .missed (hfresh hv) hdefault

end Found

section Lookup

theorem lookup_of_mem {name : String} {v : Document} (hnodup : (fs.map Prod.fst).Nodup)
    (h : (name, v) ∈ fs) : fs.lookup name = some v := by
  induction fs with
  | nil => cases h
  | cons p fs ih =>
    obtain ⟨hfresh, hnodup⟩ := List.nodup_cons.mp hnodup
    rcases List.mem_cons.mp h with rfl | h
    · rw [List.lookup_cons, beq_self_eq_true]
    · have hne : name ≠ p.1 := fun heq ↦ hfresh (heq ▸ List.mem_map_of_mem h)
      rw [List.lookup_cons, beq_eq_false_iff_ne.mpr hne]
      exact ih hnodup h

theorem lookup_eq_none {name : String} (h : ∀ v, (name, v) ∉ fs) : fs.lookup name = none := by
  rw [List.lookup_eq_none_iff]
  intro p hp
  rw [bne_iff_ne]
  rintro rfl
  exact h p.2 hp

variable {V : Bool → Document → Document → Prop} {β : Type} {name : String} {v : Document}
  {read : Document → Option β} {r : Option β}

theorem Found.required_eq (h : Found w V fs (name, v) lost) (hnodup : (fs.map Prod.fst).Nodup)
    (hread : ∀ lost d, V lost v d → read d = unlessLost lost r) (hrequired : w.default? name = none) :
    fs.required name read = unlessLost lost r := by
  cases h with
  | kept hmem hv =>
    rw [Fields.required, lookup_of_mem hnodup hmem]
    exact hread lost _ hv
  | leftOut hmem hdefault =>
    rw [hrequired] at hdefault
    cases hdefault
  | missed hmem _ =>
    rw [Fields.required, lookup_eq_none hmem]
    rfl

theorem Found.withDefault_eq (h : Found w V fs (name, v) lost) (hnodup : (fs.map Prod.fst).Nodup)
    (hread : ∀ lost d, V lost v d → read d = unlessLost lost r) {default : β} {dflt : Document}
    (hoptional : w.default? name = some dflt) (hdefault : dflt = v → r = some default) :
    fs.withDefault name default read = unlessLost lost r := by
  cases h with
  | kept hmem hv =>
    rw [Fields.withDefault, lookup_of_mem hnodup hmem]
    exact hread lost _ hv
  | leftOut hmem hleft =>
    rw [hoptional, Option.some.injEq] at hleft
    rw [Fields.withDefault, lookup_eq_none hmem, unlessLost_false, hdefault hleft]
  | missed hmem hmissed =>
    rw [hoptional] at hmissed
    cases hmissed

end Lookup

/-- The names and values of the entries of a record with the fields `es` after editing. -/
structure Supplied (S : Document → Document → Prop) (w : Leeway) (es l : Fields) (lost : Bool) : Prop where
  nodup : ((l.filter fun p ↦ (es.map Prod.fst).contains p.1).map Prod.fst).Nodup
  found : ∃ losses, List.Forall₂ (Found w (Edited S w) l) es losses ∧ lost = losses.any id
  entry : ∀ p ∈ l, (∃ lost v, (p.1, v) ∈ es ∧ Edited S w lost v p.2) ∨
    p.1 ∉ es.map Prod.fst ∧ w.mayAdd (entriesOf es) p.2

def Names (S : Document → Document → Prop) (e : Document × Document) (p : String × Document) : Prop :=
  S (.text p.1) e.1 ∧ e.2 = p.2

theorem exists_kept {kept : List (Document × Document)} (hnodup : (es.map Prod.fst).Nodup)
    (h : EditedEntries S w lost (entriesOf es) kept) :
    ∃ pairs : Fields, List.Forall₂ (Names S) kept pairs ∧
      (pairs.map Prod.fst).Sublist (es.map Prod.fst) ∧
      (∃ losses, List.Forall₂ (Found w (Edited S w) pairs) es losses ∧ lost = losses.any id) ∧
      ∀ p ∈ pairs, ∃ lost v, (p.1, v) ∈ es ∧ Edited S w lost v p.2 := by
  induction es generalizing lost kept with
  | nil =>
    cases h
    exact ⟨[], .nil, .slnil, ⟨[], .nil, rfl⟩, fun p hp ↦ absurd hp List.not_mem_nil⟩
  | cons e es ih =>
    obtain ⟨name, v⟩ := e
    obtain ⟨hfresh, hnodup⟩ := List.nodup_cons.mp hnodup
    have hgone {pairs : Fields} (hsub : (pairs.map Prod.fst).Sublist (es.map Prod.fst)) (v' : Document) :
        (name, v') ∉ pairs :=
      fun hv' ↦ hfresh (hsub.subset (List.mem_map.mpr ⟨(name, v'), hv', rfl⟩))
    cases h with
    | @keep lost lost' _ k' _ v' _ kept hk hv hs =>
      obtain ⟨pairs, hnames, hsub, ⟨losses, hfound, rfl⟩, hentry⟩ := ih hnodup hs
      refine ⟨(name, v') :: pairs, .cons ⟨hk, rfl⟩ hnames, hsub.cons_cons name, ⟨lost :: losses, ?_, rfl⟩, ?_⟩
      · refine .cons (.kept List.mem_cons_self hv) (Found.forall₂_congr hfound fun e he u ↦ ?_)
        have hne : e.1 ≠ name := fun heq ↦ hfresh (List.mem_map.mpr ⟨e, he, heq⟩)
        simp [hne]
      · intro p hp
        rcases List.mem_cons.mp hp with rfl | hp
        · exact ⟨lost, v, List.mem_cons_self, hv⟩
        · obtain ⟨lost, u, hu, hedited⟩ := hentry p hp
          exact ⟨lost, u, List.mem_cons_of_mem _ hu, hedited⟩
    | leaveOut hdefault hs =>
      obtain ⟨pairs, hnames, hsub, ⟨losses, hfound, rfl⟩, hentry⟩ := ih hnodup hs
      refine ⟨pairs, hnames, hsub.cons name, ⟨false :: losses, ?_, rfl⟩, fun p hp ↦ ?_⟩
      · exact .cons (.leftOut (hgone hsub) hdefault) hfound
      · obtain ⟨lost, u, hu, hedited⟩ := hentry p hp
        exact ⟨lost, u, List.mem_cons_of_mem _ hu, hedited⟩
    | lose hdefault hs =>
      obtain ⟨pairs, hnames, hsub, ⟨losses, hfound, rfl⟩, hentry⟩ := ih hnodup hs
      refine ⟨pairs, hnames, hsub.cons name, ⟨true :: losses, ?_, rfl⟩, fun p hp ↦ ?_⟩
      · exact .cons (.missed (hgone hsub) hdefault) hfound
      · obtain ⟨lost, u, hu, hedited⟩ := hentry p hp
        exact ⟨lost, u, List.mem_cons_of_mem _ hu, hedited⟩

theorem exists_added {added : List (Document × Document)}
    (h : ∀ e ∈ added, Addable S w (entriesOf es) e) :
    ∃ extra : Fields, List.Forall₂ (Names S) added extra ∧ ∀ p ∈ extra, p.1 ∉ es.map Prod.fst ∧
      w.mayAdd (entriesOf es) p.2 := by
  induction added with
  | nil => exact ⟨[], .nil, fun p hp ↦ absurd hp List.not_mem_nil⟩
  | cons e added ih =>
    obtain ⟨hhead, htail⟩ := List.forall_mem_cons.mp h
    obtain ⟨extra, hextra, hnew⟩ := ih htail
    obtain ⟨name, hname, hfresh, hmay⟩ := hhead
    refine ⟨(name, e.2) :: extra, .cons ⟨hname, rfl⟩ hextra, List.forall_mem_cons.mpr ⟨⟨?_, hmay⟩, hnew⟩⟩
    intro hmem
    obtain ⟨p, hp, rfl⟩ := List.mem_map.mp hmem
    exact hfresh (List.mem_map.mpr ⟨(.text p.1, p.2), List.mem_map.mpr ⟨p, hp, rfl⟩, rfl⟩)

theorem exists_supplied (hnodup : (es.map Prod.fst).Nodup) (h : Edited S w lost (.record es) d) :
    ∃ es' l, d = .map es' ∧ List.Forall₂ (Names S) es' l ∧ Supplied S w es l lost := by
  obtain ⟨es', kept, added, rfl, hkept, hadded, hperm⟩ := exists_of_edited_map h
  obtain ⟨pairs, hpairs, hsub, ⟨losses, hfound, hlost⟩, hentry⟩ := exists_kept hnodup hkept
  obtain ⟨extra, hextra, hnew⟩ := exists_added hadded
  obtain ⟨l, hl, hlperm⟩ := List.perm_comp_forall₂ hperm (List.rel_append hpairs hextra)
  refine ⟨es', l, rfl, hl, ?_, ⟨losses, ?_, hlost⟩, fun p hp ↦ ?_⟩
  · have hkeep : pairs.filter (fun p ↦ (es.map Prod.fst).contains p.1) = pairs := by
      refine List.filter_eq_self.mpr fun p hp ↦ List.contains_iff_mem.mpr ?_
      exact hsub.subset (List.mem_map_of_mem hp)
    have hdrop : extra.filter (fun p ↦ (es.map Prod.fst).contains p.1) = [] := by
      refine List.filter_eq_nil_iff.mpr fun p hp ↦ ?_
      rw [List.contains_iff_mem]
      exact (hnew p hp).1
    have hperm := (hlperm.filter fun p ↦ (es.map Prod.fst).contains p.1).map Prod.fst
    rw [List.filter_append, hkeep, hdrop, List.append_nil] at hperm
    exact hperm.nodup_iff.mpr (hsub.nodup hnodup)
  · refine Found.forall₂_congr hfound fun e he v ↦ ?_
    rw [hlperm.mem_iff, List.mem_append]
    refine ⟨.inl, fun hv ↦ hv.resolve_right fun hv ↦ ?_⟩
    exact (hnew _ hv).1 (List.mem_map.mpr ⟨e, he, rfl⟩)
  · rcases List.mem_append.mp (hlperm.mem_iff.mp hp) with hp | hp
    · exact .inl (hentry p hp)
    · exact .inr (hnew p hp)

theorem fields?_eq_some {names : List String}
    (h : ((l.filter fun p ↦ names.contains p.1).map Prod.fst).Nodup) :
    fields? names (l.map fun p ↦ (some p.1, p.2)) = some (l.filter fun p ↦ names.contains p.1) := by
  induction l with
  | nil => rfl
  | cons p l ih =>
    rw [List.map_cons, fields?]
    cases hp : names.contains p.1 with
    | false =>
      rw [List.filter_cons_of_neg (by simpa using hp)] at h ⊢
      rw [ih h]
      rfl
    | true =>
      rw [List.filter_cons_of_pos (by simpa using hp)] at h ⊢
      obtain ⟨hfresh, hnodup⟩ := List.nodup_cons.mp h
      have hlookup : (l.filter fun p ↦ names.contains p.1).lookup p.1 = none :=
        lookup_eq_none fun v hv ↦ hfresh (List.mem_map.mpr ⟨(p.1, v), hv, rfl⟩)
      simp only [ih hnodup, Option.bind_eq_bind, Option.bind_some, hlookup]
      rfl

structure FieldsFound (w : Leeway) (V : Bool → Document → Document → Prop) (es fs : Fields)
    (losses : List Bool) : Prop where
  nodup : (fs.map Prod.fst).Nodup
  found : List.Forall₂ (Found w V fs) es losses

theorem mem_filter_names {names : List String} {name : String} {v : Document} (h : name ∈ names) :
    (name, v) ∈ l ↔ (name, v) ∈ l.filter fun p ↦ names.contains p.1 := by
  rw [List.mem_filter, List.contains_iff_mem]
  exact ⟨fun hv ↦ ⟨hv, h⟩, fun hv ↦ hv.1⟩

variable {f : Float → Option Float} {g : Float → Option (Option Float)}

theorem map_text?_of_names (hS : Scalars S f g) {es : List (Document × Document)}
    (h : List.Forall₂ (Names S) es l) :
    es.map (fun (k, v) ↦ (k.text?, v)) = l.map fun p ↦ (some p.1, p.2) := by
  induction h with
  | nil => rfl
  | @cons e p es l hname _ ih =>
    obtain ⟨hk, hv⟩ := hname
    rw [List.map_cons, List.map_cons, ih, ← (hS.text hk).1, ← hv]

/-- A record that is written with its fields is read in every format, edited or not. -/
theorem record?_of_edited (hS : Scalars S f g) (format : Format) (names : List String)
    (h : Edited S w lost (.record es) d) (hes : es.map Prod.fst = names) (hnodup : names.Nodup) :
    ∃ fs losses, d.record? format names = some fs ∧ lost = losses.any id ∧
      FieldsFound w (Edited S w) es fs losses := by
  subst hes
  obtain ⟨es', l, rfl, hnames, hsupplied⟩ := exists_supplied hnodup h
  obtain ⟨losses, hfound, hlost⟩ := hsupplied.found
  refine ⟨_, losses, ?_, hlost, hsupplied.nodup, Found.forall₂_congr hfound fun e he v ↦ ?_⟩
  · rw [record?, map_text?_of_names hS hnames]
    exact fields?_eq_some hsupplied.nodup
  · exact mem_filter_names (List.mem_map_of_mem he)

end ReservoirGas.Document

import ReservoirGas.Project
import ReservoirGas.Proofs.Edited
import ReservoirGas.Proofs.Numbers

namespace ReservoirGas

open Document

def Project.defaults : Fields :=
  [("options", .record [("parallel_regions", .bool false)]), ("parallel_regions", .bool false),
    ("schedule", .record [("steps", .list [])]), ("steps", .list []),
    ("oil_vaporization", .record [("type", .text "undefined")]),
    ("max_drsdt", .null), ("max_drvdt", .null), ("undersaturated", .list []), ("salt", .list [])]

/-- Anything may be added to the maps of a project, but for those with a type: `fits` tells what they can
hold. -/
def Project.leeway (fits : Document → Prop) : Leeway where
  default? name := Project.defaults.lookup name
  mayAdd es v := .text "type" ∈ es.map Prod.fst → fits v

def Format.Keeps (format : Format) (v : Document) : Prop :=
  v.settle.isReadable = true ∧ OilVaporization.enclosing + 1 + v.settle.height ≤ format.maxHeight

variable {S : Document → Document → Prop} {f : Float → Option Float} {g : Float → Option (Option Float)}
  {fits : Document → Prop}

theorem record?_of_numbers (hS : Scalars S f g) (format : Format) (names : List String) (xs : List Float)
    {lost : Bool} {d : Document}
    (h : Edited S (Project.leeway fits) lost (.record (names.zip (xs.map .float))) d) (hnodup : names.Nodup)
    (hlength : names.length = xs.length) (hrequired : ∀ name ∈ names, Project.defaults.lookup name = none) :
    ∃ fs losses, d.record? format names = some fs ∧ lost = losses.any id ∧
      List.Forall₂ (fun e lost ↦ fs.required e.1 float? = unlessLost lost (f e.2)) (names.zip xs) losses := by
  have hes : (names.zip (xs.map Document.float)).map Prod.fst = names := by
    rw [List.map_fst_zip]
    simp [hlength]
  obtain ⟨fs, losses, hfs, hlost, hfields⟩ := record?_of_edited hS format names h hes hnodup
  refine ⟨fs, losses, hfs, hlost, ?_⟩
  have hfound := hfields.found
  rw [List.zip_map_right, List.forall₂_map_left_iff] at hfound
  have hnamed := (List.forall₂_and_left _ _).mpr ⟨fun e he ↦ (List.of_mem_zip he).1, hfound⟩
  refine List.Forall₂.imp (fun e lost he ↦ ?_) hnamed
  exact he.2.required_eq hfields.nodup (fun lost d hd ↦ hS.reads_float lost e.2 d hd) (hrequired _ he.1)

namespace Densities

theorem reads (hS : Scalars S f g) (format : Format) :
    Reads S (Project.leeway fits) toDocument (ofDocument? format) (traverse f) := by
  intro lost r d hd
  obtain ⟨fs, losses, hfs, rfl, hfields⟩ := record?_of_numbers hS format
    ["oil", "gas", "water"]
    [r.oil, r.gas, r.water] hd (by decide) rfl (by decide)
  match losses, hfields with
  | [_, _, _], .cons hoil (.cons hgas (.cons hwater .nil)) =>
    simp [ofDocument?, traverse, hfs, hoil, hgas, hwater, Bool.or_comm]

end Densities

namespace SaturatedRow

theorem reads (hS : Scalars S f g) (format : Format) :
    Reads S (Project.leeway fits) toDocument (ofDocument? format) (traverse f) := by
  intro lost r d hd
  obtain ⟨fs, losses, hfs, rfl, hfields⟩ := record?_of_numbers hS format
    ["pressure", "formation_volume_factor", "viscosity", "vaporization_ratio"]
    [r.pressure, r.volumeFactor, r.viscosity, r.ratio] hd (by decide) rfl (by decide)
  match losses, hfields with
  | [_, _, _, _], .cons hpressure (.cons hvolumeFactor (.cons hviscosity (.cons hratio .nil))) =>
    simp [ofDocument?, traverse, hfs, hpressure, hvolumeFactor, hviscosity, hratio, Bool.or_comm]

end SaturatedRow

namespace GasSample

theorem reads (hS : Scalars S f g) (format : Format) :
    Reads S (Project.leeway fits) toDocument (ofDocument? format) (traverse f) := by
  intro lost s d hd
  obtain ⟨fs, losses, hfs, rfl, hfields⟩ := record?_of_numbers hS format
    ["ratio", "formation_volume_factor", "viscosity"]
    [s.ratio, s.volumeFactor, s.viscosity] hd (by decide) rfl (by decide)
  match losses, hfields with
  | [_, _, _], .cons hratio (.cons hvolumeFactor (.cons hviscosity .nil)) =>
    simp [ofDocument?, traverse, hfs, hratio, hvolumeFactor, hviscosity, Bool.or_comm]

end GasSample

namespace SaltSaturatedRow

theorem reads (hS : Scalars S f g) (format : Format) :
    Reads S (Project.leeway fits) toDocument (ofDocument? format) (traverse f) := by
  intro lost r d hd
  obtain ⟨fs, losses, hfs, rfl, hfields⟩ := record?_of_numbers hS format
    ["pressure", "vaporization_ratio"]
    [r.pressure, r.ratio] hd (by decide) rfl (by decide)
  match losses, hfields with
  | [_, _], .cons hpressure (.cons hratio .nil) =>
    simp [ofDocument?, traverse, hfs, hpressure, hratio, Bool.or_comm]

end SaltSaturatedRow

namespace SaltSample

theorem reads (hS : Scalars S f g) (format : Format) :
    Reads S (Project.leeway fits) toDocument (ofDocument? format) (traverse f) := by
  intro lost s d hd
  obtain ⟨fs, losses, hfs, rfl, hfields⟩ := record?_of_numbers hS format
    ["salt_concentration", "vaporization_ratio"]
    [s.concentration, s.ratio] hd (by decide) rfl (by decide)
  match losses, hfields with
  | [_, _], .cons hconcentration (.cons hratio .nil) =>
    simp [ofDocument?, traverse, hfs, hconcentration, hratio, Bool.or_comm]

end SaltSample

theorem record?_of_table {ρ σ ρ' σ' : Type} (hS : Scalars S f g) (format : Format) {writeRow : ρ → Document}
    {readRow : Document → Option ρ'} {row : ρ → Option ρ'} {writeSample : σ → Document}
    {readSample : Document → Option σ'} {sample : σ → Option σ'}
    (hrow : Reads S (Project.leeway fits) writeRow readRow row)
    (hsample : Reads S (Project.leeway fits) writeSample readSample sample) {rows : List ρ}
    {branches : List (List σ)} {lost : Bool} {d : Document}
    (h : Edited S (Project.leeway fits) lost (.record [("saturated", .list (rows.map writeRow)),
      ("undersaturated", .list (branches.map fun b ↦ .list (b.map writeSample)))]) d) :
    ∃ fs lost₁ lost₂, d.record? format ["saturated", "undersaturated"] = some fs ∧ lost = (lost₁ || lost₂) ∧
      fs.required "saturated" (list? readRow) = unlessLost lost₁ (rows.mapM row) ∧
      fs.withDefault "undersaturated" [] (list? (list? readSample)) =
        unlessLost lost₂ (branches.mapM (List.mapM sample)) := by
  obtain ⟨fs, losses, hfs, hlost, hnodup, hfound⟩ :=
    record?_of_edited hS format ["saturated", "undersaturated"] h rfl (by decide)
  match losses, hfound with
  | [lost₁, lost₂], .cons hsaturated (.cons hundersaturated .nil) =>
    refine ⟨fs, lost₁, lost₂, hfs, by simpa using hlost, ?_, ?_⟩
    · exact hsaturated.required_eq hnodup (fun lost d ↦ hrow.list lost rows d) rfl
    · exact hundersaturated.withDefault_eq hnodup (fun lost d ↦ hsample.list.list lost branches d) rfl
        mapM_of_list_nil

namespace GasTable

theorem reads (hS : Scalars S f g) (format : Format) :
    Reads S (Project.leeway fits) toDocument (ofDocument? format) (traverse f) := by
  intro lost t d hd
  obtain ⟨fs, lost₁, lost₂, hfs, rfl, hsaturated, hundersaturated⟩ :=
    record?_of_table hS format (SaturatedRow.reads hS format) (GasSample.reads hS format) hd
  simp [ofDocument?, traverse, hfs, hsaturated, hundersaturated, Bool.or_comm]

end GasTable

namespace SaltTable

theorem reads (hS : Scalars S f g) (format : Format) :
    Reads S (Project.leeway fits) toDocument (ofDocument? format) (traverse f) := by
  intro lost t d hd
  obtain ⟨fs, lost₁, lost₂, hfs, rfl, hsaturated, hundersaturated⟩ :=
    record?_of_table hS format (SaltSaturatedRow.reads hS format) (SaltSample.reads hS format) hd
  simp [ofDocument?, traverse, hfs, hsaturated, hundersaturated, Bool.or_comm]

end SaltTable

namespace Deck

theorem reads (hS : Scalars S f g) (format : Format) :
    Reads S (Project.leeway fits) toDocument (ofDocument? format) (traverse f) := by
  intro lost d d' hd
  obtain ⟨fs, losses, hfs, rfl, hnodup, hfound⟩ :=
    record?_of_edited hS format ["densities", "wet", "humid", "salt"] hd rfl (by decide)
  simp only [List.forall₂_cons_left_iff, List.forall₂_nil_left_iff] at hfound
  obtain ⟨lost₁, _, h₁, ⟨lost₂, _, h₂, ⟨lost₃, _, h₃, ⟨lost₄, _, h₄, rfl, rfl⟩, rfl⟩, rfl⟩, rfl⟩ := hfound
  have hdensities : fs.required "densities" (list? (Densities.ofDocument? format)) =
      unlessLost lost₁ (d.densities.mapM (Densities.traverse f)) :=
    h₁.required_eq hnodup (fun lost ↦ (Densities.reads hS format).list lost d.densities) rfl
  have hwet : fs.required "wet" (list? (GasTable.ofDocument? format)) =
      unlessLost lost₂ (d.wet.mapM (GasTable.traverse f)) :=
    h₂.required_eq hnodup (fun lost ↦ (GasTable.reads hS format).list lost d.wet) rfl
  have hhumid : fs.required "humid" (list? (GasTable.ofDocument? format)) =
      unlessLost lost₃ (d.humid.mapM (GasTable.traverse f)) :=
    h₃.required_eq hnodup (fun lost ↦ (GasTable.reads hS format).list lost d.humid) rfl
  have hsalt : fs.withDefault "salt" [] (list? (SaltTable.ofDocument? format)) =
      unlessLost lost₄ (d.salt.mapM (SaltTable.traverse f)) :=
    h₄.withDefault_eq hnodup (fun lost ↦ (SaltTable.reads hS format).list lost d.salt) rfl mapM_of_list_nil
  simp [ofDocument?, traverse, hfs, hdensities, hwet, hhumid, hsalt, Bool.or_comm]

end Deck

theorem BuildOptions.reads (hS : Scalars S f g) (format : Format) :
    Reads S (Project.leeway fits) toDocument (ofDocument? format) some := by
  intro lost o d hd
  obtain ⟨fs, losses, hfs, rfl, hnodup, hfound⟩ :=
    record?_of_edited hS format ["parallel_regions"] hd rfl (by decide)
  simp only [List.forall₂_cons_left_iff, List.forall₂_nil_left_iff] at hfound
  obtain ⟨lost, _, h, rfl, rfl⟩ := hfound
  have hparallel : fs.withDefault "parallel_regions" false bool? = unlessLost lost (some o.parallel) := by
    refine h.withDefault_eq hnodup (fun lost ↦ hS.reads_bool lost o.parallel) rfl ?_
    intro hdefault
    rw [Document.bool.inj hdefault]
  simp [ofDocument?, hfs, hparallel]

theorem settle_of_names (hS : Scalars S f g) {es : List (Document × Document)} {l : Fields}
    (h : List.Forall₂ (Names S) es l) :
    (Document.map es).settle = .record (l.map fun p ↦ (p.1, p.2.settle)) := by
  rw [settle, record, Document.map.injEq]
  induction h with
  | nil => rfl
  | @cons e p es l hname _ ih =>
    obtain ⟨hk, hv⟩ := hname
    rw [settle.settleEntries, ih, (hS.text hk).2, hv]
    rfl

theorem filter_name_eq {l : Fields} {name : String} {v : Document} (hmem : (name, v) ∈ l)
    (hnodup : ((l.filter fun p ↦ p.1 == name).map Prod.fst).Nodup) :
    l.filter (fun p ↦ p.1 == name) = [(name, v)] := by
  have hmem' : (name, v) ∈ l.filter fun p ↦ p.1 == name := List.mem_filter.mpr ⟨hmem, beq_self_eq_true name⟩
  have hnames : ∀ p ∈ l.filter fun p ↦ p.1 == name, p.1 = name :=
    fun p hp ↦ beq_iff_eq.mp (List.mem_filter.mp hp).2
  generalize l.filter (fun p ↦ p.1 == name) = r at hnodup hmem' hnames
  match r, hmem', hnames, hnodup with
  | [p], hmem, _, _ => rw [List.mem_singleton.mp hmem]
  | p :: q :: _, _, hnames, hnodup =>
    have hne := (List.nodup_cons.mp hnodup).1
    simp [hnames p, hnames q] at hne

theorem areReadableEntries_iff {es : List (Document × Document)} :
    areReadableEntries es = true ↔ ∀ e ∈ es, e.1.isReadable = true ∧ e.2.isReadable = true := by
  induction es with
  | nil => simp [areReadableEntries]
  | cons e es ih => simp [areReadableEntries, ih]

theorem heightOfEntries_le_iff {es : List (Document × Document)} {n : Nat} :
    heightOfEntries es ≤ n ↔ ∀ e ∈ es, e.1.height ≤ n ∧ e.2.height ≤ n := by
  induction es with
  | nil => simp [heightOfEntries]
  | cons e es ih => rw [heightOfEntries, List.forall_mem_cons, ← ih, Nat.max_le, Nat.max_le]

namespace OilVaporization

theorem isTag_text (name : String) (v : Document) : isTag (.text name, v) = (name == "type") := by
  by_cases h : name = "type"
  · subst h
    rfl
  · simp [isTag, h]

theorem filter_isTag (test : Bool → Bool) (l : Fields) :
    (entriesOf l).filter (fun e ↦ test (isTag e)) = entriesOf (l.filter fun p ↦ test (p.1 == "type")) := by
  rw [entriesOf, List.filter_map]
  congr 2
  funext p
  exact congrArg test (isTag_text p.1 p.2)

/-- A settled map of named values is not read if one of them cannot be read, and else as its tag says. -/
theorem ofDocument?_of_settle (format : Format) {d : Document} {l : Fields} (hd : d.settle = .record l)
    (hheight : ∀ p ∈ l, enclosing + 1 + p.2.height ≤ format.maxHeight) :
    ofDocument? format d =
      if (Document.record l).isReadable then
        match entriesOf (l.filter fun p ↦ p.1 == "type") with
        | [(_, .text tag)] => ofTag? tag (.record (l.filter fun p ↦ !(p.1 == "type")))
        | _ => none
      else none := by
  have hentries : heightOfEntries (entriesOf l) ≤ format.maxHeight - enclosing - 1 := by
    refine heightOfEntries_le_iff.mpr fun e he ↦ ?_
    obtain ⟨p, hp, rfl⟩ := List.mem_map.mp he
    have hp := hheight p hp
    exact ⟨Nat.zero_le _, by dsimp only; omega⟩
  have hlimit : enclosing + 1 ≤ format.maxHeight := by
    cases format <;> decide
  have hfits : ¬ format.maxHeight < enclosing + (Document.record l).height := by
    rw [record_eq_map, height]
    omega
  have htag := filter_isTag id l
  have hrest := filter_isTag not l
  simp only [id] at htag
  simp only [ofDocument?, hd, hfits, decide_false, Bool.or_false]
  cases (Document.record l).isReadable with
  | false => rfl
  | true =>
    change (match (entriesOf l).filter isTag with
      | [(_, .text tag)] => ofTag? tag (.map ((entriesOf l).filter fun e ↦ !isTag e))
      | _ => none) = _
    rewrite [htag, hrest]
    rfl

variable {format : Format} {lost : Bool} {d : Document} {fields : Fields} {tag : String}

def Settled (S : Document → Document → Prop) (format : Format) (lost : Bool) (d u : Document) : Prop :=
  ∃ a, Edited S (Project.leeway format.Keeps) lost d a ∧ a.settle = u

structure FieldReads {γ : Type} (S : Document → Document → Prop) (format : Format) (name : String)
    (d : Document) (read : Fields → Option γ) (x : Option γ) : Prop where
  height : ∀ lost u, Settled S format lost d u → u.height = 0
  readable : ∀ lost u, Settled S format lost d u → u.isReadable = false → x = none
  read : ∀ fs lost, (fs.map Prod.fst).Nodup →
    Found (Project.leeway format.Keeps) (Settled S format) fs (name, d) lost → read fs = unlessLost lost x

theorem fieldReads_number (hS : Scalars S f g) {name : String} (x : Float)
    (hrequired : Project.defaults.lookup name = none) :
    FieldReads S format name (.float x) (fun fs ↦ fs.required name float?) (f x) := by
  have hsettled {lost : Bool} {u : Document} (h : Settled S format lost (.float x) u) :
      lost = false ∧ u.float? = f x ∧ u.height = 0 ∧ (u.isReadable = false → f x = none) := by
    obtain ⟨a, ha, rfl⟩ := h
    cases ha with
    | same ha =>
      obtain ⟨hnumber, -, hheight, hreadable⟩ := hS.settled ha
      exact ⟨rfl, hnumber, hheight, fun h ↦ (hreadable h).1⟩
  refine ⟨fun _ _ h ↦ (hsettled h).2.2.1, fun _ _ h ↦ (hsettled h).2.2.2, fun fs lost hnodup h ↦ ?_⟩
  refine h.required_eq hnodup (fun lost u hu ↦ ?_) hrequired
  obtain ⟨rfl, hnumber, -⟩ := hsettled hu
  exact hnumber

theorem fieldReads_limit (hS : Scalars S f g) {name : String} (limit : Option Float)
    (hoptional : Project.defaults.lookup name = some .null) :
    FieldReads S format name (rateDocument limit) (fun fs ↦ fs.withDefault name none optionalFloat?)
      (traverseLimit g limit) := by
  have hsettled {lost : Bool} {u : Document} (h : Settled S format lost (rateDocument limit) u) :
      lost = false ∧ u.optionalFloat? = traverseLimit g limit ∧ u.height = 0 ∧
        (u.isReadable = false → traverseLimit g limit = none) := by
    obtain ⟨a, ha, rfl⟩ := h
    cases limit with
    | none =>
      cases ha with
      | same ha =>
        rw [hS.null ha]
        exact ⟨rfl, rfl, rfl, fun h ↦ nomatch h⟩
    | some x =>
      cases ha with
      | same ha =>
        obtain ⟨-, hoptional, hheight, hreadable⟩ := hS.settled ha
        exact ⟨rfl, hoptional, hheight, fun h ↦ (hreadable h).2⟩
  refine ⟨fun _ _ h ↦ (hsettled h).2.2.1, fun _ _ h ↦ (hsettled h).2.2.2, fun fs lost hnodup h ↦ ?_⟩
  refine h.withDefault_eq hnodup (fun lost u hu ↦ ?_) hoptional fun hdefault ↦ ?_
  · obtain ⟨rfl, hlimit, -⟩ := hsettled hu
    exact hlimit
  · cases limit with
    | none => rfl
    | some x => cases hdefault

theorem map_fst_filter_values (test : String → Bool) (change : Document → Document) (l : Fields) :
    ((l.map fun p ↦ (p.1, change p.2)).filter fun p ↦ test p.1).map Prod.fst =
      (l.filter fun p ↦ test p.1).map Prod.fst := by
  rw [List.filter_map, List.map_map]
  rfl

theorem exists_unreadable {l : Fields} (h : (Document.record l).isReadable = false) :
    ∃ p ∈ l, p.2.isReadable = false := by
  by_contra hall
  simp only [not_exists, not_and, Bool.not_eq_false] at hall
  have hreadable : (Document.record l).isReadable = true := by
    rw [record_eq_map, isReadable, areReadableEntries_iff]
    intro e he
    obtain ⟨p, hp, rfl⟩ := List.mem_map.mp he
    exact ⟨rfl, hall p hp⟩
  rw [h] at hreadable
  cases hreadable

/-- An entry of a setting is the tag, a field, or was added as something that can be kept: it can be kept in any
case, and if it cannot be read it is a field. -/
theorem entry_of_supplied (hS : Scalars S f g) {l : Fields}
    (hheight : ∀ e ∈ fields, ∀ lost u, Settled S format lost e.2 u → u.height = 0)
    (h : Supplied S (Project.leeway format.Keeps) (("type", .text tag) :: fields) l lost)
    {p : String × Document} (hp : p ∈ l) :
    enclosing + 1 + p.2.settle.height ≤ format.maxHeight ∧
      (p.2.settle.isReadable = false →
        ∃ e ∈ fields, ∃ lost u, Settled S format lost e.2 u ∧ u.isReadable = false) := by
  have hlimit : enclosing + 1 ≤ format.maxHeight := by
    cases format <;> decide
  rcases h.entry p hp with ⟨lost, v, hv, hedited⟩ | ⟨-, hmay⟩
  · rcases List.mem_cons.mp hv with heq | hv
    · obtain ⟨-, rfl⟩ := Prod.mk.inj heq
      cases hedited with
      | same hedited =>
        rw [(hS.text hedited).2]
        exact ⟨hlimit, fun h ↦ nomatch h⟩
    · have hsettled : Settled S format lost v p.2.settle := ⟨p.2, hedited, rfl⟩
      refine ⟨?_, fun hread ↦ ⟨_, hv, lost, _, hsettled, hread⟩⟩
      rw [hheight _ hv lost _ hsettled]
      exact hlimit
  · obtain ⟨hreadable, hkept⟩ := hmay List.mem_cons_self
    exact ⟨hkept, fun hread ↦ absurd hreadable (by simp [hread])⟩

theorem tag_of_found (hS : Scalars S f g) {l : Fields}
    (hsingle : (((l.map fun p ↦ (p.1, p.2.settle)).filter fun p ↦ p.1 == "type").map Prod.fst).Nodup)
    (h : Found (Project.leeway format.Keeps) (Edited S (Project.leeway format.Keeps)) l
      ("type", .text tag) lost) :
    (l.map fun p ↦ (p.1, p.2.settle)).filter (fun p ↦ p.1 == "type") =
      if lost then [] else [("type", .text tag)] := by
  cases h with
  | kept hmem hedited =>
    cases hedited with
    | same hedited =>
      refine filter_name_eq (List.mem_map.mpr ⟨_, hmem, ?_⟩) hsingle
      rw [(hS.text hedited).2]
  | leftOut hmem hdefault => cases hdefault
  | missed hmem _ =>
    refine List.filter_eq_nil_iff.mpr fun q hq htype ↦ ?_
    obtain ⟨p, hp, rfl⟩ := List.mem_map.mp hq
    exact hmem p.2 (beq_iff_eq.mp htype ▸ hp)

/-- An edited setting is read from its fields as its tag says, unless the tag is missed or one of the fields
cannot be read. -/
theorem exists_fields (hS : Scalars S f g) (fields : Fields) (hnodup : ("type" :: fields.map Prod.fst).Nodup)
    (hheight : ∀ e ∈ fields, ∀ lost u, Settled S format lost e.2 u → u.height = 0)
    (h : Edited S (Project.leeway format.Keeps) lost (.record (("type", .text tag) :: fields)) d) :
    ∃ rest lostTag losses, lost = (lostTag || losses.any id) ∧
      ((rest.filter fun p ↦ (fields.map Prod.fst).contains p.1).map Prod.fst).Nodup ∧
      List.Forall₂ (Found (Project.leeway format.Keeps) (Settled S format) rest) fields losses ∧
      (ofDocument? format d = unlessLost lostTag (ofTag? tag (.record rest)) ∨
        ofDocument? format d = none ∧
          ∃ e ∈ fields, ∃ lost u, Settled S format lost e.2 u ∧ u.isReadable = false) := by
  have hnames : ((("type", .text tag) :: fields : Fields).map Prod.fst).Nodup := hnodup
  obtain ⟨es, l, rfl, hnames, hsupplied⟩ := exists_supplied hnames h
  obtain ⟨_, hfound, hlost⟩ := hsupplied.found
  obtain ⟨lostTag, losses, htag, hfields, rfl⟩ := List.forall₂_cons_left_iff.mp hfound
  have hkeys (test : String → Bool) (htest : ∀ name, test name = true → name ∈ "type" :: fields.map Prod.fst) :
      (((l.map fun p ↦ (p.1, p.2.settle)).filter fun p ↦ test p.1).map Prod.fst).Nodup := by
    rw [map_fst_filter_values]
    refine List.Sublist.nodup (List.Sublist.map _ (List.monotone_filter_right l fun p hp ↦ ?_)) hsupplied.nodup
    exact List.contains_iff_mem.mpr (htest p.1 hp)
  have htags := tag_of_found hS (hkeys (fun name ↦ name == "type") fun name hname ↦ by
    rw [beq_iff_eq.mp hname]
    exact List.mem_cons_self) htag
  have hdecode := ofDocument?_of_settle format (settle_of_names hS hnames) fun q hq ↦ by
    obtain ⟨p, hp, rfl⟩ := List.mem_map.mp hq
    exact (entry_of_supplied hS hheight hsupplied hp).1
  refine ⟨(l.map fun p ↦ (p.1, p.2.settle)).filter fun p ↦ !(p.1 == "type"), lostTag, losses, hlost, ?_, ?_, ?_⟩
  · rw [List.filter_filter]
    refine hkeys (fun name ↦ (fields.map Prod.fst).contains name && !(name == "type")) fun name hname ↦ ?_
    rw [Bool.and_eq_true, List.contains_iff_mem] at hname
    exact List.mem_cons_of_mem _ hname.1
  · refine Found.forall₂_congr (List.Forall₂.imp (fun e lost he ↦
      he.mapValues fun lost v v' hv ↦ ⟨v', hv, rfl⟩) hfields) fun e he v ↦ ?_
    have hne : e.1 ≠ "type" := fun heq ↦ (List.nodup_cons.mp hnodup).1 (List.mem_map.mpr ⟨e, he, heq⟩)
    simp [List.mem_filter, hne]
  · rw [hdecode, htags]
    cases hreadable : (Document.record (l.map fun p ↦ (p.1, p.2.settle))).isReadable with
    | true => cases lostTag <;> exact .inl rfl
    | false =>
      obtain ⟨q, hq, hread⟩ := exists_unreadable hreadable
      obtain ⟨p, hp, rfl⟩ := List.mem_map.mp hq
      exact .inr ⟨rfl, (entry_of_supplied hS hheight hsupplied hp).2 hread⟩

theorem fieldsOf?_record {names : List String} {l : Fields}
    (h : ((l.filter fun p ↦ names.contains p.1).map Prod.fst).Nodup) :
    fieldsOf? names (.record l) = some (l.filter fun p ↦ names.contains p.1) := by
  rw [← fields?_eq_some h, record_eq_map, fieldsOf?, entriesOf, List.map_map]
  rfl

theorem ofDocument?_of_pair {γ δ : Type} (hS : Scalars S f g) {name₁ name₂ : String} {d₁ d₂ : Document}
    {read₁ : Fields → Option γ} {read₂ : Fields → Option δ} {x : Option γ} {y : Option δ}
    {build : γ → δ → OilVaporization Float} (hnodup : ["type", name₁, name₂].Nodup)
    (h₁ : FieldReads S format name₁ d₁ read₁ x) (h₂ : FieldReads S format name₂ d₂ read₂ y)
    (htag : ∀ rest, ofTag? tag rest = (do
      let fs ← fieldsOf? [name₁, name₂] rest
      return build (← read₁ fs) (← read₂ fs)))
    (h : Edited S (Project.leeway format.Keeps) lost
      (.record [("type", .text tag), (name₁, d₁), (name₂, d₂)]) d) :
    ofDocument? format d = unlessLost lost (do return build (← x) (← y)) := by
  obtain ⟨rest, lostTag, _, rfl, hrest, hfound, hread⟩ := exists_fields
    hS [(name₁, d₁), (name₂, d₂)] hnodup (by
      simp only [List.forall_mem_cons]
      exact ⟨h₁.height, h₂.height, fun _ h ↦ absurd h List.not_mem_nil⟩) h
  have hrest : ((rest.filter fun p ↦ [name₁, name₂].contains p.1).map Prod.fst).Nodup := hrest
  simp only [List.forall₂_cons_left_iff, List.forall₂_nil_left_iff] at hfound
  obtain ⟨lost₁, _, hfound₁, ⟨lost₂, _, hfound₂, rfl, rfl⟩, rfl⟩ := hfound
  rcases hread with hread | ⟨hread, e, he, lost, u, hsettled, hunreadable⟩
  · have hnames {name : String} (hname : name ∈ [name₁, name₂]) (v : Document) :
        (name, v) ∈ rest ↔ (name, v) ∈ rest.filter fun p ↦ [name₁, name₂].contains p.1 :=
      mem_filter_names hname
    have hx := h₁.read _ lost₁ hrest (hfound₁.congr (hnames (by simp)))
    have hy := h₂.read _ lost₂ hrest (hfound₂.congr (hnames (by simp)))
    rw [hread, htag, fieldsOf?_record hrest]
    simp only [Option.bind_eq_bind, Option.bind_some, hx, hy]
    simp [Bool.or_comm]
  · rw [hread]
    rcases List.mem_cons.mp he with rfl | he
    · simp [h₁.readable _ _ hsettled hunreadable]
    · obtain rfl := List.mem_singleton.mp he
      simp [h₂.readable _ _ hsettled hunreadable]

theorem reads (hS : Scalars S f g) (format : Format) :
    Reads S (Project.leeway format.Keeps) toDocument (ofDocument? format) (traverse f g) := by
  intro lost v d hd
  cases v with
  | undefined =>
    obtain ⟨rest, lostTag, _, rfl, -, hfound, hread⟩ :=
      exists_fields hS [] (by decide) (fun _ he ↦ absurd he List.not_mem_nil) hd
    obtain rfl := List.forall₂_nil_left_iff.mp hfound
    rcases hread with hread | ⟨-, e, he, -⟩
    · rw [hread, List.any_nil, Bool.or_false]
      rfl
    · cases he
  | parameters vap1 vap2 =>
    exact ofDocument?_of_pair hS (by decide) (fieldReads_number hS vap1 (by decide))
      (fieldReads_number hS vap2 (by decide)) (fun _ ↦ rfl) hd
  | rates maxDissolved maxVaporized =>
    exact ofDocument?_of_pair hS (by decide) (fieldReads_limit hS maxDissolved rfl)
      (fieldReads_limit hS maxVaporized rfl) (fun _ ↦ rfl) hd

end OilVaporization

namespace Schedule

theorem reads_step (hS : Scalars S f g) (format : Format) :
    Reads S (Project.leeway format.Keeps) stepDocument (stepOfDocument? format)
      (OilVaporization.traverse f g) := by
  intro lost v d hd
  obtain ⟨fs, losses, hfs, rfl, hnodup, hfound⟩ :=
    record?_of_edited hS format ["oil_vaporization"] hd rfl (by decide)
  simp only [List.forall₂_cons_left_iff, List.forall₂_nil_left_iff] at hfound
  obtain ⟨lost, _, h, rfl, rfl⟩ := hfound
  have hv : fs.withDefault "oil_vaporization" .undefined (OilVaporization.ofDocument? format) =
      unlessLost lost (v.traverse f g) := by
    refine h.withDefault_eq hnodup (fun lost ↦ OilVaporization.reads hS format lost v) rfl ?_
    intro hdefault
    cases v with
    | undefined => rfl
    | parameters vap1 vap2 => simp [record, OilVaporization.toDocument] at hdefault
    | rates maxDissolved maxVaporized => simp [record, OilVaporization.toDocument] at hdefault
  simp [stepOfDocument?, hfs, hv]

theorem reads (hS : Scalars S f g) (format : Format) :
    Reads S (Project.leeway format.Keeps) toDocument (ofDocument? format) (traverse f g) := by
  intro lost s d hd
  obtain ⟨fs, losses, hfs, rfl, hnodup, hfound⟩ :=
    record?_of_edited hS format ["steps"] hd rfl (by decide)
  simp only [List.forall₂_cons_left_iff, List.forall₂_nil_left_iff] at hfound
  obtain ⟨lost, _, h, rfl, rfl⟩ := hfound
  have hsteps : fs.withDefault "steps" [] (list? (stepOfDocument? format)) =
      unlessLost lost (s.steps.mapM (OilVaporization.traverse f g)) :=
    h.withDefault_eq hnodup (fun lost ↦ (reads_step hS format).list lost s.steps) rfl mapM_of_list_nil
  simp [ofDocument?, traverse, hfs, hsteps]

end Schedule

namespace Project

/-- A project is read with the numbers that its document brings back, wherever its fields stand, unless one
of them is missed. -/
theorem reads_edited (hS : Scalars S f g) (format : Format) :
    Reads S (leeway format.Keeps) toDocument (ofDocument? format) (traverse f g) := by
  intro lost p d hd
  obtain ⟨fs, losses, hfs, rfl, hnodup, hfound⟩ :=
    record?_of_edited hS format ["version", "name", "options", "schedule", "input"] hd rfl (by decide)
  simp only [List.forall₂_cons_left_iff, List.forall₂_nil_left_iff] at hfound
  obtain ⟨lost₁, _, h₁, ⟨lost₂, _, h₂, ⟨lost₃, _, h₃, ⟨lost₄, _, h₄, ⟨lost₅, _, h₅, rfl, rfl⟩, rfl⟩, rfl⟩, rfl⟩,
    rfl⟩ := hfound
  have hversion : fs.required "version" uint32? = unlessLost lost₁ (some p.version) :=
    h₁.required_eq hnodup (fun lost ↦ hS.reads_nat lost p.version) rfl
  have hname : fs.required "name" text? = unlessLost lost₂ (some p.name) :=
    h₂.required_eq hnodup (fun lost ↦ hS.reads_text lost p.name) rfl
  have hoptions : fs.withDefault "options" {} (BuildOptions.ofDocument? format) =
      unlessLost lost₃ (some p.options) := by
    refine h₃.withDefault_eq hnodup (fun lost ↦ BuildOptions.reads hS format lost p.options) rfl ?_
    intro hdefault
    have hparallel : p.options.parallel = false := by
      simpa [record, BuildOptions.toDocument] using hdefault
    exact congrArg (fun parallel ↦ some (BuildOptions.mk parallel)) hparallel
  have hschedule : fs.withDefault "schedule" {} (Schedule.ofDocument? format) =
      unlessLost lost₄ (p.schedule.traverse f g) := by
    refine h₄.withDefault_eq hnodup (fun lost ↦ Schedule.reads hS format lost p.schedule) rfl ?_
    intro hdefault
    have hsteps : p.schedule.steps = [] := by
      simpa [record, Schedule.toDocument] using hdefault
    rw [Schedule.traverse, hsteps]
    rfl
  have hdeck : fs.required "input" (Deck.ofDocument? format) = unlessLost lost₅ (p.deck.traverse f) :=
    h₅.required_eq hnodup (fun lost ↦ Deck.reads hS format lost p.deck) rfl
  simp [ofDocument?, traverse, hfs, hversion, hname, hoptions, hschedule, hdeck, Bool.or_comm]

theorem reads (hS : Scalars S f g) (format : Format) (p : Project) (d : Document)
    (h : Carried S p.toDocument d) : ofDocument? format d = p.traverse f g :=
  reads_edited hS format false p d (.same h)

end Project

end ReservoirGas

import ReservoirGas.Proofs.Store

namespace ReservoirGas

open Document

namespace Project

/-- A document that was a project's is read as this project, in every format, unless a key that is required is
gone: then it is not read. -/
theorem read_of_edited {p : Project} {format : Format} {lost : Bool} {d : Document}
    (h : Edited ReadsAs (leeway format.Keeps) lost p.toDocument d) :
    ofDocument? format d = (if lost then none else some p) ∧
    ∀ text, format.read? text = some d →
      ofText format text = if lost then .error (.malformed format) else p.check.map fun _ ↦ p := by
  have hread : ofDocument? format d = if lost then none else some p := by
    rw [reads_edited scalars_readsAs format lost p d h, traverse_fixed (fun _ _ ↦ rfl) fun _ _ ↦ rfl]
    rfl
  refine ⟨hread, fun text htext ↦ ?_⟩
  rw [ofText, ofTextBy, parse?, htext, Option.bind_some, hread]
  cases lost with
  | true => rfl
  | false =>
    simp only [Bool.false_eq_true, if_false, bind, Except.bind, pure, Except.pure]
    cases p.check <;> rfl

def brief : Project where
  version := 1
  name := "a"
  schedule := ⟨[.parameters 1 2]⟩
  deck := { Model.oneRegion with salt := [] }

def briefDensities : Fields :=
  [("gas", .float 1), ("oil", .float 800), ("water", .float 1000), ("note", .null)]

def briefInput : Fields :=
  [("wet", .list (brief.deck.wet.map GasTable.toDocument)), ("densities", .list [.record briefDensities]),
    ("humid", .list (brief.deck.humid.map GasTable.toDocument))]

/-- The document of `brief` with some keys elsewhere, keys that no project has, without the options and the
salt tables, and with other entries for the setting. -/
def briefDocument (setting : Fields) : Document :=
  .record [("name", .text "a"), ("version", .int 1),
    ("schedule", .record [("steps", .list [.record [("oil_vaporization", .record setting)]])]),
    ("input", .record briefInput), ("note", .null)]

def briefSetting (note : Document) : Fields :=
  [("vap1", .float 1), ("vap2", .float 2), ("note", note), ("type", .text "vappars")]

def lostSetting : Fields :=
  [("vap1", .float 1), ("type", .text "vappars")]

section Brief

variable {fits : Document → Prop} {lost : Bool}

theorem carried_text (s : String) : Carried ReadsAs (.text s) (.text s) :=
  ⟨rfl, rfl⟩

theorem addable {es : Fields} {name : String} {v : Document} (hname : name ∉ es.map Prod.fst)
    (hv : "type" ∉ es.map Prod.fst ∨ fits v) :
    ∀ e ∈ entriesOf [(name, v)], Addable ReadsAs (leeway fits) (entriesOf es) e := by
  have hmem {s : String} (h : s ∉ es.map Prod.fst) : .text s ∉ (entriesOf es).map Prod.fst := by
    intro htext
    rw [entriesOf, List.map_map] at htext
    obtain ⟨p, hp, heq⟩ := List.mem_map.mp htext
    exact h (List.mem_map.mpr ⟨p, hp, Document.text.inj heq⟩)
  refine List.forall_mem_singleton.mpr ⟨name, carried_text name, hmem hname, fun htag ↦ ?_⟩
  exact hv.resolve_left fun htype ↦ hmem htype htag

theorem edited_field {v v' : Document} (name : String) (h : Edited ReadsAs (leeway fits) lost v v') :
    Edited ReadsAs (leeway fits) lost (.record [(name, v)]) (.record [(name, v')]) := by
  have hfield : EditedEntries ReadsAs (leeway fits) (lost || false) (entriesOf [(name, v)])
      (entriesOf [(name, v')]) := .keep (carried_text name) h .nil
  rw [Bool.or_false] at hfield
  exact .map hfield (fun _ he ↦ absurd he List.not_mem_nil) (List.append_nil _ ▸ .refl _)

theorem edited_item {d d' : Document} (h : Edited ReadsAs (leeway fits) lost d d') :
    Edited ReadsAs (leeway fits) lost (.list [d]) (.list [d']) := by
  have hitem : EditedItems ReadsAs (leeway fits) (lost || false) [d] [d'] := .cons h .nil
  rw [Bool.or_false] at hitem
  exact .list hitem

theorem edited_briefInput : Edited ReadsAs (leeway fits) false brief.deck.toDocument (.record briefInput) := by
  have hfields : EditedEntries ReadsAs (leeway fits) false
      (entriesOf [("oil", .float 800), ("gas", .float 1), ("water", .float 1000)])
      (entriesOf [("oil", .float 800), ("gas", .float 1), ("water", .float 1000)]) :=
    editedEntries_of_carried (by decide +kernel)
  have hdensities : Edited ReadsAs (leeway fits) false (Densities.toDocument ⟨800, 1, 1000⟩)
      (.record briefDensities) := .map hfields (addable (by decide) (.inl (by decide))) (.swap _ _ _)
  have hkept : EditedEntries ReadsAs (leeway fits) false
      (entriesOf [("densities", .list [Densities.toDocument ⟨800, 1, 1000⟩]),
        ("wet", .list (brief.deck.wet.map GasTable.toDocument)),
        ("humid", .list (brief.deck.humid.map GasTable.toDocument)), ("salt", .list [])])
      (entriesOf [("densities", .list [.record briefDensities]),
        ("wet", .list (brief.deck.wet.map GasTable.toDocument)),
        ("humid", .list (brief.deck.humid.map GasTable.toDocument))]) :=
    .keep (carried_text _) (edited_item hdensities) (.keep (carried_text _) (.same (by decide +kernel))
      (.keep (carried_text _) (.same (by decide +kernel)) (.leaveOut rfl .nil)))
  exact .map hkept (fun _ he ↦ absurd he List.not_mem_nil) (.swap _ _ _)

theorem edited_briefDocument {setting : Fields}
    (h : Edited ReadsAs (leeway fits) lost (OilVaporization.toDocument (.parameters 1 2)) (.record setting)) :
    Edited ReadsAs (leeway fits) lost brief.toDocument (briefDocument setting) := by
  have hschedule := edited_field "steps" (edited_item (edited_field "oil_vaporization" h))
  have hkept : EditedEntries ReadsAs (leeway fits) (false || (false || (lost || (false || false))))
      (entriesOf [("version", .int 1), ("name", .text "a"), ("options", BuildOptions.toDocument {}),
        ("schedule", brief.schedule.toDocument), ("input", brief.deck.toDocument)])
      (entriesOf [("version", .int 1), ("name", .text "a"),
        ("schedule", .record [("steps", .list [.record [("oil_vaporization", .record setting)]])]),
        ("input", .record briefInput)]) :=
    .keep (carried_text _) (.same (by decide)) (.keep (carried_text _) (.same (by decide))
      (.leaveOut rfl (.keep (carried_text _) hschedule (.keep (carried_text _) edited_briefInput .nil))))
  simp only [Bool.false_or, Bool.or_false] at hkept
  exact .map hkept (addable (by decide) (.inl (by decide))) (.swap _ _ _)

theorem edited_briefSetting {note : Document} (h : fits note) :
    Edited ReadsAs (leeway fits) false (OilVaporization.toDocument (.parameters 1 2))
      (.record (briefSetting note)) := by
  have hkept : EditedEntries ReadsAs (leeway fits) false
      (entriesOf [("type", .text "vappars"), ("vap1", .float 1), ("vap2", .float 2)])
      (entriesOf [("type", .text "vappars"), ("vap1", .float 1), ("vap2", .float 2)]) :=
    editedEntries_of_carried (by decide +kernel)
  exact .map hkept (addable (by decide) (.inr h)) (List.perm_append_singleton _
    (entriesOf [("vap1", .float 1), ("vap2", .float 2), ("note", note)]))

theorem edited_lostSetting :
    Edited ReadsAs (leeway fits) true (OilVaporization.toDocument (.parameters 1 2))
      (.record lostSetting) := by
  have hkept : EditedEntries ReadsAs (leeway fits) true
      (entriesOf [("type", .text "vappars"), ("vap1", .float 1), ("vap2", .float 2)])
      (entriesOf [("type", .text "vappars"), ("vap1", .float 1)]) :=
    .keep (carried_text _) (.same (by decide +kernel)) (.keep (carried_text _) (.same (by decide +kernel))
      (.lose rfl .nil))
  exact .map hkept (fun _ he ↦ absurd he List.not_mem_nil) (.swap _ _ _)

end Brief

def nested : Nat → Document
  | 0 => .list []
  | n + 1 => .list [nested n]

theorem keeps_nested (format : Format) : format.Keeps (nested 121) := by
  cases format <;> exact ⟨by decide +kernel, by decide +kernel⟩

theorem read_briefDocument :
    ofDocument? .json (briefDocument (briefSetting (nested 121))) = some brief ∧
    ofDocument? .yaml (briefDocument (briefSetting (nested 121))) = some brief ∧
    ofDocument? .json (briefDocument lostSetting) = none ∧
    ofDocument? .yaml (briefDocument lostSetting) = none := by
  have hkept (format : Format) : ofDocument? format (briefDocument (briefSetting (nested 121))) = some brief :=
    (read_of_edited (edited_briefDocument (edited_briefSetting (keeps_nested format)))).1
  have hlost (format : Format) : ofDocument? format (briefDocument lostSetting) = none :=
    (read_of_edited (edited_briefDocument edited_lostSetting)).1
  exact ⟨hkept .json, hkept .yaml, hlost .json, hlost .yaml⟩

/-- What is added to a setting can be nested too deep: the setting is kept before its type is known, and the
notations limit the depth of what is kept. -/
theorem not_read_nested :
    Edited ReadsAs (leeway fun v ↦ v.isReadable = true) false brief.toDocument
      (briefDocument (briefSetting (nested 130))) ∧
    ofDocument? .json (briefDocument (briefSetting (nested 130))) = none ∧
    ofDocument? .yaml (briefDocument (briefSetting (nested 130))) = none :=
  ⟨edited_briefDocument (edited_briefSetting (by decide +kernel)), by decide +kernel, by decide +kernel⟩

end Project

end ReservoirGas

import ReservoirGas.Proofs.Codec
import ReservoirGas.Proofs.Refusal
import ReservoirGas.Store

namespace ReservoirGas

open Document Outcome

namespace FilePath

def EndsInName (stem : String) : Prop :=
  ∃ c, stem.toList.getLast? = some c ∧ c ≠ '/'

/-- What is put behind the last name of a path becomes part of this name. -/
theorem exists_splitOn {cs : List Char} {c : Char} (hlast : cs.getLast? = some c) (hc : c ≠ '/') :
    ∃ front name, name ≠ [] ∧ ∀ ending : List Char, '/' ∉ ending →
      (cs ++ ending).splitOn '/' = front ++ [name ++ ending] := by
  induction cs with
  | nil => cases hlast
  | cons a r ih =>
    have hcons (ending : List Char) : (a :: r ++ ending).splitOn '/' =
        if a == '/' then [] :: (r ++ ending).splitOn '/'
        else ((r ++ ending).splitOn '/').modifyHead (List.cons a) :=
      List.splitOn_cons_eq_if_modifyHead a (r ++ ending)
    cases r with
    | nil =>
      cases hlast
      refine ⟨[], [a], List.cons_ne_nil _ _, fun ending hending ↦ ?_⟩
      have hplain : ([] ++ ending).splitOn '/' = [ending] :=
        List.splitOn_eq_singleton hending
      rw [hcons, hplain, if_neg (by simpa using hc)]
      rfl
    | cons b r =>
      rw [List.getLast?_cons_cons] at hlast
      obtain ⟨front, name, hname, hsplit⟩ := ih hlast
      by_cases ha : a = '/'
      · refine ⟨[] :: front, name, hname, fun ending hending ↦ ?_⟩
        rw [hcons, if_pos (by simpa using ha), hsplit ending hending]
        rfl
      · cases front with
        | nil =>
          refine ⟨[], a :: name, List.cons_ne_nil _ _, fun ending hending ↦ ?_⟩
          rw [hcons, if_neg (by simpa using ha), hsplit ending hending]
          rfl
        | cons part front =>
          refine ⟨(a :: part) :: front, name, hname, fun ending hending ↦ ?_⟩
          rw [hcons, if_neg (by simpa using ha), hsplit ending hending]
          rfl

theorem exists_parts {stem : String} (h : EndsInName stem) :
    ∃ front name, name ≠ [] ∧ ∀ ending : String, '/' ∉ ending.toList →
      parts (stem ++ ("." ++ ending)) = front ++ [String.ofList (name ++ '.' :: ending.toList)] := by
  obtain ⟨c, hlast, hc⟩ := h
  obtain ⟨front, name, hname, hsplit⟩ := exists_splitOn hlast hc
  refine ⟨front.map String.ofList, name, hname, fun ending hending ↦ ?_⟩
  have hdotted : '/' ∉ '.' :: ending.toList := by
    simpa using hending
  have hchars : (stem ++ ("." ++ ending)).toList = stem.toList ++ '.' :: ending.toList := by
    simp
  rw [parts, hchars, hsplit _ hdotted, List.map_append]
  rfl

section Ending

variable {stem ending : String} {name cs : List Char}

theorem name_ne (hname : name ≠ []) (hcs : cs ≠ []) :
    String.ofList (name ++ '.' :: cs) ≠ "" ∧ String.ofList (name ++ '.' :: cs) ≠ "." ∧
    String.ofList (name ++ '.' :: cs) ≠ ".." := by
  cases name with
  | nil => exact absurd rfl hname
  | cons a r =>
    refine ⟨fun h ↦ ?_, fun h ↦ ?_, fun h ↦ ?_⟩ <;> have hchars := congrArg String.toList h
    · simp at hchars
    · simp at hchars
    · cases r with
      | nil => simp [hcs] at hchars
      | cons b r => simp at hchars

theorem endsInSlash_append (h : EndsInName stem) (hending : ending.toList ≠ [])
    (hslash : '/' ∉ ending.toList) : endsInSlash (stem ++ ("." ++ ending)) = false := by
  obtain ⟨front, name, hname, hparts⟩ := exists_parts h
  obtain ⟨hempty, hdot, -⟩ := name_ne hname hending
  rw [endsInSlash, hparts ending hslash, List.getLast?_append, List.getLast?_singleton, Option.some_or]
  simp only [hempty, hdot, or_self, decide_false]

theorem extension?_append (h : EndsInName stem) (hending : ending.toList ≠ [])
    (hslash : '/' ∉ ending.toList) (hdots : '.' ∉ ending.toList) :
    extension? (stem ++ ("." ++ ending)) = some ending := by
  obtain ⟨front, name, hname, hparts⟩ := exists_parts h
  obtain ⟨hempty, hdot, hup⟩ := name_ne hname hending
  have hlast : (names (stem ++ ("." ++ ending))).getLast? =
      some (String.ofList (name ++ '.' :: ending.toList)) := by
    rw [names, hparts ending hslash, List.filter_append, List.filter_cons_of_pos]
    · simp
    · simp only [decide_eq_true_eq]
      exact ⟨hempty, hdot⟩
  have hback : (String.ofList (name ++ '.' :: ending.toList)).toList.reverse =
      ending.toList.reverse ++ '.' :: name.reverse := by
    simp
  have hplain : ∀ c ∈ ending.toList.reverse, decide (c ≠ '.') = true := by
    intro c hc
    apply decide_eq_true
    rintro rfl
    exact hdots (List.mem_reverse.mp hc)
  have htake : (ending.toList.reverse ++ '.' :: name.reverse).takeWhile (· ≠ '.') =
      ending.toList.reverse := by
    rw [List.takeWhile_append_of_pos hplain, List.takeWhile_cons_of_neg (by simp), List.append_nil]
  have hdrop : (ending.toList.reverse ++ '.' :: name.reverse).dropWhile (· ≠ '.') = '.' :: name.reverse := by
    rw [List.dropWhile_append_of_pos hplain, List.dropWhile_cons_of_neg (by simp)]
  obtain ⟨c, r, hr⟩ := List.exists_cons_of_ne_nil (List.reverse_ne_nil_iff.mpr hname)
  rw [hr] at hback htake hdrop
  rw [extension?, hlast]
  split
  · rename_i hnone
    cases hnone
  · rename_i hsome
    exact absurd (Option.some.inj hsome) hup
  · rename_i hsome
    cases hsome
    simp only [hback, htake, hdrop, List.reverse_reverse, String.ofList_toList]

end Ending

end FilePath

theorem Files.read?_write (files : Files) {path : String} (content : ByteArray)
    (h : FilePath.endsInSlash path = false) : (files.write path content).read? path = some content := by
  have hagree : FilePath.agree path path = true := by
    simp [FilePath.agree]
  simp [Files.read?, Files.write, h, hagree]

theorem Yaml.read?_eq (s : String) : read? s =
    if s.toList.all isAllowed then
      (Scan.run ((marksFrom 0 0 0 s.toList).length + 1) { rest := marksFrom 0 0 0 s.toList }).bind ofTokens?
    else none := by
  rw [read?, tokens?, marks?]
  split <;> rfl

theorem fromUTF8?_toUTF8 (s : String) : String.fromUTF8? s.toUTF8 = some s :=
  dif_pos s.isValidUTF8

namespace Document

/-- The second document is read as the scalar in the first place, whether its kind is known beforehand or has
to be found out. -/
def ReadsAs : Document → Document → Prop
  | .null, d => d.settle.optionalFloat? = some none
  | .bool b, d => d.bool? = some b
  | .int n, d => d.uint32?.map (fun m ↦ (m.toNat : Int)) = some n
  | .float x, d => d.float? = some x ∧ d.settle.float? = some x
  | .text s, d => d.text? = some s ∧ d.settle.text? = some s
  | _, _ => False

instance (d d' : Document) : Decidable (ReadsAs d d') := by
  cases d <;> dsimp only [ReadsAs] <;> infer_instance

theorem settle_ne_plain (d : Document) (s : String) : d.settle ≠ .plain s := by
  cases d with
  | plain t =>
    rw [settle, Yaml.settle]
    cases t.isEmpty || Yaml.isNullText t with
    | true => simp
    | false =>
      cases Yaml.bool? t with
      | some b => simp
      | none =>
        cases Yaml.int? 64 t with
        | some n => by_cases hminus : n = 0 ∧ (Yaml.splitSign t.toList).1 <;> simp [hminus]
        | none =>
          cases Yaml.int? 128 t with
          | some n => simp
          | none =>
            cases Yaml.float? t with
            | some x => cases Yaml.isPaddedDigits t <;> simp
            | none => simp
  | _ => simp [settle]

theorem settle_of_text? {d : Document} {s : String} (h : d.settle.text? = some s) : d.settle = .text s := by
  cases hd : d.settle with
  | text t =>
    rw [hd] at h
    cases h
    rfl
  | plain t => exact absurd hd (settle_ne_plain d t)
  | _ =>
    rw [hd] at h
    cases h

theorem settle_of_optionalFloat? {d : Document} (h : d.settle.optionalFloat? = some none) :
    d.settle = .null := by
  cases hd : d.settle with
  | null => rfl
  | _ =>
    rw [hd] at h
    simp [optionalFloat?] at h

theorem scalars_readsAs : Scalars ReadsAs some fun x ↦ some (some x) where
  text h := ⟨h.1, settle_of_text? h.2⟩
  bool h := h
  nat {n d} h := by
    obtain ⟨m, hm, heq⟩ := Option.map_eq_some_iff.mp h
    rw [hm, UInt32.toNat_inj.mp (Int.ofNat_inj.mp heq)]
  null h := settle_of_optionalFloat? h
  float h := h.1
  settled {x d} h := by
    have hfloat := h.2
    cases hd : d.settle with
    | int n =>
      rw [hd] at hfloat
      exact ⟨hfloat, congrArg (Option.map some) hfloat, rfl, fun h ↦ nomatch h⟩
    | float y =>
      rw [hd] at hfloat
      exact ⟨hfloat, congrArg (Option.map some) hfloat, rfl, fun h ↦ nomatch h⟩
    | plain t => exact absurd hd (settle_ne_plain d t)
    | _ =>
      rw [hd] at hfloat
      cases hfloat

end Document

namespace Project

variable {p : Project} {format : Format} {stem ending path : String} {files : Files}

theorem save_of_error {e : ProjectError} (h : p.check = .error e) :
    p.save format path files = (.error e, files) := by
  rw [save, h]

theorem save_of_check (h : p.check = .ok ()) :
    p.save format path files = (.ok (), files.write path (p.toText format).toUTF8) := by
  rw [save, h]

theorem ending_of_format (h : Format.ofExtension? ending = some format) :
    ending = "yaml" ∨ ending = "yml" ∨ ending = "json" := by
  rw [Format.ofExtension?] at h
  split at h
  · rename_i hyaml
    rcases hyaml with hyaml | hyml
    · exact .inl hyaml
    · exact .inr (.inl hyml)
  · split at h
    · rename_i hjson
      exact .inr (.inr hjson)
    · cases h

theorem formatOf_append (hstem : FilePath.EndsInName stem) (h : Format.ofExtension? ending = some format) :
    formatOf (stem ++ ("." ++ ending)) = .ok format := by
  have hextension : FilePath.extension? (stem ++ ("." ++ ending)) = some ending := by
    rcases ending_of_format h with rfl | rfl | rfl <;>
      exact FilePath.extension?_append hstem (by decide) (by decide) (by decide)
  rw [formatOf, hextension, Option.bind_some, h]

theorem load_of_text {read : String → Option ByteArray} {path text : String} (hformat : formatOf path = .ok format)
    (hread : read path = some text.toUTF8) : load read path = ofText format text := by
  rw [load, loadBy, hformat, hread, Option.bind_some, fromUTF8?_toUTF8]
  rfl

theorem load_save (hstem : FilePath.EndsInName stem) (hformat : Format.ofExtension? ending = some format)
    (hcheck : p.check = .ok ()) :
    load (p.save format (stem ++ ("." ++ ending)) files).2.read? (stem ++ ("." ++ ending)) =
      ofText format (p.toText format) := by
  have hslash : FilePath.endsInSlash (stem ++ ("." ++ ending)) = false := by
    rcases ending_of_format hformat with rfl | rfl | rfl <;>
      exact FilePath.endsInSlash_append hstem (by decide) (by decide)
  rw [save_of_check hcheck]
  exact load_of_text (formatOf_append hstem hformat) (Files.read?_write _ _ hslash)

theorem ofText_of_read (h : (format.read? (p.toText format)).bind (ofDocument? format) = some p)
    (hcheck : p.check = .ok ()) : ofText format (p.toText format) = .ok p := by
  rw [ofText, ofTextBy, parse?, h]
  simp only [bind, Except.bind, hcheck, pure, Except.pure]

/-- A project that is saved as YAML is loaded as it was, NaN and infinities included, if the text gives back
the scalars of its document. -/
theorem load_save_yaml (p : Project) (files : Files) (hcheck : p.check = .ok ())
    (hstem : FilePath.EndsInName stem) (hending : ending = "yaml" ∨ ending = "yml")
    (htext : ∃ d ∈ Yaml.read? (Yaml.write p.toDocument), Carried ReadsAs p.toDocument d) :
    (p.save .yaml (stem ++ ("." ++ ending)) files).1 = .ok () ∧
    load (p.save .yaml (stem ++ ("." ++ ending)) files).2.read? (stem ++ ("." ++ ending)) = .ok p := by
  have hformat : Format.ofExtension? ending = some .yaml := by
    rcases hending with rfl | rfl <;> decide
  obtain ⟨d, hd, hcarried⟩ := htext
  have hread : ofDocument? .yaml d = some p := by
    rw [Project.reads scalars_readsAs .yaml p d hcarried]
    exact traverse_fixed (fun _ _ ↦ rfl) (fun _ _ ↦ rfl)
  constructor
  · rw [save_of_check hcheck]
  · rw [load_save hstem hformat hcheck]
    apply ofText_of_read _ hcheck
    have htext : Format.read? .yaml (p.toText .yaml) = some d := hd
    rw [htext]
    exact hread

/-- A project of one region with a density that is no number. -/
def boundless : Project where
  version := 1
  name := "a"
  schedule := ⟨[.parameters (0 / 0) (1 / 0)]⟩
  deck := { Model.oneRegion with densities := [⟨800, 0 / 0, 1000⟩] }

theorem check_boundless : boundless.check = .ok () := by
  decide +kernel

theorem read?_write_boundless :
    ∃ d ∈ Yaml.read? (Yaml.write boundless.toDocument), Carried ReadsAs boundless.toDocument d := by
  -- the text is taken apart first, since its characters are costly to find once it is joined
  rw [Yaml.read?_eq]
  simp only [toDocument, boundless, BuildOptions.toDocument, Schedule.toDocument, Schedule.stepDocument,
    OilVaporization.toDocument, Deck.toDocument, Model.oneRegion, Densities.toDocument, GasTable.toDocument,
    SaturatedRow.toDocument, GasSample.toDocument, SaltTable.toDocument, SaltSaturatedRow.toDocument,
    SaltSample.toDocument, record, List.map, Yaml.write, Yaml.render, Yaml.renderItems, Yaml.renderEntries,
    Yaml.renderValue, Yaml.scalarLine, String.toList_append]
  decide +kernel

theorem load_save_yaml_boundless :
    (boundless.save .yaml "a.yml" []).1 = .ok () ∧
    load (boundless.save .yaml "a.yml" []).2.read? "a.yml" = .ok boundless := by
  have hstem : FilePath.EndsInName "a" := ⟨'a', by decide, by decide⟩
  have hpath : "a" ++ ("." ++ "yml") = "a.yml" := by decide
  have hsaved := load_save_yaml boundless [] check_boundless hstem (.inr rfl) read?_write_boundless
  rwa [hpath] at hsaved

/-- A name that begins with its only dot has no ending. -/
theorem load_hidden :
    (boundless.save .yaml ".yaml" []).1 = .ok () ∧
    load (boundless.save .yaml ".yaml" []).2.read? ".yaml" = .error (.unknownFormat ".yaml") := by
  have hformat : formatOf ".yaml" = .error (.unknownFormat ".yaml") := by decide +kernel
  rw [load, loadBy, hformat, save_of_check check_boundless]
  exact ⟨rfl, rfl⟩

end Project

end ReservoirGas

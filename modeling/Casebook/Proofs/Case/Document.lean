import Casebook.Case.Load
import Casebook.Proofs.Disk.Writing
import Casebook.Proofs.Json.RoundTrip
import Casebook.Proofs.Text.Stream

/-!
# Documents of cases in JSON files

A document of cases is written as JSON and loaded from the file again. Main statement:
`load_of_write`.
-/

namespace Casebook

open Schema

/-! ## Checks that succeed -/

theorem all_good {α : Type} (as : List α) : Checked.all (as.map .good) = .good as := by
  induction as with
  | nil => rfl
  | cons a as ih =>
      rw [List.map_cons, Checked.all, ih]
      rfl

theorem list_good {α : Type} (check : Check α) (toValue : α → Value)
    (h : ∀ a, check (toValue a) = .good a) (as : List α) :
    Schema.list check (.list (as.map toValue)) = .good as := by
  have hitems : (as.map toValue).mapIdx (fun i item => (check item).under (.position i)) =
      as.map .good := by
    refine List.ext_getElem (by simp) fun i hi hi' => ?_
    rw [List.getElem_mapIdx, List.getElem_map, List.getElem_map, h]
    rfl
  show Checked.all ((as.map toValue).mapIdx fun i item => (check item).under (.position i)) = _
  rw [hitems, all_good]

theorem map_good (entries : List (Text × Text)) :
    Schema.map text (.map (Json.ofTexts (entries.map fun e => (e.1, .text e.2)))) =
      .good entries := by
  show Checked.all ((Json.ofTexts (entries.map fun e => (e.1, .text e.2))).map (entry text)) = _
  have hentries : (Json.ofTexts (entries.map fun e => (e.1, .text e.2))).map (entry text) =
      entries.map .good := by
    unfold Json.ofTexts
    rw [List.map_map, List.map_map]
    rfl
  rw [hentries, all_good]

theorem optional_good {α : Type} (check : Check α) (toValue : α → Value)
    (h : ∀ a, check (toValue a) = .good a) (hnull : ∀ a, toValue a ≠ .null) (o : Option α) :
    Schema.optional check ((o.map toValue).getD .null) = .good o := by
  cases o with
  | none => rfl
  | some a =>
      show Schema.optional check (toValue a) = _
      unfold Schema.optional
      split
      · next heq => exact absurd heq (hnull a)
      · rw [h]
        rfl

section
variable {α : Type} {name : String} {check : Check α} {v given : Value} {a : α}

theorem field_good (hgiven : v.field? name = some given) (h : check given = .good a) :
    field name check v = .good a := by
  unfold field
  rw [hgiven]
  dsimp only
  rw [h]
  rfl

theorem fieldOr_good {usual : α} (hgiven : v.field? name = some given) (h : check given = .good a) :
    fieldOr name check usual v = .good a := by
  unfold fieldOr
  rw [hgiven]
  dsimp only
  rw [h]
  rfl

end

theorem CaseSpec.check_toValue (c : CaseSpec) : CaseSpec.check c.toValue = .good c := by
  have hname : field "name" text c.toValue = .good c.name := field_good rfl rfl
  have hsource : field "source" text c.toValue = .good c.source := field_good rfl rfl
  have hfiles : fieldOr "files" (Schema.map text) [] c.toValue = .good c.files := by
    refine fieldOr_good rfl ?_
    rw [← map_good c.files, Json.ofTexts, List.map_map]
    rfl
  have hexpected : fieldOr "expected" (Schema.optional (Schema.list text)) none c.toValue =
      .good c.expected := by
    refine fieldOr_good rfl ?_
    rw [← optional_good (Schema.list text) (fun lines => .list (lines.map Value.text))
      (list_good text Value.text fun t => rfl) (fun lines h => nomatch h) c.expected]
    cases c.expected <;> rfl
  unfold CaseSpec.check
  show CaseSpec.mk <$> field "name" text c.toValue <*> field "source" text c.toValue <*>
    fieldOr "files" (Schema.map text) [] c.toValue <*>
    fieldOr "expected" (Schema.optional (Schema.list text)) none c.toValue = _
  rw [hname, hsource, hfiles, hexpected]
  rfl

theorem CaseDocument.check_toValue (d : CaseDocument) : CaseDocument.check d.toValue = .good d := by
  have hversion : fieldOr "version" text (CaseDocument.defaultVersion : Text) d.toValue =
      .good d.version := fieldOr_good rfl rfl
  have hcases : fieldOr "cases" (Schema.list CaseSpec.check) [] d.toValue = .good d.cases :=
    fieldOr_good rfl (list_good CaseSpec.check CaseSpec.toValue CaseSpec.check_toValue d.cases)
  show CaseDocument.mk <$> fieldOr "version" text (CaseDocument.defaultVersion : Text) d.toValue <*>
    fieldOr "cases" (Schema.list CaseSpec.check) [] d.toValue = _
  rw [hversion, hcases]
  rfl

/-! ## Documents of texts of characters -/

/-- A case whose texts are texts of characters, with each of its files once. -/
structure CaseSpec.IsPlain (c : CaseSpec) : Prop where
  name : c.name.hasHalves = false
  source : c.source.hasHalves = false
  files : ∀ file ∈ c.files, file.1.hasHalves = false ∧ file.2.hasHalves = false
  distinct : (c.files.map Prod.fst).Nodup
  expected : ∀ lines, c.expected = some lines → ∀ line ∈ lines, line.hasHalves = false

/-- A document whose texts are texts of characters, and whose cases have each file once. -/
structure CaseDocument.IsPlain (d : CaseDocument) : Prop where
  version : d.version.hasHalves = false
  cases : ∀ c ∈ d.cases, c.IsPlain

open Json in
/-- A map of known fields. -/
theorem isTextual_fields (room : Nat) (fields : List (String × Value))
    (hdistinct : ((fields.map Prod.fst).map Text.ofString).Nodup)
    (h : ∀ f ∈ fields, IsTextual room f.2) :
    IsTextual (room + 1) (.map (fields.map fun f => (.text f.1, f.2))) := by
  have hfields : (fields.map fun f => (Value.text f.1, f.2)) =
      ofTexts (fields.map fun f => (Text.ofString f.1, f.2)) := by
    rw [ofTexts, List.map_map]
    rfl
  rw [hfields]
  refine .map ?_ ?_ ?_
  · rw [List.map_map] at hdistinct ⊢
    exact hdistinct
  · intro e he
    obtain ⟨f, -, rfl⟩ := List.mem_map.mp he
    exact Text.hasHalves_ofChars f.1.toList
  · intro e he
    obtain ⟨f, hf, rfl⟩ := List.mem_map.mp he
    exact h f hf

open Json in
theorem CaseSpec.IsPlain.isTextual {c : CaseSpec} (h : c.IsPlain) (room : Nat) :
    IsTextual (room + 2) c.toValue := by
  have hfiles : IsTextual (room + 1) (.map (c.files.map fun f => (.text f.1, .text f.2))) := by
    have hentries : c.files.map (fun f => (Value.text f.1, Value.text f.2)) =
        ofTexts (c.files.map fun f => (f.1, .text f.2)) := by
      rw [ofTexts, List.map_map]
      rfl
    rw [hentries]
    refine .map ?_ ?_ ?_
    · rw [List.map_map]
      exact h.distinct
    · intro e he
      obtain ⟨f, hf, rfl⟩ := List.mem_map.mp he
      exact (h.files f hf).1
    · intro e he
      obtain ⟨f, hf, rfl⟩ := List.mem_map.mp he
      exact .text (h.files f hf).2
  obtain ⟨expected, hexpected, hvalue⟩ : ∃ v, IsTextual (room + 1) v ∧ c.toValue =
      .map [(.text "name", .text c.name), (.text "source", .text c.source),
        (.text "files", .map (c.files.map fun f => (.text f.1, .text f.2))),
        (.text "expected", v)] := by
    cases hlines : c.expected with
    | none => exact ⟨.null, .null, by rw [CaseSpec.toValue, hlines]⟩
    | some lines =>
        refine ⟨.list (lines.map Value.text), .list fun v hv => ?_, by rw [CaseSpec.toValue, hlines]⟩
        obtain ⟨line, hline, rfl⟩ := List.mem_map.mp hv
        exact .text (h.expected lines hlines line hline)
  rw [hvalue]
  refine isTextual_fields (room + 1) [("name", .text c.name), ("source", .text c.source),
    ("files", _), ("expected", expected)] ?_ ?_
  · show (["name", "source", "files", "expected"].map Text.ofString).Nodup
    decide
  · simp only [List.forall_mem_cons]
    exact ⟨.text h.name, .text h.source, hfiles, hexpected, fun _ hnone => nomatch hnone⟩

open Json in
theorem CaseDocument.IsPlain.isTextual {d : CaseDocument} (h : d.IsPlain) (room : Nat) :
    IsTextual (room + 4) d.toValue := by
  have hcases : IsTextual (room + 3) (.list (d.cases.map CaseSpec.toValue)) := by
    refine .list fun v hv => ?_
    obtain ⟨c, hc, rfl⟩ := List.mem_map.mp hv
    exact (h.cases c hc).isTextual room
  refine isTextual_fields (room + 3) [("version", .text d.version), ("cases", _)] ?_ ?_
  · show (["version", "cases"].map Text.ofString).Nodup
    decide
  · simp only [List.forall_mem_cons]
    exact ⟨.text h.version, hcases, fun _ hnone => nomatch hnone⟩

/-! ## Files -/

namespace CaseDocument

open Disk

/-- The characters of a file without carriage returns are those that were written. -/
theorem readChars_of_write {w w' : Workspace} (hw : w.IsGrounded) {path : Text} {s : String}
    (hreturn : '\r' ∉ s.toList) (hwrite : w.write path (Text.utf8 s) = .ok w') :
    w'.readChars path = .ok s.toList := by
  unfold Workspace.readChars
  rw [(Workspace.bytes_of_write hw hwrite).1]
  simp only [Except.mapError, Bind.bind, Except.bind, Text.utf8, Text.decodeUtf8_encodeUtf8, charsOf,
    Text.withLineFeeds_of_not_mem hreturn]
  rfl

/-- What is written for a document as JSON. -/
def jsonText (d : CaseDocument) : String := String.ofList (Json.write (.block 0) d.toValue)

theorem pretty_toValue {d : CaseDocument} (hd : d.IsPlain) :
    Json.pretty 0 d.toValue = .ok d.jsonText :=
  Json.pretty_eq_ok (hd.isTextual 0) (by decide)

/-- **A document that was written as JSON is loaded**, if there are steps left for its four
levels. -/
theorem load_of_write {d : CaseDocument} (hd : d.IsPlain) {w w' : Workspace} (hw : w.IsGrounded)
    {path : Path} (hsuffix : path.suffix = jsonSuffix) {steps : Nat}
    (hsteps : steps + 10 ≤ Depth.stepLimit)
    (hwrite : w.write path.text (Text.utf8 d.jsonText) = .ok w') : load w' steps path = .ok d := by
  obtain ⟨room, hroom⟩ : ∃ room, Depth.ofJson steps = room + 4 := by
    refine ⟨Depth.stepLimit - (steps + 10), ?_⟩
    unfold Depth.ofJson
    omega
  have htextual := hd.isTextual room
  have hreturn : '\r' ∉ d.jsonText.toList := by
    rw [jsonText, String.toList_ofList]
    exact Json.not_mem_write htextual (.block 0)
  have hread : Json.read (room + 4) d.jsonText.toList = .ok d.toValue := by
    rw [jsonText, String.toList_ofList]
    exact Json.read_write htextual (.block 0)
  have hjson : w'.readJson steps path.text = .ok d.toValue := by
    unfold Workspace.readJson
    rw [readChars_of_write hw hreturn hwrite, hroom]
    simp only [Bind.bind, Except.bind, hread, Except.mapError]
  unfold load
  rw [if_pos hsuffix, hjson]
  simp only [Bind.bind, Except.bind, ofValue, check_toValue]
  rfl

end CaseDocument

end Casebook

import Casebook.Command.Snippet
import Casebook.Proofs.Case.Document
import Casebook.Proofs.CaseFile.Exact

/-!
# Case files in JSON

The command `compile` writes the cases of a case file as JSON. Main statement
(`compiled_cases_load`): what is loaded from the JSON is what is loaded from the case file, and the
same holds of any document whose texts are texts of characters.
-/

namespace Casebook

/-! ## What a case file holds -/

namespace Case

theorem hasHalves_nameOf (argument : List Char) : (nameOf argument).hasHalves = false :=
  Text.hasHalves_trimmed (Text.hasHalves_ofChars argument) Text.isBlank

theorem hasHalves_of_isHeader {line : List Char} {name : Text}
    (h : IsHeader (.case name) line ∨ IsHeader (.file name) line) : name.hasHalves = false := by
  have hnamed : ∀ word, IsNamedHeader word name line → name.hasHalves = false := by
    intro word hword
    obtain ⟨argument, -, rfl⟩ := Option.map_eq_some_iff.mp (isNamedHeader_iff.mp hword)
    exact hasHalves_nameOf argument
  rcases h with hcase | hfile
  · exact hnamed _ hcase
  · exact hnamed _ hfile

theorem hasHalves_expectedLines {body : List Char} {line : Text} (h : line ∈ expectedLines body) :
    line.hasHalves = false := by
  obtain ⟨piece, -, rfl⟩ := List.mem_map.mp (List.mem_filter.mp h).1
  exact Text.hasHalves_trimEnd (Text.hasHalves_ofChars piece)

theorem isPlain_spec {c : CaseBlock} (hfits : c.Fits) (hsound : c.IsSound) : c.spec.IsPlain := by
  refine ⟨hasHalves_of_isHeader (Or.inl hfits.line), Text.hasHalves_ofChars _, ?_, hsound.files, ?_⟩
  · intro file hfile
    obtain ⟨b, hb, hfile⟩ := List.mem_filterMap.mp hfile
    have hline := (hfits.sections b hb).line
    unfold Block.file? at hfile
    split at hfile
    · next name hheader =>
      obtain rfl := Option.some.inj hfile
      rw [hheader] at hline
      exact ⟨hasHalves_of_isHeader (Or.inr hline), Text.hasHalves_ofChars _⟩
    · cases hfile
  · intro lines hlines line hline
    obtain ⟨b, -, hout⟩ := List.mem_filterMap.mp (List.mem_of_head? hlines)
    unfold Block.out? at hout
    split at hout
    · obtain rfl := Option.some.inj hout
      exact hasHalves_expectedLines hline
    · cases hout

/-- The texts of a case file are texts of characters. -/
theorem isPlain_of_parse {text : List Char} {d : CaseDocument} (h : parse text = .ok d) :
    d.IsPlain := by
  obtain ⟨⟨hfits, hsound⟩, rfl⟩ := (parse_eq_ok_iff_outlineOf text d).mp h
  refine ⟨Text.hasHalves_ofChars _, fun c hc => ?_⟩
  obtain ⟨block, hblock, rfl⟩ := List.mem_map.mp hc
  exact isPlain_spec (hfits.cases block hblock) (hsound.cases block hblock)

end Case

namespace CaseDocument

open Disk

theorem isPlain_of_loadCaseFile {w : Workspace} {file : Path} {d : CaseDocument}
    (h : loadCaseFile w file = .ok d) : d.IsPlain := by
  unfold loadCaseFile at h
  cases hchars : w.readChars file.text with
  | error fault =>
      rw [hchars] at h
      cases h
  | ok text =>
      rw [hchars] at h
      simp only [Bind.bind, Except.bind, ofChars] at h
      cases hparse : Case.parse text with
      | error fault =>
          rw [hparse] at h
          cases h
      | ok found =>
          rw [hparse] at h
          obtain rfl := Except.ok.inj h
          exact Case.isPlain_of_parse hparse

end CaseDocument

/-! ## The command -/

namespace Command

open Disk

/-- Printing leaves the disk as it is. -/
theorem disk_say (markup : Text) (s : Shell) : ((Act.say markup).run s).2.disk = s.disk := by
  unfold Act.say Act.display
  cases Console.print markup with
  | error fault => rfl
  | ok text =>
      show ((Act.writeOr .unprintable text).run s).2.disk = s.disk
      unfold Act.writeOr
      cases text.characters with
      | error run => rfl
      | ok cs => rfl

theorem run_get_bind {α : Type} (f : Shell → Act α) (s : Shell) : (get >>= f).run s = (f s).run s :=
  rfl

theorem run_change {f : Workspace → Except Disk.Fault Workspace} {s : Shell} {w' : Workspace}
    (h : f s.disk = .ok w') (next : Act Unit) :
    (do Act.change f; next : Act Unit).run s = next.run ⟨w', s.output⟩ := by
  have hchange : (Act.change f).run s = (.ok (), ⟨w', s.output⟩) := by
    show ((do let disk ← Act.orStop ((f s.disk).mapError .disk)
              modify fun s => { s with disk } : Act Unit)).run s = _
    rw [h]
    rfl
  show (do let r ← (Act.change f).run
           ExceptT.bindCont (fun _ => next) r : StateM Shell (Except Stop Unit)) s = _
  show (match (Act.change f).run s with
    | (r, s') => (ExceptT.bindCont (fun _ => next) r : StateM Shell _) s') = _
  rw [hchange]
  rfl

theorem disk_carryOut (act : Act Unit) (w : Workspace) :
    (act.carryOut w).disk = (act.run ⟨w, ""⟩).2.disk := by
  unfold Act.carryOut
  split <;> next heq => rw [heq]

theorem caseFileAsJson_eq_ok {w : Workspace} {file : Path} {d : CaseDocument}
    (hd : CaseDocument.loadCaseFile w file = .ok d) : caseFileAsJson w file = .ok d.jsonText := by
  unfold caseFileAsJson
  rw [hd]
  simp only [Bind.bind, Except.bind,
    CaseDocument.pretty_toValue (CaseDocument.isPlain_of_loadCaseFile hd), Except.mapError]

/-- A case file that is read is written where the command is told to. -/
theorem disk_compile {w w' : Workspace} {g : Given} {d : CaseDocument} {out : Path}
    (hd : CaseDocument.loadCaseFile w (fileOf g) = .ok d)
    (hout : g.path? outputFlag.long = some out)
    (hwrite : w.write out.text (Text.utf8 d.jsonText) = .ok w') :
    ((compile g).carryOut w).disk = w' := by
  have hrun : (compile g).run ⟨w, ""⟩ =
      (Act.say ("[green]✓[/green] Compiled to " ++ out.text)).run ⟨w', ""⟩ := by
    unfold compile
    rw [run_get_bind]
    dsimp only
    rw [caseFileAsJson_eq_ok hd]
    dsimp only
    rw [hout]
    exact run_change (f := fun w => w.write out.text (Text.utf8 d.jsonText)) (s := ⟨w, ""⟩) hwrite _
  rw [disk_carryOut, hrun, disk_say]

open CaseDocument in
/-- **Cases survive JSON.** A document of texts of characters has a text in JSON, and where that is
written, the document is loaded again. What the command makes of a case file is loaded as what is
loaded from the case file. It takes a place for the file, and steps for the four levels of a
document. -/
theorem compiled_cases_load {w : Workspace} (hw : w.IsGrounded) {out : Path}
    (hsuffix : out.suffix = jsonSuffix) (hout : w.IsWritable out.text) {steps : Nat}
    (hsteps : steps + 10 ≤ Depth.stepLimit) :
    (∀ d : CaseDocument, d.IsPlain → ∃ json w', Json.pretty 0 d.toValue = .ok json ∧
      w.write out.text (Text.utf8 json) = .ok w' ∧ load w' steps out = .ok d) ∧
    ∀ (g : Given) (d : CaseDocument), g.path? outputFlag.long = some out →
      (fileOf g).suffix ≠ jsonSuffix → load w steps (fileOf g) = .ok d →
        load ((compile g).carryOut w).disk steps out = .ok d := by
  have hload : ∀ d : CaseDocument, d.IsPlain → ∃ w', w.write out.text (Text.utf8 d.jsonText) = .ok w' ∧
      load w' steps out = .ok d := by
    intro d hd
    obtain ⟨w', hwrite⟩ := hout.write (Text.utf8 d.jsonText)
    exact ⟨w', hwrite, load_of_write hd hw hsuffix hsteps hwrite⟩
  constructor
  · intro d hd
    obtain ⟨w', hwrite, hback⟩ := hload d hd
    exact ⟨d.jsonText, w', pretty_toValue hd, hwrite, hback⟩
  · intro g d hg hfile hd
    unfold load at hd
    rw [if_neg hfile] at hd
    obtain ⟨w', hwrite, hback⟩ := hload d (isPlain_of_loadCaseFile hd)
    rw [disk_compile hd hg hwrite]
    exact hback

/-- A quote and a backslash in a name, a tab and a line separator in a source, an empty file, and no
expected lines. -/
def quotedCases : String := "[case \"\\]\n\t\u2028\n[file f]\n[case  ]\n[out]\n"

/-- A folder with a case file in it. -/
def oneCaseFile : Workspace := ⟨.folder [("c.case", .file (Text.utf8 quotedCases))], []⟩

theorem compiled_cases_load_quoted : ∃ d : CaseDocument, d.cases.length = 2 ∧
    CaseDocument.load oneCaseFile 4 (Path.ofText "c.case") = .ok d ∧
    CaseDocument.load ((compile ⟨[(outputFlag, some "x.json")], ["c.case"]⟩).carryOut
      oneCaseFile).disk 4 (Path.ofText "x.json") = .ok d := by
  have hparse : Case.parse quotedCases.toList =
      .ok ⟨"0.1", [⟨"\"\\", "\t\u2028\n", [("f", "")], none⟩, ⟨"", "", [], some []⟩]⟩ := by decide
  have hd : CaseDocument.load oneCaseFile 4 (Path.ofText "c.case") =
      .ok ⟨"0.1", [⟨"\"\\", "\t\u2028\n", [("f", "")], none⟩, ⟨"", "", [], some []⟩]⟩ := by
    have hbytes : oneCaseFile.bytes "c.case" = .ok (Text.utf8 quotedCases) := rfl
    have hfeeds : Text.withLineFeeds quotedCases.toList = quotedCases.toList :=
      Text.withLineFeeds_of_not_mem (by decide)
    show (do CaseDocument.ofChars (← oneCaseFile.readChars "c.case")) = _
    unfold Workspace.readChars
    rw [hbytes]
    simp only [Except.mapError, Bind.bind, Except.bind, Text.utf8, Text.decodeUtf8_encodeUtf8,
      charsOf, hfeeds, Pure.pure, Except.pure, CaseDocument.ofChars, hparse]
  have hw : oneCaseFile.IsGrounded := ⟨_, rfl⟩
  have hout : oneCaseFile.IsWritable (Path.ofText "x.json").text := ⟨[], _, rfl⟩
  exact ⟨_, rfl, hd, (compiled_cases_load hw rfl hout (by decide)).2 _ _ rfl (by decide) hd⟩

end Command

end Casebook

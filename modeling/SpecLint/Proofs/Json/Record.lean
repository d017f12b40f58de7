import Mathlib.Tactic.MkIffOfInductiveProp
import SpecLint.Proofs.Dictionary
import SpecLint.Proofs.Json.Printer
import SpecLint.Render

namespace SpecLint
open Text Json

namespace Json

theorem word?_number {n : Nat} (fits : n < wordLimit) : (number n).word? = some n := if_pos fits

theorem mapM_written {read : β → Option α} {write : α → β} {items : List α}
    (each : ∀ item ∈ items, read (write item) = some item) : (items.map write).mapM read = some items := by
  induction items with
  | nil => rfl
  | cons item items ih =>
    have later := ih fun other member => each other (List.mem_cons_of_mem _ member)
    simp only [List.map_cons,List.mapM_cons,each item List.mem_cons_self,later,Option.bind_eq_bind,
      Option.bind_some]
    rfl

theorem list?_written {read : Json → Option α} {write : α → Json} {items : List α}
    (each : ∀ item ∈ items, read (write item) = some item) :
    list? read (array (items.map write)) = some items := mapM_written each

theorem texts_read (items : List Text) : list? text? (texts items) = some items :=
  list?_written fun _ _ => rfl

theorem dictionary?_written {read : Json → Option α} {write : α → Json} {map : Dictionary α}
    (each : ∀ entry ∈ map.entries, read (write entry.2) = some entry.2) :
    dictionary? read (object (map.entries.map fun entry => (entry.1,write entry.2))) = some map := by
  have entries : (map.entries.map fun entry => (entry.1,write entry.2)).mapM
      (fun member => (read member.2).map (member.1,·)) = some map.entries := by
    refine mapM_written ?_
    intro entry member
    rw [each entry member]
    rfl
  simp only [dictionary?,entries,Option.bind_eq_bind,Option.bind_some,Dictionary.ofList_entries]
  rfl

theorem whole_array {write : α → Json} {items : List α} (each : ∀ item ∈ items, (write item).Whole) :
    (array (items.map write)).Whole := by
  refine .array ?_
  intro json member
  obtain ⟨item,inside,rfl⟩ := List.mem_map.mp member
  exact each item inside

theorem whole_texts (items : List Text) : (texts items).Whole := whole_array fun item _ => .string item

end Json

theorem Diagnostic.json_whole (diagnostic : Diagnostic) : diagnostic.json.Whole := by
  refine .object ?_
  simp only [List.forall_mem_cons]
  exact ⟨.string _,.string _,.string _,fun _ none => by cases none⟩

theorem Diagnostic.ofJson?_json (diagnostic : Diagnostic) :
    Diagnostic.ofJson? diagnostic.json = some diagnostic := rfl

theorem Verdict.json_whole (verdict : Verdict) : verdict.json.Whole := by
  refine .object ?_
  simp only [List.forall_mem_cons]
  exact ⟨.bool _,whole_array fun diagnostic _ => diagnostic.json_whole,
    whole_array fun diagnostic _ => diagnostic.json_whole,fun _ none => by cases none⟩

theorem Verdict.ofJson?_json (verdict : Verdict) : Verdict.ofJson? verdict.json = some verdict := by
  have diagnostics : ∀ found : List Diagnostic,
      list? Diagnostic.ofJson? (.array (found.map (·.json))) = some found :=
    fun _ => list?_written fun diagnostic _ => diagnostic.ofJson?_json
  have fields : verdict.json.fields? ["valid".toList, "errors".toList, "warnings".toList] =
      some [some (.bool verdict.valid),some (.array (verdict.errors.map (·.json))),
        some (.array (verdict.warnings.map (·.json)))] := rfl
  simp only [Verdict.ofJson?,fields,diagnostics,Option.bind_eq_bind,Option.bind_some,bool?]
  rfl

-- The numbers of a record are words of 64 bits.
@[mk_iff]
structure FileReport.Fits (file : FileReport) : Prop where
  functions : file.functions < wordLimit

instance (file : FileReport) : Decidable file.Fits := decidable_of_iff _ (FileReport.fits_iff file).symm

@[mk_iff]
structure Report.Fits (report : Report) : Prop where
  files : ∀ file ∈ report.files, file.Fits
  filesChecked : report.filesChecked < wordLimit
  functionsChecked : report.functionsChecked < wordLimit
  errors : report.errors < wordLimit
  warnings : report.warnings < wordLimit

instance (report : Report) : Decidable report.Fits := decidable_of_iff _ (Report.fits_iff report).symm

@[mk_iff]
structure Landmark.Fits (landmark : Landmark) : Prop where
  lineNumber : landmark.lineNumber < wordLimit
  startOffset : landmark.startOffset < wordLimit
  endOffset : landmark.endOffset < wordLimit

instance (landmark : Landmark) : Decidable landmark.Fits := decidable_of_iff _ (Landmark.fits_iff landmark).symm

@[mk_iff]
structure FunctionBlock.Fits (function : FunctionBlock) : Prop where
  landmarks : ∀ entry ∈ function.landmarks.entries, entry.2.Fits
  lineNumber : function.lineNumber < wordLimit

instance (function : FunctionBlock) : Decidable function.Fits := decidable_of_iff _ (FunctionBlock.fits_iff function).symm

@[mk_iff]
structure Spec.Fits (spec : Spec) : Prop where
  functions : ∀ function ∈ spec.functions, function.Fits
  dataBlocks : ∀ block ∈ spec.dataBlocks, block.Fits
  constraints : ∀ block ∈ spec.constraints, block.Fits

instance (spec : Spec) : Decidable spec.Fits := decidable_of_iff _ (Spec.fits_iff spec).symm

theorem FileReport.json_whole (file : FileReport) : file.json.Whole := by
  refine .object ?_
  simp only [List.forall_mem_cons]
  exact ⟨.string _,.number _,file.verdict.json_whole,fun _ none => by cases none⟩

theorem FileReport.ofJson?_json {file : FileReport} (fits : file.Fits) :
    FileReport.ofJson? file.json = some file := by
  have fields : file.json.fields? ["path".toList, "functions".toList, "result".toList] =
      some [some (.string file.path),some (.number file.functions),some file.verdict.json] := rfl
  simp only [FileReport.ofJson?,fields,text?,word?_number fits.functions,file.verdict.ofJson?_json,
    Option.bind_eq_bind,Option.bind_some]
  rfl

theorem Report.json_whole (report : Report) : report.json.Whole := by
  refine .object ?_
  simp only [List.forall_mem_cons]
  exact ⟨whole_array fun file _ => file.json_whole,.number _,.number _,.number _,.number _,
    fun _ none => by cases none⟩

theorem Report.ofJson?_json {report : Report} (fits : report.Fits) :
    Report.ofJson? report.json = some report := by
  have files := list?_written fun file member => FileReport.ofJson?_json (fits.files file member)
  have fields : report.json.fields? ["files".toList, "files_checked".toList,
      "functions_checked".toList, "errors".toList, "warnings".toList] =
      some [some (.array (report.files.map (·.json))),some (.number report.filesChecked),
        some (.number report.functionsChecked),some (.number report.errors),
        some (.number report.warnings)] := rfl
  simp only [Report.ofJson?,fields,files,word?_number fits.filesChecked,
    word?_number fits.functionsChecked,word?_number fits.errors,word?_number fits.warnings,
    Option.bind_eq_bind,Option.bind_some]
  rfl

theorem Landmark.json_whole (landmark : Landmark) : landmark.json.Whole := by
  refine .object ?_
  simp only [List.forall_mem_cons]
  exact ⟨.string _,.string _,.number _,.number _,.number _,fun _ none => by cases none⟩

theorem Landmark.ofJson?_json {landmark : Landmark} (fits : landmark.Fits) :
    Landmark.ofJson? landmark.json = some landmark := by
  have fields : landmark.json.fields? ["name".toList, "content".toList, "lineNumber".toList,
      "startOffset".toList, "endOffset".toList] =
      some [some (.string landmark.name),some (.string landmark.content),
        some (.number landmark.lineNumber),some (.number landmark.startOffset),
        some (.number landmark.endOffset)] := rfl
  simp only [Landmark.ofJson?,fields,text?,word?_number fits.lineNumber,
    word?_number fits.startOffset,word?_number fits.endOffset,Option.bind_eq_bind,Option.bind_some]
  rfl

theorem FunctionBlock.json_whole (function : FunctionBlock) : function.json.Whole := by
  have landmarks : (object (function.landmarks.entries.map fun entry => (entry.1,entry.2.json))).Whole := by
    refine .object ?_
    intro member inside
    obtain ⟨entry,_,rfl⟩ := List.mem_map.mp inside
    exact entry.2.json_whole
  refine .object ?_
  simp only [List.forall_mem_cons]
  exact ⟨.string _,.string _,whole_texts _,.string _,landmarks,.number _,fun _ none => by cases none⟩

theorem FunctionBlock.ofJson?_json {function : FunctionBlock} (fits : function.Fits) :
    FunctionBlock.ofJson? function.json = some function := by
  have landmarks := dictionary?_written fun entry member =>
    Landmark.ofJson?_json (fits.landmarks entry member)
  have fields : function.json.fields? ["signature".toList, "name".toList, "inputs".toList,
      "returnType".toList, "landmarks".toList, "lineNumber".toList] =
      some [some (.string function.signature),some (.string function.name),
        some (texts function.inputs),some (.string function.returnType),
        some (.object (function.landmarks.entries.map fun entry => (entry.1,entry.2.json))),
        some (.number function.lineNumber)] := rfl
  simp only [FunctionBlock.ofJson?,fields,text?,texts_read,landmarks,word?_number fits.lineNumber,
    Option.bind_eq_bind,Option.bind_some]
  rfl

theorem Spec.json_whole (spec : Spec) : spec.json.Whole := by
  refine .object ?_
  simp only [List.forall_mem_cons]
  exact ⟨whole_array fun function _ => function.json_whole,whole_array fun block _ => block.json_whole,
    whole_array fun block _ => block.json_whole,.string _,fun _ none => by cases none⟩

theorem Spec.ofJson?_json {spec : Spec} (fits : spec.Fits) : Spec.ofJson? spec.json = some spec := by
  have functions := list?_written fun function member =>
    FunctionBlock.ofJson?_json (fits.functions function member)
  have dataBlocks := list?_written fun block member => Landmark.ofJson?_json (fits.dataBlocks block member)
  have constraints := list?_written fun block member => Landmark.ofJson?_json (fits.constraints block member)
  have fields : spec.json.fields? ["functions".toList, "dataBlocks".toList, "constraints".toList,
      "rawText".toList] =
      some [some (.array (spec.functions.map (·.json))),some (.array (spec.dataBlocks.map (·.json))),
        some (.array (spec.constraints.map (·.json))),some (.string spec.rawText)] := rfl
  simp only [Spec.ofJson?,fields,functions,dataBlocks,constraints,text?,Option.bind_eq_bind,
    Option.bind_some]
  rfl

-- A value comes back from either layout, with or without colour for what is not JSON, and the
-- compact layout is a single line.
structure Lossless (render : Format → Bool → α → Text) (ofJson? : Json → Option α) (value : α) : Prop where
  back : ∀ layout color, (parse? (render (.json layout) color value)).bind ofJson? = some value
  oneLine : ∀ color, Printable (render (.json .compact) color value)

theorem lossless {render : Format → Bool → α → Text} {ofJson? : Json → Option α} {value : α} {json : Json}
    (printed : ∀ layout color, render (.json layout) color value = json.render layout)
    (whole : json.Whole) (read : ofJson? json = some value) : Lossless render ofJson? value := by
  refine ⟨?_,?_⟩
  · intro layout color
    rw [printed,parse?_render layout whole]
    exact read
  · intro color
    rw [printed]
    exact print_printable whole 0

-- Every result, report and document is read back from the JSON it is written as.
theorem json_lossless :
    (∀ verdict : Verdict, Lossless Verdict.render Verdict.ofJson? verdict) ∧
    (∀ spec : Spec, spec.Fits → Lossless Spec.render Spec.ofJson? spec) ∧
    ∀ report : Report, report.Fits → Lossless Report.render Report.ofJson? report := by
  refine ⟨?_,?_,?_⟩
  · intro verdict
    exact lossless (fun _ _ => rfl) verdict.json_whole verdict.ofJson?_json
  · intro spec fits
    exact lossless (fun _ _ => rfl) spec.json_whole (Spec.ofJson?_json fits)
  · intro report fits
    exact lossless (fun _ _ => rfl) report.json_whole (Report.ofJson?_json fits)

-- Quotes, controls, characters beyond the first plane, the greatest word and two landmarks of a map.
theorem json_lossless_escapes :
    let report : Report :=
      ⟨[⟨"a\"b\\\n\x01.simplex".toList,0,⟨false,[⟨"E000".toList,"\t\x7f/😀".toList,"spec".toList⟩],[]⟩⟩],
        1,18446744073709551615,1,0⟩
    let spec := Spec.ofText .standard
      "FUNCTION: f(a, b) → Größe\nRULES: - \"x\"\nERRORS: \\\nDATA: \u2028".toList
    (report.Fits ∧ Lossless Report.render Report.ofJson? report) ∧
      spec.Fits ∧ Lossless Spec.render Spec.ofJson? spec := by
  intro report spec
  have reportFits : report.Fits := by decide +kernel
  have specFits : spec.Fits := by decide +kernel
  exact ⟨⟨reportFits,json_lossless.2.2 report reportFits⟩,specFits,json_lossless.2.1 spec specFits⟩

end SpecLint

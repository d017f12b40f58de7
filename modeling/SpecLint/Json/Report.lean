import SpecLint.Json.Record
import SpecLint.Report

namespace SpecLint
open Json

def Diagnostic.json (diagnostic : Diagnostic) : Json := .object
  [("code".toList,.string diagnostic.code),
   ("message".toList,.string diagnostic.message),
   ("location".toList,.string diagnostic.location)]

def Diagnostic.ofJson? (json : Json) : Option Diagnostic := do
  match ← json.fields? ["code".toList, "message".toList, "location".toList] with
  | [some code, some message, some location] =>
    return ⟨← code.text?,← message.text?,← location.text?⟩
  | _ => none

def Verdict.json (verdict : Verdict) : Json := .object
  [("valid".toList,.bool verdict.valid),
   ("errors".toList,.array (verdict.errors.map (·.json))),
   ("warnings".toList,.array (verdict.warnings.map (·.json)))]

def Verdict.ofJson? (json : Json) : Option Verdict := do
  match ← json.fields? ["valid".toList, "errors".toList, "warnings".toList] with
  | [some valid, some errors, some warnings] =>
    return {
      valid := ← valid.bool?
      errors := ← errors.list? Diagnostic.ofJson?
      warnings := ← warnings.list? Diagnostic.ofJson? }
  | _ => none

def FileReport.json (file : FileReport) : Json := .object
  [("path".toList,.string file.path),
   ("functions".toList,.number file.functions),
   ("result".toList,file.verdict.json)]

def FileReport.ofJson? (json : Json) : Option FileReport := do
  match ← json.fields? ["path".toList, "functions".toList, "result".toList] with
  | [some path, some functions, some result] =>
    return ⟨← path.text?,← functions.word?,← Verdict.ofJson? result⟩
  | _ => none

def Report.json (report : Report) : Json := .object
  [("files".toList,.array (report.files.map (·.json))),
   ("files_checked".toList,.number report.filesChecked),
   ("functions_checked".toList,.number report.functionsChecked),
   ("errors".toList,.number report.errors),
   ("warnings".toList,.number report.warnings)]

def Report.ofJson? (json : Json) : Option Report := do
  match ← json.fields? ["files".toList, "files_checked".toList, "functions_checked".toList,
      "errors".toList, "warnings".toList] with
  | [some files, some filesChecked, some functionsChecked, some errors, some warnings] =>
    return {
      files := ← files.list? FileReport.ofJson?
      filesChecked := ← filesChecked.word?
      functionsChecked := ← functionsChecked.word?
      errors := ← errors.word?
      warnings := ← warnings.word? }
  | _ => none

end SpecLint

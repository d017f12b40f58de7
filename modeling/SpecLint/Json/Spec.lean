import SpecLint.Json.Record
import SpecLint.Spec.Basic

namespace SpecLint
open Json

def Landmark.json (landmark : Landmark) : Json := .object
  [("name".toList,.string landmark.name),
   ("content".toList,.string landmark.content),
   ("lineNumber".toList,.number landmark.lineNumber),
   ("startOffset".toList,.number landmark.startOffset),
   ("endOffset".toList,.number landmark.endOffset)]

def Landmark.ofJson? (json : Json) : Option Landmark := do
  match ← json.fields? ["name".toList, "content".toList, "lineNumber".toList,
      "startOffset".toList, "endOffset".toList] with
  | [some name, some content, some lineNumber, some startOffset, some endOffset] =>
    return {
      name := ← name.text?
      content := ← content.text?
      lineNumber := ← lineNumber.word?
      startOffset := ← startOffset.word?
      endOffset := ← endOffset.word? }
  | _ => none

def FunctionBlock.json (function : FunctionBlock) : Json := .object
  [("signature".toList,.string function.signature),
   ("name".toList,.string function.name),
   ("inputs".toList,texts function.inputs),
   ("returnType".toList,.string function.returnType),
   ("landmarks".toList,
    .object (function.landmarks.entries.map fun entry => (entry.1,entry.2.json))),
   ("lineNumber".toList,.number function.lineNumber)]

def FunctionBlock.ofJson? (json : Json) : Option FunctionBlock := do
  match ← json.fields? ["signature".toList, "name".toList, "inputs".toList,
      "returnType".toList, "landmarks".toList, "lineNumber".toList] with
  | [some signature, some name, some inputs, some returnType, some landmarks, some lineNumber] =>
    return {
      signature := ← signature.text?
      name := ← name.text?
      inputs := ← inputs.list? text?
      returnType := ← returnType.text?
      landmarks := ← landmarks.dictionary? Landmark.ofJson?
      lineNumber := ← lineNumber.word? }
  | _ => none

def Spec.json (spec : Spec) : Json := .object
  [("functions".toList,.array (spec.functions.map (·.json))),
   ("dataBlocks".toList,.array (spec.dataBlocks.map (·.json))),
   ("constraints".toList,.array (spec.constraints.map (·.json))),
   ("rawText".toList,.string spec.rawText)]

def Spec.ofJson? (json : Json) : Option Spec := do
  match ← json.fields? ["functions".toList, "dataBlocks".toList, "constraints".toList,
      "rawText".toList] with
  | [some functions, some dataBlocks, some constraints, some rawText] =>
    return {
      functions := ← functions.list? FunctionBlock.ofJson?
      dataBlocks := ← dataBlocks.list? Landmark.ofJson?
      constraints := ← constraints.list? Landmark.ofJson?
      rawText := ← rawText.text? }
  | _ => none

end SpecLint

import SpecLint.Json.Printer
import SpecLint.Json.Report
import SpecLint.Json.Spec
import SpecLint.Style

namespace SpecLint
open Text

inductive Format where
  | text
  | json (layout : Json.Layout)
deriving DecidableEq

-- Colour is for text alone.
def Format.write (format : Format) (json : Json) (text : Text) : Text :=
  match format with
  | .text => text
  | .json layout => json.render layout

def Severity.label (color : Bool) : Severity → Text
  | .error => Style.failure.paint color "ERROR".toList
  | .warning => Style.caution.paint color "WARN".toList

def Diagnostic.line (color : Bool) (severity : Severity) (origin : Text) (diagnostic : Diagnostic) :
    Text :=
  severity.label color ++ ' ' :: Style.aside.paint color (origin ++ diagnostic.location) ++
    " - ".toList ++ diagnostic.message ++ " (".toList ++
    Style.aside.paint color diagnostic.code ++ ")\n".toList

def Verdict.lines (color : Bool) (origin : Text) (verdict : Verdict) : Text :=
  verdict.errors.flatMap (·.line color .error origin) ++
    verdict.warnings.flatMap (·.line color .warning origin)

def summary (color : Bool) (errors warnings : Nat) : Text :=
  if errors > 0 then
    Style.failure.paint color (decimal errors) ++ " errors, ".toList ++
      Style.count.paint color (decimal warnings) ++ " warnings\n".toList
  else if warnings > 0 then
    Style.success.paint color "OK".toList ++ ' ' :: Style.count.paint color (decimal warnings) ++
      " warnings\n".toList
  else Style.success.paint color "OK".toList ++ " No issues found\n".toList

def Verdict.text (color : Bool) (verdict : Verdict) : Text :=
  verdict.lines color [] ++ '\n' :: summary color verdict.errors.length verdict.warnings.length

def Verdict.render (format : Format) (color : Bool) (verdict : Verdict) : Text :=
  format.write verdict.json (verdict.text color)

def Report.text (color : Bool) (report : Report) : Text :=
  report.files.flatMap (fun file => file.verdict.lines color (file.path ++ ": ".toList)) ++
    "\nChecked ".toList ++ decimal report.filesChecked ++ " files, ".toList ++
    decimal report.functionsChecked ++ " functions\n".toList ++
    summary color report.errors report.warnings

def Report.render (format : Format) (color : Bool) (report : Report) : Text :=
  format.write report.json (report.text color)

-- A part of a function is listed only when there is something to list.
def partLine (label : Text) (value : Text) : Text :=
  "    ".toList ++ label ++ ": ".toList ++ value ++ ['\n']

def FunctionBlock.text (color : Bool) (function : FunctionBlock) : Text :=
  "  ".toList ++ Style.name.paint color function.name ++ " (line ".toList ++
    decimal function.lineNumber ++ ")\n".toList ++
    (if function.inputs.isEmpty then []
      else partLine "inputs".toList (join ", ".toList function.inputs)) ++
    (if function.returnType.isEmpty then [] else partLine "returns".toList function.returnType) ++
    (if function.landmarks.isEmpty then []
      else partLine "landmarks".toList (join ", ".toList function.landmarks.keys))

def dataLine (color : Bool) (data : Landmark) : Text :=
  "  ".toList ++ Style.name.paint color ((firstWord? data.content).getD "(empty)".toList) ++
    " (line ".toList ++ decimal data.lineNumber ++ ")\n".toList

def constraintLine (constraint : Landmark) : Text :=
  "  line ".toList ++ decimal constraint.lineNumber ++ ": ".toList ++
    firstLine constraint.content ++ ['\n']

def sectionHeading (label : Text) (count : Nat) : Text :=
  label ++ " (".toList ++ decimal count ++ "):\n".toList

def Spec.text (color : Bool) (spec : Spec) : Text :=
  sectionHeading "Functions".toList spec.functions.length ++
    spec.functions.flatMap (·.text color) ++
    (if spec.dataBlocks.isEmpty then []
      else '\n' :: sectionHeading "Data".toList spec.dataBlocks.length ++
        spec.dataBlocks.flatMap (dataLine color)) ++
    (if spec.constraints.isEmpty then []
      else '\n' :: sectionHeading "Constraints".toList spec.constraints.length ++
        spec.constraints.flatMap constraintLine)

def Spec.render (format : Format) (color : Bool) (spec : Spec) : Text :=
  format.write spec.json (spec.text color)

end SpecLint

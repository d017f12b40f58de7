import SpecLint.Proofs.Style
import SpecLint.Proofs.Text.Decimal
import SpecLint.Proofs.Text.Lines
import SpecLint.Render

namespace SpecLint
open Text
open Style (escape Decorates)

-- The texts of a value that its rendering shows.
def Diagnostic.shown (diagnostic : Diagnostic) : List Text :=
  [diagnostic.code,diagnostic.message,diagnostic.location]

def Verdict.shown (verdict : Verdict) : List Text :=
  (verdict.errors ++ verdict.warnings).flatMap (·.shown)

def Report.shown (report : Report) : List Text :=
  report.files.flatMap fun file => file.path :: file.verdict.shown

def FunctionBlock.shown (function : FunctionBlock) : List Text :=
  function.name :: function.returnType :: function.inputs ++ function.landmarks.keys

def Spec.shown (spec : Spec) : List Text :=
  spec.functions.flatMap (·.shown) ++ (spec.dataBlocks ++ spec.constraints).map (·.content)

def Unescaped (texts : List Text) : Prop := ∀ text ∈ texts, escape ∉ text

instance (texts : List Text) : Decidable (Unescaped texts) :=
  inferInstanceAs (Decidable (∀ text ∈ texts, escape ∉ text))

theorem Unescaped.sub {texts others : List Text} (unescaped : Unescaped texts) (sub : others ⊆ texts) :
    Unescaped others := fun text member => unescaped text (sub member)

theorem decimal_unescaped (n : Nat) : escape ∉ decimal n := decimal_avoids (by decide) n

theorem label_decorates (severity : Severity) : Decorates (severity.label true) (severity.label false) := by
  cases severity with
  | error => exact Style.failure.paint_decorates (by decide)
  | warning => exact Style.caution.paint_decorates (by decide)

theorem line_decorates {diagnostic : Diagnostic} (unescaped : Unescaped diagnostic.shown) {origin : Text}
    (free : escape ∉ origin) (severity : Severity) :
    Decorates (diagnostic.line true severity origin) (diagnostic.line false severity origin) := by
  have code := unescaped diagnostic.code (by simp [Diagnostic.shown])
  have message := unescaped diagnostic.message (by simp [Diagnostic.shown])
  have location := unescaped diagnostic.location (by simp [Diagnostic.shown])
  have place : escape ∉ origin ++ diagnostic.location := List.not_mem_append free location
  unfold Diagnostic.line
  apply Decorates.append _ (.plain (by decide))
  apply Decorates.append _ (Style.aside.paint_decorates code)
  apply Decorates.append _ (.plain (by decide))
  apply Decorates.append _ (.plain message)
  apply Decorates.append _ (.plain (by decide))
  apply (label_decorates severity).append
  exact (Style.aside.paint_decorates place).cons (by decide)

theorem lines_decorates {verdict : Verdict} (unescaped : Unescaped verdict.shown) {origin : Text}
    (free : escape ∉ origin) : Decorates (verdict.lines true origin) (verdict.lines false origin) := by
  have each : ∀ diagnostic ∈ verdict.errors ++ verdict.warnings, Unescaped diagnostic.shown :=
    fun diagnostic member => unescaped.sub fun _ shown => List.mem_flatMap.mpr ⟨diagnostic,member,shown⟩
  apply Decorates.append
  · apply Decorates.flatMap
    intro diagnostic member
    exact line_decorates (each diagnostic (List.mem_append_left _ member)) free .error
  · apply Decorates.flatMap
    intro diagnostic member
    exact line_decorates (each diagnostic (List.mem_append_right _ member)) free .warning

theorem summary_decorates (errors warnings : Nat) :
    Decorates (summary true errors warnings) (summary false errors warnings) := by
  have success : Decorates (Style.success.paint true "OK".toList) (Style.success.paint false "OK".toList) :=
    Style.success.paint_decorates (by decide)
  unfold summary
  split
  · apply Decorates.append _ (.plain (by decide))
    apply Decorates.append _ (Style.count.paint_decorates (decimal_unescaped warnings))
    exact (Style.failure.paint_decorates (decimal_unescaped errors)).append (.plain (by decide))
  · split
    · apply Decorates.append _ (.plain (by decide))
      exact success.append ((Style.count.paint_decorates (decimal_unescaped warnings)).cons (by decide))
    · exact success.append (.plain (by decide))

theorem verdict_decorates {verdict : Verdict} (unescaped : Unescaped verdict.shown) :
    Decorates (verdict.text true) (verdict.text false) := by
  apply (lines_decorates unescaped List.not_mem_nil).append
  exact (summary_decorates _ _).cons (by decide)

theorem report_decorates {report : Report} (unescaped : Unescaped report.shown) :
    Decorates (report.text true) (report.text false) := by
  unfold Report.text
  apply Decorates.append _ (summary_decorates _ _)
  apply Decorates.append _ (.plain (by decide))
  apply Decorates.append _ (.plain (decimal_unescaped _))
  apply Decorates.append _ (.plain (by decide))
  apply Decorates.append _ (.plain (decimal_unescaped _))
  apply Decorates.append _ (.plain (by decide))
  apply Decorates.flatMap
  intro file member
  have shown : file.path :: file.verdict.shown ⊆ report.shown :=
    fun _ inside => List.mem_flatMap.mpr ⟨file,member,inside⟩
  have path := unescaped file.path (shown List.mem_cons_self)
  have rest : Unescaped file.verdict.shown := unescaped.sub fun _ inside => shown (List.mem_cons_of_mem _ inside)
  exact lines_decorates rest (List.not_mem_append path (by decide))

theorem part_decorates {absent : Bool} {label value : Text} (free : escape ∉ label) (shown : escape ∉ value) :
    Decorates (if absent then [] else partLine label value) (if absent then [] else partLine label value) := by
  split
  · exact .plain List.not_mem_nil
  · apply Decorates.append _ (.plain (by decide))
    apply Decorates.append _ (.plain shown)
    apply Decorates.append _ (.plain (by decide))
    exact .append (.plain (by decide)) (.plain free)

theorem function_decorates {function : FunctionBlock} (unescaped : Unescaped function.shown) :
    Decorates (function.text true) (function.text false) := by
  have name := unescaped function.name (by simp [FunctionBlock.shown])
  have returnType := unescaped function.returnType (by simp [FunctionBlock.shown])
  have inputs : Unescaped function.inputs := unescaped.sub fun text member => by simp [FunctionBlock.shown,member]
  have landmarks : Unescaped function.landmarks.keys :=
    unescaped.sub fun text member => by simp [FunctionBlock.shown,member]
  unfold FunctionBlock.text
  apply Decorates.append _ (part_decorates (by decide) (join_avoids (by decide) landmarks))
  apply Decorates.append _ (part_decorates (by decide) returnType)
  apply Decorates.append _ (part_decorates (by decide) (join_avoids (by decide) inputs))
  apply Decorates.append _ (.plain (by decide))
  apply Decorates.append _ (.plain (decimal_unescaped _))
  apply Decorates.append _ (.plain (by decide))
  exact .append (.plain (by decide)) (Style.name.paint_decorates name)

theorem dataLine_decorates {data : Landmark} (free : escape ∉ data.content) :
    Decorates (dataLine true data) (dataLine false data) := by
  have name : escape ∉ (firstWord? data.content).getD "(empty)".toList := by
    cases first : firstWord? data.content with
    | none => decide
    | some word => exact fun member => free ((firstWord?_sublist first).subset member)
  unfold dataLine
  apply Decorates.append _ (.plain (by decide))
  apply Decorates.append _ (.plain (decimal_unescaped _))
  apply Decorates.append _ (.plain (by decide))
  exact .append (.plain (by decide)) (Style.name.paint_decorates name)

theorem constraintLine_decorates {constraint : Landmark} (free : escape ∉ constraint.content) :
    Decorates (constraintLine constraint) (constraintLine constraint) := by
  have line : escape ∉ firstLine constraint.content :=
    fun member => free ((firstLine_sublist constraint.content).subset member)
  unfold constraintLine
  apply Decorates.append _ (.plain (by decide))
  apply Decorates.append _ (.plain line)
  apply Decorates.append _ (.plain (by decide))
  exact .append (.plain (by decide)) (.plain (decimal_unescaped _))

theorem heading_decorates {label : Text} (free : escape ∉ label) (count : Nat) :
    Decorates (sectionHeading label count) (sectionHeading label count) := by
  apply Decorates.append _ (.plain (by decide))
  apply Decorates.append _ (.plain (decimal_unescaped count))
  exact .append (.plain free) (.plain (by decide))

-- A section with nothing in it is left out, whatever the colour.
theorem section_decorates {label : Text} (free : escape ∉ label) {values : List α} {coloured plain : α → Text}
    (each : ∀ value ∈ values, Decorates (coloured value) (plain value)) :
    Decorates (if values.isEmpty then [] else
        '\n' :: sectionHeading label values.length ++ values.flatMap coloured)
      (if values.isEmpty then [] else
        '\n' :: sectionHeading label values.length ++ values.flatMap plain) := by
  split
  · exact .plain List.not_mem_nil
  · apply Decorates.append _ (.flatMap each)
    exact (heading_decorates free _).cons (by decide)

theorem spec_decorates {spec : Spec} (unescaped : Unescaped spec.shown) :
    Decorates (spec.text true) (spec.text false) := by
  have contents : ∀ block ∈ spec.dataBlocks ++ spec.constraints, escape ∉ block.content :=
    fun block member => unescaped _ (List.mem_append_right _ (List.mem_map_of_mem member))
  unfold Spec.text
  apply Decorates.append
  · apply Decorates.append
    · apply (heading_decorates (by decide) _).append
      apply Decorates.flatMap
      intro function member
      apply function_decorates
      apply unescaped.sub
      intro text shown
      exact List.mem_append_left _ (List.mem_flatMap.mpr ⟨function,member,shown⟩)
    · apply section_decorates (by decide)
      intro data member
      exact dataLine_decorates (contents data (List.mem_append_left _ member))
  · apply section_decorates (by decide)
    intro constraint member
    exact constraintLine_decorates (contents constraint (List.mem_append_right _ member))

-- Colour only decorates: a reader who drops the sequences sees the plain rendering, and JSON has none.
theorem render_colour (verdict : Verdict) (report : Report) (spec : Spec) :
    (Unescaped verdict.shown → Style.strip (verdict.render .text true) = verdict.render .text false) ∧
    (Unescaped report.shown → Style.strip (report.render .text true) = report.render .text false) ∧
    (Unescaped spec.shown → Style.strip (spec.render .text true) = spec.render .text false) ∧
    ∀ layout, verdict.render (.json layout) true = verdict.render (.json layout) false ∧
      report.render (.json layout) true = report.render (.json layout) false ∧
      spec.render (.json layout) true = spec.render (.json layout) false := by
  refine ⟨?_,?_,?_,?_⟩
  · exact fun unescaped => (verdict_decorates unescaped).strip
  · exact fun unescaped => (report_decorates unescaped).strip
  · exact fun unescaped => (spec_decorates unescaped).strip
  · exact fun _ => ⟨rfl,rfl,rfl⟩

-- What follows the escapes of a style may look like the rest of a sequence.
theorem render_colour_brackets :
    let verdict : Verdict := ⟨false,[⟨"[0m".toList,";m".toList,"31m".toList⟩],[]⟩
    let report := Report.ofFiles [⟨"[2".toList,1,verdict⟩]
    let function : FunctionBlock := ⟨[],"0m".toList,["[m".toList],"1;m".toList,.empty,1⟩
    let spec : Spec := ⟨[function],[⟨[],"m [".toList,2,0,0⟩],[],[]⟩
    Unescaped verdict.shown ∧ Unescaped report.shown ∧ Unescaped spec.shown ∧
      Style.strip (verdict.render .text true) = verdict.render .text false ∧
      verdict.render .text false = "ERROR 31m - ;m ([0m)\n\n1 errors, 0 warnings\n".toList ∧
      Style.strip (report.render .text true) = report.render .text false ∧
      Style.strip (spec.render .text true) = spec.render .text false := by
  intro verdict report function spec
  have judged : Unescaped verdict.shown := by decide +kernel
  have reported : Unescaped report.shown := by decide +kernel
  have parsed : Unescaped spec.shown := by decide +kernel
  obtain ⟨first,second,third,_⟩ := render_colour verdict report spec
  exact ⟨judged,reported,parsed,first judged,by decide +kernel,second reported,third parsed⟩

end SpecLint

import LiveEditor.Json.Writer
import LiveEditor.Style.Runs
import LiveEditor.Text.Statistics

/-! # Reports of highlighting

A report tells what a file is called, how it was highlighted, its counts, and
its runs with their styles.  Of a style only what it sets is told.
-/

namespace LiveEditor.CommandLine

structure Report where
  file : Text
  language : Text
  statistics : Statistics
  runs : List StyledRange

def attributeField {α : Type} (name : String) (toJson : α → Json)
    (setting : Option α) : List (Text × Json) :=
  (setting.map fun value => (name.toList, toJson value)).toList

def colorValue (color : Color) : Json :=
  .string color.toHex.toList

def styleValue (style : Style) : Json :=
  .object <|
    attributeField "foreground" colorValue style.foreground ++
      attributeField "background" colorValue style.background ++
      attributeField "weight" (fun weight => .string weight.name.toList)
        style.weight ++
      attributeField "italic" .boolean style.italic ++
      attributeField "underline" .boolean style.underline ++
      attributeField "strikethrough" .boolean style.strikethrough

def runValue (run : StyledRange) : Json :=
  .object
    [ ("start".toList, .ofNat run.span.start),
      ("end".toList, .ofNat run.span.stop),
      ("style".toList, styleValue run.style) ]

def Report.value (report : Report) : Json :=
  .object
    [ ("file".toList, .string report.file),
      ("language".toList, .string report.language),
      ("chars".toList, .ofNat report.statistics.characters),
      ("words".toList, .ofNat report.statistics.words),
      ("lines".toList, .ofNat report.statistics.lines),
      ("runs".toList, .array (report.runs.map runValue)) ]

def Report.write (report : Report) : Text :=
  report.value.pretty

end LiveEditor.CommandLine

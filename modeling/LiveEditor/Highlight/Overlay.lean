import LiveEditor.ErrorLines
import LiveEditor.Search.Query
import LiveEditor.Style.Palette
import LiveEditor.Style.StyledText
import LiveEditor.Text.Lines

/-! # Overlays

Search matches are laid over a highlighted text, and error lines over both.
The text and the ranges below stay as they are.
-/

namespace LiveEditor.StyledText

def searchRanges (query : Query) (text : Text) : List StyledRange :=
  if query.isBlank then []
  else (query.allMatches text).map fun span => ⟨span, Palette.searchMatch⟩

def errorRanges (errors : ErrorLines) (text : Text) : List StyledRange :=
  (text.lineSpansAt errors.lines).map fun span => ⟨span, Palette.errorLine⟩

def overlaySearch (base : StyledText) (query : Query) : StyledText :=
  base.withStyles (searchRanges query base.text)

def overlayErrors (base : StyledText) (errors : ErrorLines) : StyledText :=
  base.withStyles (errorRanges errors base.text)

def compose (base : StyledText) (query : Query) (errors : ErrorLines) :
    StyledText :=
  (base.overlaySearch query).overlayErrors errors

end LiveEditor.StyledText

import LiveEditor.Style.Attributes

/-! # The palette

The styles that highlighting, searching and error marking use.
-/

namespace LiveEditor.Palette

def inked (packed : UInt32) : Style :=
  { foreground := some (.ofArgb packed) }

/-! ## Built-in highlighting -/

def comment : Style := inked 0xFF6A9955
def string : Style := inked 0xFFD69D85
def number : Style := inked 0xFFB5CEA8
def keyword : Style := { inked 0xFF569CD6 with weight := some .semibold }
def typeName : Style := inked 0xFF4EC9B0

/-! ## Highlighting by a grammar file -/

def grammarKeyword : Style := { inked 0xFF1565C0 with weight := some .bold }
def grammarType : Style := inked 0xFF4EC9B0
def grammarComment : Style := { inked 0xFF6A9955 with italic := some true }
def grammarString : Style := inked 0xFFD69D85

/-! ## Overlays -/

def searchMatch : Style :=
  { inked 0xFF000000 with background := some (.ofArgb 0xFFFFFF00) }

def errorLine : Style :=
  { background := some (.ofArgb 0x33FF0000), underline := some true }

end LiveEditor.Palette

import LiveEditor.Highlight.Grammar

/-! # Bundled grammars

The grammars that come with the editor, by the names of their resources.
-/

namespace LiveEditor.Grammar

def python : Grammar where
  keywords := wordSet <|
    [ "and", "as", "assert", "async", "await", "break", "class", "continue", "def",
      "del", "elif", "else", "except", "finally", "for", "from", "global", "if",
      "import", "in", "is", "lambda", "nonlocal", "not", "or", "pass", "raise",
      "return", "try", "while", "with", "yield", "True", "False", "None" ].map String.toList
  types := wordSet <|
    [ "int", "float", "str", "bool", "list", "dict", "tuple", "set", "frozenset",
      "bytes", "bytearray", "complex", "object" ].map String.toList
  comments := some { line := some ['#'] }
  stringDelimiter := some ['"']
  keywordSet := isWordSet_wordSet _
  typeSet := isWordSet_wordSet _

def java : Grammar where
  keywords := wordSet <|
    [ "abstract", "assert", "break", "case", "catch", "class", "const", "continue",
      "default", "do", "else", "enum", "extends", "final", "finally", "for", "goto",
      "if", "implements", "import", "instanceof", "interface", "native", "new",
      "package", "private", "protected", "public", "return", "static", "strictfp",
      "super", "switch", "synchronized", "this", "throw", "throws", "transient", "try",
      "void", "volatile", "while", "var", "record", "true", "false", "null" ].map String.toList
  types := wordSet <|
    [ "boolean", "byte", "char", "double", "float", "int", "long", "short", "String",
      "Integer", "Long", "Double", "Float", "Boolean", "Object", "List", "ArrayList",
      "Map", "HashMap", "Set", "HashSet", "Optional" ].map String.toList
  comments := some
    { line := some ['/', '/'], blockStart := some ['/', '*'],
      blockEnd := some ['*', '/'] }
  stringDelimiter := some ['"']
  keywordSet := isWordSet_wordSet _
  typeSet := isWordSet_wordSet _

def bundled : List (Text × Grammar) :=
  [("python.json".toList, python), ("java.json".toList, java)]

def bundled? (name : Text) : Option Grammar :=
  (bundled.find? fun entry => entry.1 == name).map Prod.snd

end LiveEditor.Grammar

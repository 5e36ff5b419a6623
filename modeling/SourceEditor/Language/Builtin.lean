import SourceEditor.Highlight.RuleSet

/-!
# Built-in rule sets

The rules of Kotlin, which are part of the editor, and those of the rule documents that come with
it.
-/

namespace SourceEditor

/-- The rules of Kotlin. -/
def kotlinRules : RuleSet where
  keywords := Text.ofStrings
    ["as", "catch", "class", "data", "do", "else", "enum", "false", "finally", "for", "fun", "if",
     "import", "in", "interface", "is", "null", "object", "package", "return", "sealed", "super",
     "this", "throw", "true", "try", "typealias", "val", "var", "when", "while"]
  types := Text.ofStrings
    ["Any", "Boolean", "Char", "Double", "Float", "Int", "List", "Long", "Map", "Set", "Short",
     "String", "Unit"]
  lineComment := some "//"
  blockComment := some ("/*", "*/")
  stringQuote := some "\""

/-- The rules of Python. -/
def pythonRules : RuleSet where
  keywords := Text.ofStrings
    ["False", "None", "True", "and", "as", "assert", "async", "await", "break", "class",
     "continue", "def", "del", "elif", "else", "except", "finally", "for", "from", "global", "if",
     "import", "in", "is", "lambda", "nonlocal", "not", "or", "pass", "raise", "return", "try",
     "while", "with", "yield"]
  types := Text.ofStrings
    ["bool", "bytes", "dict", "float", "int", "list", "object", "set", "str", "tuple"]
  lineComment := some "#"
  stringQuote := some "\""

/-- The rules of Java. -/
def javaRules : RuleSet where
  keywords := Text.ofStrings
    ["abstract", "break", "case", "catch", "class", "continue", "default", "do", "else", "enum",
     "extends", "false", "final", "finally", "for", "if", "implements", "import", "instanceof",
     "interface", "new", "null", "package", "private", "protected", "public", "return", "static",
     "super", "switch", "this", "throw", "throws", "true", "try", "void", "while"]
  types := Text.ofStrings
    ["List", "Map", "Object", "String", "boolean", "byte", "char", "double", "float", "int",
     "long", "short"]
  lineComment := some "//"
  blockComment := some ("/*", "*/")
  stringQuote := some "\""

end SourceEditor

import SourceEditor.Language.Builtin

/-!
# Languages

The languages that the editor knows: what they are called, where their rules are, and what files of
them are called. The first one is built in, and it is the language of every name that is unknown.
-/

namespace SourceEditor

/-- A language of the editor. -/
structure Language where
  /-- The name in the list of languages. -/
  name : Text
  /-- The name of the rule document; a language that is built in has none. -/
  rulesFile : Option Text
  /-- The rules that the editor comes with. -/
  rules : RuleSet
  /-- The file name that documents are compiled under. -/
  compileFilename : Text
  /-- The file name that is offered for a new document. -/
  saveSuggestion : Text
  /-- The kinds of files that a file dialog offers. -/
  fileFilter : Text
  deriving DecidableEq, Repr

namespace Language

/-- The language that is built in. -/
def kotlin : Language where
  name := "Kotlin (built-in)"
  rulesFile := none
  rules := kotlinRules
  compileFilename := "Main.kt"
  saveSuggestion := "untitled.kt"
  fileFilter := "Kotlin Files (*.kt *.kts);;Text Files (*.txt);;All Files (*)"

/-- The language Python. -/
def python : Language where
  name := "Python (rules/python.json)"
  rulesFile := some "python.json"
  rules := pythonRules
  compileFilename := "script.py"
  saveSuggestion := "untitled.py"
  fileFilter := "Python Files (*.py);;Text Files (*.txt);;All Files (*)"

/-- The language Java. -/
def java : Language where
  name := "Java (rules/java.json)"
  rulesFile := some "java.json"
  rules := javaRules
  compileFilename := "Main.java"
  saveSuggestion := "Untitled.java"
  fileFilter := "Java Files (*.java);;Text Files (*.txt);;All Files (*)"

/-- The list of languages. -/
def all : List Language :=
  [kotlin, python, java]

/-- The language of a name in the list. -/
def ofName? (name : Text) : Option Language :=
  all.find? fun l => l.name = name

/-- The language of a name. -/
def ofName (name : Text) : Language :=
  (ofName? name).getD kotlin

/-- Whether a language is built in, and read by the scanner rather than by rule passes. -/
def isBuiltin (l : Language) : Bool :=
  l.rulesFile.isNone

end Language

end SourceEditor

import SourceEditor.Language.RuleDocument

/-!
# Rule files

The rule documents that come with the editor, and what loading them gives.

* `RuleFiles` keeps some files together with the rules of each language, as loading them gives them.
* `RuleFiles.bundled` is how the editor comes.
-/

namespace SourceEditor

/-- Some rule documents in a directory. Loading them never breaks off: it gives every language of
the list its rules, or none. -/
structure RuleFiles where
  /-- The files. -/
  files : FileSystem
  /-- The directory of the documents. -/
  directory : Path
  /-- The rules of a language. -/
  rulesOf : Language → Option RuleSet
  /-- They are the ones that loading gives. -/
  loads : ∀ l ∈ Language.all, l.loadRules files directory = .ok (rulesOf l)

namespace RuleFiles

/-- The rule document of Python. -/
def pythonDocument : Text :=
  Text.joined '\n' (Text.ofStrings
  ["\x7b",
   "  \"keywords\": [",
   "    \"False\", \"None\", \"True\", \"and\", \"as\", \"assert\", \"async\", \"await\", " ++
     "\"break\", \"class\",",
   "    \"continue\", \"def\", \"del\", \"elif\", \"else\", \"except\", \"finally\", " ++
     "\"for\", \"from\", \"global\",",
   "    \"if\", \"import\", \"in\", \"is\", \"lambda\", \"nonlocal\", \"not\", \"or\", " ++
     "\"pass\", \"raise\",",
   "    \"return\", \"try\", \"while\", \"with\", \"yield\"",
   "  ],",
   "  \"types\": [\"int\", \"str\", \"float\", \"bool\", \"bytes\", \"list\", \"dict\", " ++
     "\"set\", \"tuple\", \"object\"],",
   "  \"comments\": \x7b\"line\": \"#\"\x7d,",
   "  \"strings\": \"\\\"\"",
   "\x7d",
   ""])

/-- The rule document of Java. -/
def javaDocument : Text :=
  Text.joined '\n' (Text.ofStrings
  ["\x7b",
   "  \"keywords\": [",
   "    \"abstract\", \"break\", \"case\", \"catch\", \"class\", \"continue\", \"default\", " ++
     "\"do\", \"else\", \"enum\",",
   "    \"extends\", \"final\", \"finally\", \"for\", \"if\", \"implements\", \"import\", " ++
     "\"instanceof\", \"interface\",",
   "    \"new\", \"package\", \"private\", \"protected\", \"public\", \"return\", " ++
     "\"static\", \"super\", \"switch\",",
   "    \"this\", \"throw\", \"throws\", \"try\", \"void\", \"while\", \"null\", \"true\", " ++
     "\"false\"",
   "  ],",
   "  \"types\": [\"int\", \"long\", \"short\", \"byte\", \"char\", \"boolean\", \"float\", " ++
     "\"double\", \"String\", \"Object\", \"List\", \"Map\"],",
   "  \"comments\": \x7b\"line\": \"//\", \"blockStart\": \"/*\", \"blockEnd\": \"*/\"\x7d,",
   "  \"strings\": \"\\\"\"",
   "\x7d",
   ""])

/-- The directory of the rule documents. -/
def bundledDirectory : Path :=
  ⟨.relative, ["rules"]⟩

/-- The files that the editor comes with. -/
def bundledFiles : FileSystem :=
  (FileSystem.empty.plant
    (FileSystem.empty.workingDirectory ++ [.ofText "rules", .ofText "python.json"])
    (.file (Utf8.encode pythonDocument))).plant
    (FileSystem.empty.workingDirectory ++ [.ofText "rules", .ofText "java.json"])
    (.file (Utf8.encode javaDocument))

/-- The rules that the editor knows of a language are what its document says. -/
theorem loadRules_bundled :
    ∀ l ∈ Language.all, l.loadRules bundledFiles bundledDirectory = .ok (some l.rules) := by
  have hloads : ∀ l ∈ Language.all,
      (l.loadRules bundledFiles bundledDirectory).toOption = some (some l.rules) := by
    decide +kernel
  intro l hl
  have hrules := hloads l hl
  cases hload : l.loadRules bundledFiles bundledDirectory with
  | ok rules =>
    rw [hload] at hrules
    exact congrArg Except.ok (Option.some.inj hrules)
  | error e => simp [hload, Except.toOption] at hrules

/-- The rule documents as the editor comes with them: every language has its rules. -/
def bundled : RuleFiles where
  files := bundledFiles
  directory := bundledDirectory
  rulesOf l := some l.rules
  loads := loadRules_bundled

end RuleFiles

end SourceEditor

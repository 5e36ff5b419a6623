import SourceEditor.Highlight.Composition
import SourceEditor.Language.Spec
import SourceEditor.Settings.Store

/-!
# Saved sessions

What a window restores from its last run: the text, the path, the language and the find bar.
-/

namespace SourceEditor

/-- What a window restores from its last run. -/
structure SavedSession where
  /-- The text of the editor, if one was saved. -/
  editorText : Option Text
  /-- The path of the document; a new document has the empty one. -/
  currentPath : Text
  /-- The language. -/
  language : Language
  /-- What the find bar asks for. -/
  find : Query
  deriving DecidableEq, Repr

namespace SavedSession

/-- The text of a value that is one. -/
def textOf? : Json.Value → Option Text
  | .string s => some s
  | _ => none

/-- The session in some settings. -/
def load (s : Settings) : SavedSession where
  editorText := textOf? (s.get .editorText)
  currentPath := (s.get .currentPath).shownOr []
  language := .ofName ((s.get .language).shownOr [])
  find := ⟨(s.get .findText).shownOr [], Settings.truthOf (s.get .findCase) false,
    Settings.truthOf (s.get .findWholeWord) false⟩

/-- A session as values of any kind. -/
structure Draft where
  /-- The text of the editor; `null` leaves the saved one. -/
  editorText : Json.Value
  /-- The path of the document. -/
  currentPath : Json.Value
  /-- The name of the language. -/
  language : Json.Value
  /-- The text to find. -/
  findText : Json.Value
  /-- Whether case counts in a search. -/
  findCase : Json.Value
  /-- Whether only whole words match in a search. -/
  findWholeWord : Json.Value

/-- A session as values. -/
def draft (s : SavedSession) : Draft where
  editorText := (s.editorText.map .string).getD .null
  currentPath := .string s.currentPath
  language := .string s.language.name
  findText := .string s.find.text
  findCase := .bool s.find.caseSensitive
  findWholeWord := .bool s.find.wholeWord

/-- Writes a session to the settings. -/
def Draft.save (d : Draft) (s : Settings) : Settings :=
  let s := match d.editorText with
    | .null => s
    | text => s.set .editorText text
  let s := s.set .currentPath (.string (d.currentPath.shownOr []))
  let s := s.set .language (.string (Language.ofName ((textOf? d.language).getD [])).name)
  let s := s.set .findText (.string (d.findText.shownOr []))
  let s := s.set .findCase (.bool d.findCase.isPresent)
  s.set .findWholeWord (.bool d.findWholeWord.isPresent)

/-- Writes a session to the settings. -/
def save (session : SavedSession) (s : Settings) : Settings :=
  session.draft.save s

end SavedSession

end SourceEditor

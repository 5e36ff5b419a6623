import SourceEditor.Window.Compiling
import SourceEditor.Window.Documents
import SourceEditor.Window.Finding
import SourceEditor.Window.Lifecycle

/-!
# Actions

Everything that can happen to a window. An action may break off, but what it did by then stays done.
-/

namespace SourceEditor

/-- Something that happens to a window. -/
inductive Action
  /-- The editor takes a text. -/
  | setText (t : Text)
  /-- The user selects characters. -/
  | select (anchor caret : Int)
  /-- The user fills in the find bar. -/
  | setFind (q : Query)
  /-- The user fills in the replacement. -/
  | setReplacement (t : Text)
  /-- The user looks for the next match. -/
  | findNext
  /-- The user replaces a match. -/
  | replaceOne
  /-- The user replaces every match. -/
  | replaceEvery
  /-- The user chooses a language from the list. -/
  | chooseLanguage (name : Text)
  /-- The list of languages tells of a name. -/
  | setLanguage (name : Text)
  /-- The time to paint the marks has come. -/
  | timer
  /-- The user begins a new document. -/
  | newDocument
  /-- The user opens a document. -/
  | openDocument (chosen : Text)
  /-- The user saves the document. -/
  | saveDocument (chosen : Text)
  /-- The user saves the document under a name. -/
  | saveDocumentAs (chosen : Text)
  /-- The user connects to the bridge. -/
  | connect
  /-- The user compiles the document. -/
  | compile
  /-- The background comes to run. -/
  | runTasks
  /-- The user opens the preferences. -/
  | openPreferences (edits : PreferencesDialog.Edits)
  /-- The user resets the window. -/
  | reset
  /-- The colour of windows changes. -/
  | recolour (colour : Rgb) (event : Window.ChangeEvent)
  /-- The user closes the window. -/
  | close

namespace Window

/-- Does what an action asks for. -/
def perform (w : Window) : Action → Result
  | .setText t => w.setText t
  | .select anchor caret => w.select anchor caret
  | .setFind q => (w.setFind q, none)
  | .setReplacement t => ({ w with replacement := t }, none)
  | .findNext => (w.findNext, none)
  | .replaceOne => w.replaceOne
  | .replaceEvery => w.replaceEvery
  | .chooseLanguage name => (w.chooseLanguage name, none)
  | .setLanguage name => (w.setLanguage name, none)
  | .timer => (w.timer, none)
  | .newDocument => w.newDocument
  | .openDocument chosen => w.openDocument chosen
  | .saveDocument chosen => w.saveDocument chosen
  | .saveDocumentAs chosen => w.saveDocumentAs chosen
  | .connect => (w.connect, none)
  | .compile => (w.compile, none)
  | .runTasks => (w.runTasks, none)
  | .openPreferences edits => w.openPreferences edits
  | .reset => w.reset
  | .recolour colour event => (w.recolour colour event, none)
  | .close => (w.close, none)

/-- One step of a window: it forgets what it told before and performs an action. -/
def step (w : Window) (a : Action) : Result :=
  perform { w with notices := [] } a

/-- The window after some actions. -/
def run (w : Window) (actions : List Action) : Window :=
  actions.foldl (fun w a => (w.step a).1) w

end Window

end SourceEditor

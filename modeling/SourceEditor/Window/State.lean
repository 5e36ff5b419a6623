import SourceEditor.Bridge.Worker
import SourceEditor.Editor.Surface
import SourceEditor.Language.RuleFiles
import SourceEditor.Log.Markup
import SourceEditor.Log.StatusChip
import SourceEditor.Settings.Store
import SourceEditor.Text.Statistics
import SourceEditor.Theme.Manager
import SourceEditor.Window.Font

/-!
# Windows

The main window: an editor with a find bar, a list of languages, a compile log and a status line.
What it shows of its session and its text is kept as it was last shown, and is brought up to date
by `Window.showSession` and `Window.textChanged`.

* `Desktop` is what a window stands in and leaves behind.
* `Window.followSession` lets a window hear what its session announces.
* `Window.refreshMarks` paints the search matches and error lines; `Window.scheduleMarks` has that
  done a little later, since painting them at every key would be slow.
-/

namespace SourceEditor

/-- What a window stands in. -/
structure Desktop where
  /-- What the editor remembers. -/
  settings : Settings := {}
  /-- The files. -/
  files : FileSystem := .empty
  /-- The way to the bridge. -/
  transport : Bridge.Transport := {}
  /-- The colour of windows. -/
  colour : Rgb := ⟨0, 0, 0⟩
  /-- The families of the fonts that are installed. -/
  fonts : List Text := []
  /-- The accounts of the machine. -/
  accounts : Accounts := {}
  /-- The rule documents of the editor. -/
  ruleFiles : RuleFiles := .bundled

/-- A part of the layout of a window. -/
inductive LayoutPart
  /-- Where the window is. -/
  | geometry
  /-- How its parts are arranged. -/
  | arrangement
  deriving DecidableEq, Repr

/-- Something that a window does before its user's eyes. -/
inductive Notice
  /-- It shows a message in the status line. -/
  | message (text : Text)
  /-- It opens a file dialog at a path, which offers some kinds of files. -/
  | dialog (title start filter : Text)
  /-- It opens a box with a text. -/
  | box (title text : Text)
  /-- It restores a part of its layout. -/
  | restored (part : LayoutPart) (value : Json.Value)

/-- What a window does when a thread that it started has finished. -/
inductive FinishedSlot
  /-- It lets go of the thread of the health check. -/
  | health
  /-- It lets go of the thread of the compilation. -/
  | compile
  deriving DecidableEq, Repr

/-- A thread in the background of a window, which runs a worker and then goes on until it is told to
quit. -/
structure Thread where
  /-- What tells the thread from all others of its window. -/
  id : Nat
  /-- What the thread runs. -/
  worker : Bridge.Worker
  /-- The signals of the worker that tell the thread to quit. -/
  doneSignals : List Bridge.Signal.Kind
  /-- What is to be done when the thread has finished. -/
  onFinished : FinishedSlot
  /-- Whether the thread was told to quit. -/
  quits : Bool := false
  deriving DecidableEq, Repr

/-- The background of a window. -/
structure Background where
  /-- The threads that were started and have not finished, in the order of their start. -/
  tasks : List Thread := []
  /-- How many threads were ever started. -/
  threadCount : Nat := 0
  /-- The thread of the health check, as long as the window holds on to it. -/
  healthThread : Option Nat := none
  /-- The thread of the compilation, as long as the window holds on to it. -/
  compileThread : Option Nat := none
  deriving DecidableEq, Repr

/-- The main window. -/
structure Window extends Desktop, Background where
  /-- The title. -/
  title : Text := "KtEdit"
  /-- The editor. -/
  surface : Surface := {}
  /-- What the find bar asks for. -/
  find : Query := {}
  /-- What the find bar replaces matches with. -/
  replacement : Text := []
  /-- The language of the document. -/
  language : Language := .kotlin
  /-- The rules of the language, unless they could not be read. -/
  rules : Option RuleSet := some kotlinRules
  /-- The name that the list of languages shows. -/
  listedName : Text := Language.kotlin.name
  /-- The path of the document, unless it is new. -/
  path : Option Path := none
  /-- The counts below the document. -/
  statistics : Text := []
  /-- The words and the style sheet of the status chip. -/
  chip : Text × Text := ([], [])
  /-- The words and the style sheet of the line below the compile log. -/
  result : Text × Text := ([], [])
  /-- The compile log, a piece of markup for each line. -/
  log : Array Text := #[]
  /-- The colour of errors in the compile log. -/
  errorColour : Text := "#c62828"
  /-- Whether the window offers to compile. -/
  compileEnabled : Bool := true
  /-- Whether the marks wait to be painted. -/
  marksPending : Bool := false
  /-- The session with the compiler. -/
  session : Session := {}
  /-- The client of the bridge. -/
  client : Bridge.Client := {}
  /-- The theme. -/
  themes : ThemeManager
  /-- The font size of the window. -/
  windowPoints : Int := 13
  /-- The font size of the editor. -/
  editorPoints : Int := 12
  /-- The font of the editor and the compile log. -/
  font : Font
  /-- What the window did since the user's last action. -/
  notices : List Notice := []

/-- Why a window broke off what its user asked for. -/
inductive Window.Failure
  /-- A selection begins or ends before the beginning of the text. -/
  | outOfRange
  /-- The home directory of an account could not be found. -/
  | home (e : Path.HomeError)
  /-- A path is none that a file can have. -/
  | file (e : FileError)
  /-- The editor cannot hold a text. -/
  | text (e : Utf8.Refusal)
  /-- A theme is too deep to be read. -/
  | theme (e : Json.TooDeep)
  deriving DecidableEq, Repr

/-- What is left of a window after an action, and why the action broke off if it did. -/
abbrev Window.Result := Window × Option Window.Failure

namespace Window

/-- Goes on with a window unless what was asked of it broke off. -/
def Result.andThen (r : Result) (next : Window → Result) : Result :=
  match r with
  | (w, none) => next w
  | (w, some e) => (w, some e)

/-- Does something before the user's eyes. -/
def tell (w : Window) (n : Notice) : Window :=
  { w with notices := w.notices ++ [n] }

/-- Shows a message in the status line. -/
def say (w : Window) (message : Text) : Window :=
  w.tell (.message message)

/-- The last message shown since the user's last action, if there was one. -/
def lastMessage? (w : Window) : Option Text :=
  (w.notices.filterMap fun
    | .message t => some t
    | _ => none).getLast?

/-- The file dialogs opened since the user's last action: the title, where they began, and the kinds
of files they offered. -/
def dialogs (w : Window) : List (Text × Text × Text) :=
  w.notices.filterMap fun
    | .dialog title start filter => some (title, start, filter)
    | _ => none

/-- The boxes shown since the user's last action: the title and the text. -/
def boxes (w : Window) : List (Text × Text) :=
  w.notices.filterMap fun
    | .box title t => some (title, t)
    | _ => none

/-- The parts of the layout restored since the user's last action, and from what. -/
def restorations (w : Window) : List (LayoutPart × Json.Value) :=
  w.notices.filterMap fun
    | .restored part value => some (part, value)
    | _ => none

/-- The text of the editor. -/
def text (w : Window) : Text :=
  w.surface.text

/-- What classifies the document. -/
def highlighter (w : Window) : Highlighter :=
  ⟨w.rules, w.language.isBuiltin⟩

/-- The styling of the document as it should be painted. -/
def styling (w : Window) : StyledText :=
  w.highlighter.compose w.text w.find (w.session.errorLines.map Int.ofNat)

/-- Paints the marks. -/
def refreshMarks (w : Window) : Window :=
  { w with surface := w.surface.paintMarks w.styling }

/-- Has the marks painted a little later. -/
def scheduleMarks (w : Window) : Window :=
  { w with marksPending := true }

/-- Paints the marks if they wait to be painted. -/
def timer (w : Window) : Window :=
  if w.marksPending then refreshMarks { w with marksPending := false } else w

/-- Shows the counts of the document, and has the marks painted later. -/
def textChanged (w : Window) : Window :=
  scheduleMarks { w with statistics := (Statistics.ofText w.text).label }

/-- Takes another buffer into the editor. -/
def setBuffer (w : Window) (b : Buffer) : Window :=
  let changed : Window := { w with surface := w.surface.setBuffer b }
  if b.text = w.text then changed else changed.textChanged

/-- Takes the buffer that an edit makes, unless the editor cannot hold it. -/
def edit (w : Window) : Except Utf8.Refusal Buffer → Result
  | .ok b => (w.setBuffer b, none)
  | .error e => (w, some (.text e))

/-- Takes another text, with nothing selected at its beginning. -/
def setText (w : Window) (t : Text) : Result :=
  w.edit (Buffer.ofText t)

/-- Selects the whole document and puts a text in its place. -/
def replaceDocument (w : Window) (t : Text) : Result :=
  let w := w.setBuffer w.surface.buffer.selectAll
  w.edit (w.surface.buffer.replaceSelection t)

/-- Asks the find bar for something. -/
def setFind (w : Window) (q : Query) : Window :=
  if q = w.find then w else scheduleMarks { w with find := q }

/-- Says so if there are no rules for the language. -/
def warnOfRules (w : Window) : Window :=
  if w.rules.isNone && !w.language.isBuiltin then
    w.say (("No highlighting rules for " : Text) ++ w.language.name ++ "; showing plain text")
  else w

/-- Takes a language by its name, and reads its rules. -/
def setLanguage (w : Window) (name : Text) : Window :=
  let language := Language.ofName name
  if language = w.language then w
  else
    let w := warnOfRules { w with language, rules := w.ruleFiles.rulesOf language }
    scheduleMarks { w with surface := w.surface.setHighlighter w.highlighter }

/-- Chooses a name from the list of languages; other names are not to be had. -/
def chooseLanguage (w : Window) (name : Text) : Window :=
  if (Language.ofName? name).isSome ∧ name ≠ w.listedName then
    setLanguage { w with listedName := name } name
  else w

/-- Shows a state of the session. -/
def showState (w : Window) (state : CompileState) : Window :=
  let (words, colour) := state.label w.session.connected
  { w with
    chip := (words, chipStyle colour)
    result := (state.resultText, Markup.resultStyle state.resultText colour)
    compileEnabled := w.session.canCompile }

/-- Shows the state that the session is in. -/
def showSession (w : Window) : Window :=
  w.showState w.session.state

/-- Hears an announcement of the session, which is then as it was announced. A new state comes with
the event; that of a new connection is looked up. -/
def hear (w : Window) (a : Announcement) : Window :=
  let w := { w with session := a.session }
  match a.event with
  | .state state => w.showState state
  | .connection _ => w.showSession
  | .line t => { w with log := w.log.push (Markup.logLine t w.errorColour) }
  | .diagnostics _ => w.scheduleMarks

/-- Hears what the session announces in a call, one announcement after the other, and has the
session that the call leaves behind. -/
def followSession (w : Window) (r : Response) : Window :=
  { r.announcements.foldl hear w with session := r.session }

/-- The name of the document in the title. -/
def titled (w : Window) (p : Path) : Window :=
  { w with title := ("KtEdit — " : Text) ++ p.name }

end Window

end SourceEditor

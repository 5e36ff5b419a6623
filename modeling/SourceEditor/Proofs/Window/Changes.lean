import SourceEditor.Window.Action
import SourceEditor.Proofs.Bridge.Workers
import SourceEditor.Proofs.Files.PathText
import Mathlib.Logic.Relation

/-!
# What happens to a window

The windows that can come about, and the few kinds of changes that everything that happens to a
window is made of.

* `Window.Adjustment`: one change in which the compiler has no part; `Window.Report`: one that comes
  from the compiler, or from what is asked of it.
* `Window.adjustments_perform`, `Window.reports_perform`: whatever an action does to a window, also
  one that breaks off, is made of changes of the one kind or of the other.
* `Window.Reachable`: the windows that come about by actions, edits and reports of the compiler, in
  any order. What holds of a fresh window and is kept by every change holds of all of them, by
  `Window.Reachable.induction`.
-/

namespace SourceEditor

/-- Whether an action asks something of the compiler, or has it answer. -/
def Action.isForCompiler : Action → Bool
  | .connect | .compile | .runTasks => true
  | _ => false

namespace Window

/-- The title of a window with a document, which is new if it has no path. -/
def titleOf : Option Path → Text
  | none => "KtEdit"
  | some p => ("KtEdit — " : Text) ++ p.name

/-- Gives the document another path, and says so in the title. -/
def renamed (w : Window) (path : Option Path) : Window :=
  { w with path, title := titleOf path }

/-- One of the changes of a window in which the compiler has no part. -/
inductive Adjustment (w : Window) : Window → Prop
  | tell (n : Notice) : Adjustment w (w.tell n)
  | forget : Adjustment w { w with notices := [] }
  /-- The editor takes another buffer, and tells of it if the text is another one. -/
  | buffer (b : Buffer) : Adjustment w (w.setBuffer b)
  | textChanged : Adjustment w w.textChanged
  | timer : Adjustment w w.timer
  | find (q : Query) : Adjustment w (w.setFind q)
  | replacement (t : Text) : Adjustment w { w with replacement := t }
  | listedName (name : Text) : Adjustment w { w with listedName := name }
  | language (name : Text) : Adjustment w (w.setLanguage name)
  /-- The document keeps its path, or takes one in normal form. -/
  | renamed (path : Option Path) (h : ∀ p, path = some p → w.path = some p ∨ p.IsNormal) :
      Adjustment w (w.renamed path)
  | settings (settings : Settings) : Adjustment w { w with settings }
  | files (files : FileSystem) : Adjustment w { w with files }
  | colour (colour : Rgb) : Adjustment w { w with colour }
  | themes (themes : ThemeManager) : Adjustment w { w with themes }
  | palette (p : Palette) : Adjustment w (w.showPalette p)
  | sizes (p : Preferences) : Adjustment w (w.applySizes p)

/-- One of the changes of a window that come from its compiler, or from what is asked of it. -/
inductive Report (w : Window) : Window → Prop
  | transport (transport : Bridge.Transport) : Report w { w with transport }
  /-- Threads start or finish, and the window takes hold of them or lets go. -/
  | background (b : Background) : Report w { w with toBackground := b }
  /-- The session gets a call, and the window hears what the session announces. -/
  | call (c : Session.Call) : Report w (w.followSession (c.respond w.session))
  | log (log : Array Text) : Report w { w with log }
  | showSession : Report w w.showSession

/-- Some adjustments of a window, one after the other. -/
abbrev Adjustments : Window → Window → Prop :=
  Relation.ReflTransGen Adjustment

/-- Some reports to a window, one after the other. -/
abbrev Reports : Window → Window → Prop :=
  Relation.ReflTransGen Report

/-- Going on after something that may have broken off. -/
theorem Adjustments.andThen {w : Window} {r : Result} {next : Window → Result}
    (h : Adjustments w r.1) (hnext : ∀ w', Adjustments w' (next w').1) :
    Adjustments w (r.andThen next).1 := by
  obtain ⟨w', _ | e⟩ := r
  · exact h.trans (hnext w')
  · exact h

/-- One such change is a run of them. -/
theorem Adjustment.adjustments {w w' : Window} (h : Adjustment w w') : Adjustments w w' :=
  .single h

variable (w : Window)

/-! ## What the smallest operations change -/

/-- Another buffer changes the surface, and what is counted and painted of it. -/
theorem exists_setBuffer_eq (b : Buffer) : ∃ statistics marksPending, w.setBuffer b =
    { w with surface := w.surface.setBuffer b, statistics, marksPending } := by
  unfold setBuffer
  dsimp only
  split
  · exact ⟨_, _, rfl⟩
  · exact ⟨_, _, rfl⟩

/-- The timer changes what is painted. -/
theorem exists_timer_eq : ∃ surface marksPending, w.timer = { w with surface, marksPending } := by
  unfold timer
  split
  · exact ⟨_, _, rfl⟩
  · exact ⟨_, _, rfl⟩

/-- Another query has the marks painted later. -/
theorem exists_setFind_eq (q : Query) :
    ∃ marksPending, w.setFind q = { w with find := q, marksPending } := by
  unfold setFind
  split
  · next h => exact ⟨w.marksPending, by rw [h]⟩
  · exact ⟨_, rfl⟩

/-- Warning of missing rules is nothing but a message. -/
theorem exists_warnOfRules_eq : ∃ notices, w.warnOfRules = { w with notices } := by
  unfold warnOfRules
  split
  · exact ⟨_, rfl⟩
  · exact ⟨w.notices, rfl⟩

/-- Taking a language changes what has to do with the language, the editor included, and may leave
a message. -/
theorem exists_setLanguage_eq (name : Text) : ∃ surface rules notices marksPending,
    w.setLanguage name =
      { w with surface, language := .ofName name, rules, notices, marksPending } := by
  unfold setLanguage
  dsimp only
  split
  · next h => exact ⟨w.surface, w.rules, w.notices, w.marksPending, by rw [h]⟩
  · obtain ⟨notices, h⟩ := exists_warnOfRules_eq
      { w with language := .ofName name, rules := w.ruleFiles.rulesOf (.ofName name) }
    rw [h]
    exact ⟨_, _, _, _, rfl⟩

/-- A window that takes another language has the rules that its rule documents give of it. -/
theorem rules_setLanguage_cases (name : Text) :
    w.setLanguage name = w ∨
      (w.setLanguage name).rules = w.ruleFiles.rulesOf (w.setLanguage name).language := by
  unfold setLanguage
  dsimp only
  split
  · exact .inl rfl
  · obtain ⟨notices, h⟩ := exists_warnOfRules_eq
      { w with language := .ofName name, rules := w.ruleFiles.rulesOf (.ofName name) }
    rw [h]
    exact .inr rfl

/-! ## Hearing of the session -/

/-- Hearing of an announcement changes what is shown of the session, the log, and whether the marks
wait. -/
theorem exists_hear_eq (a : Announcement) :
    ∃ chip result compileEnabled log marksPending, w.hear a =
      { w with session := a.session, chip, result, compileEnabled, log, marksPending } := by
  unfold hear
  dsimp only
  split <;> exact ⟨_, _, _, _, _, rfl⟩

/-- Hearing of a call changes nothing else but the session. -/
theorem exists_followSession_eq (r : Response) :
    ∃ chip result compileEnabled log marksPending, w.followSession r =
      { w with session := r.session, chip, result, compileEnabled, log, marksPending } := by
  unfold followSession
  generalize r.announcements = announcements
  induction announcements generalizing w with
  | nil => exact ⟨_, _, _, _, _, rfl⟩
  | cons a announcements ih =>
    obtain ⟨chip, result, compileEnabled, log, marksPending, ha⟩ := w.exists_hear_eq a
    obtain ⟨chip', result', compileEnabled', log', marksPending', h⟩ := ih (w.hear a)
    exact ⟨chip', result', compileEnabled', log', marksPending', by rw [List.foldl_cons, h, ha]⟩

/-- After a call, the window has the session that the call leaves behind. -/
@[simp]
theorem session_followSession (r : Response) : (w.followSession r).session = r.session :=
  rfl

/-- The session that a window has beforehand has no part in what it makes of a call. -/
theorem followSession_of_session (session : Session) (r : Response) :
    followSession { w with session } r = w.followSession r := by
  unfold followSession
  cases r.announcements with
  | nil => rfl
  | cons a announcements => rfl

/-- Hearing of a call starts no thread and finishes none. -/
@[simp]
theorem toBackground_followSession (r : Response) :
    (w.followSession r).toBackground = w.toBackground := by
  obtain ⟨_, _, _, _, _, h⟩ := w.exists_followSession_eq r
  rw [h]

/-- Hearing of a call makes no request. -/
@[simp]
theorem transport_followSession (r : Response) :
    (w.followSession r).transport = w.transport := by
  obtain ⟨_, _, _, _, _, h⟩ := w.exists_followSession_eq r
  rw [h]

/-- A signal of a worker is a call of the session; that the window let go of the session meanwhile
makes no difference. -/
theorem takeSignal_eq (signal : Bridge.Signal) :
    w.takeSignal signal = (w.followSession (signal.call.respond w.session),
      (signal.call.respond w.session).refusal) := by
  rw [← signal.tell_eq]
  exact Prod.ext (w.followSession_of_session {} _) rfl

/-- A line is a signal like the others. -/
theorem takeLine_eq (line : Text) :
    takeLine w line = (w.followSession (w.session.compileLine line),
      (w.session.compileLine line).refusal) :=
  w.takeSignal_eq (.line line)

/-! ## Edits and searches -/

/-- An edit takes a buffer, or breaks off. -/
theorem adjustments_edit (r : Except Utf8.Refusal Buffer) : Adjustments w (w.edit r).1 := by
  cases r with
  | ok b => exact (Adjustment.buffer b).adjustments
  | error e => exact .refl

/-- Another text is an edit. -/
theorem adjustments_setText (t : Text) : Adjustments w (w.setText t).1 :=
  w.adjustments_edit _

/-- Putting a text in place of the document is two edits. -/
theorem adjustments_replaceDocument (t : Text) : Adjustments w (w.replaceDocument t).1 :=
  .head (.buffer w.surface.buffer.selectAll) (adjustments_edit _ _)

/-- Going to the next match selects it, or says that there is none. -/
theorem adjustments_findNext : Adjustments w w.findNext := by
  unfold findNext
  split
  · exact .refl
  · split
    · exact (Adjustment.tell _).adjustments
    · exact (Adjustment.buffer _).adjustments

/-- Replacing a match is an edit and a selection. -/
theorem adjustments_replaceOne : Adjustments w w.replaceOne.1 := by
  unfold replaceOne
  dsimp only
  split
  · exact .refl
  · exact (w.adjustments_edit _).andThen fun w' => (Adjustment.buffer _).adjustments

/-- Replacing all of them is an edit, a selection and a message. -/
theorem adjustments_replaceEvery : Adjustments w w.replaceEvery.1 := by
  -- Nothing is replaced, or the whole document is; the message comes in both cases.
  have hreplaced (t : Text) (count : Nat) : Adjustments w (if count = 0 then (w, none) else
      (w.replaceDocument t).andThen fun w =>
        (w.setBuffer (w.surface.buffer.selectRange 0 0), none)).1 := by
    split
    · exact .refl
    · exact (w.adjustments_replaceDocument t).andThen fun w' => (Adjustment.buffer _).adjustments
  unfold replaceEvery
  exact (hreplaced _ _).andThen fun w' => (Adjustment.tell _).adjustments

/-- A selection is another buffer. -/
theorem adjustments_select (anchor caret : Int) : Adjustments w (w.select anchor caret).1 := by
  unfold select
  split
  · exact (Adjustment.buffer _).adjustments
  · exact .refl

/-- Choosing a language is noting its name and taking it. -/
theorem adjustments_chooseLanguage (name : Text) : Adjustments w (w.chooseLanguage name) := by
  unfold chooseLanguage
  split
  · exact .head (.listedName name) (Adjustment.language name).adjustments
  · exact .refl

/-! ## Documents -/

/-- A new document is an empty text without a path. -/
theorem adjustments_newDocument : Adjustments w w.newDocument.1 :=
  (w.adjustments_replaceDocument []).andThen fun _ =>
    (Adjustment.renamed none (by simp)).adjustments

variable {w} in
/-- A path can be noted if it is the one of the document already or in normal form. -/
theorem adjustments_setPath {p : Path} (hp : w.path = some p ∨ p.IsNormal) :
    Adjustments w (w.setPath p) :=
  .head (.settings _) (Adjustment.renamed (some p) (by simpa using hp)).adjustments

/-- Opening a file is an edit, the path and a message, or else a box and a message. -/
theorem adjustments_openFile {p : Path} (hp : p.IsNormal) : Adjustments w (w.openFile p).1 := by
  unfold openFile
  split
  · exact .head (.tell _) (Adjustment.tell _).adjustments
  · exact (w.adjustments_replaceDocument _).andThen fun w' =>
      (w'.adjustments_setPath (.inr hp)).tail (.tell _)

/-- Asking for a file to open leads to a path in normal form, if to any. -/
theorem adjustments_openDocument (chosen : Text) : Adjustments w (w.openDocument chosen).1 := by
  unfold openDocument
  split
  · exact .refl
  · next start _ =>
    -- The dialog opens, whatever is chosen in it.
    refine .head (.tell (.dialog "Open source file" start w.language.fileFilter)) ?_
    dsimp only
    split
    · exact .refl
    · split
      · exact .refl
      · next path hpath =>
        exact adjustments_openFile _ ((Path.isNormal_ofText chosen).expandHome hpath)

variable {w} in
/-- Saving to a path changes the files, notes the path and says so, or else shows a box. -/
theorem adjustments_saveFile {p : Path} (hp : w.path = some p ∨ p.IsNormal) :
    Adjustments w (w.saveFile p).1 := by
  unfold saveFile
  split
  · next files _ =>
    exact .head (.files files) ((adjustments_setPath (w := { w with files }) hp).tail (.tell _))
  · split
    · exact .refl
    · exact (Adjustment.tell _).adjustments

/-- Asking for a file to save to leads to a path in normal form, if to any. -/
theorem adjustments_saveDocumentAs (chosen : Text) : Adjustments w (w.saveDocumentAs chosen).1 := by
  unfold saveDocumentAs
  refine .head (.tell (.dialog "Save source file" ((w.path.map Path.text).getD
    w.language.saveSuggestion) w.language.fileFilter)) ?_
  dsimp only
  split
  · exact .refl
  · split
    · exact .refl
    · next path hpath =>
      exact adjustments_saveFile (.inr ((Path.isNormal_ofText chosen).expandHome hpath))

/-- Saving is one of the two. -/
theorem adjustments_saveDocument (chosen : Text) : Adjustments w (w.saveDocument chosen).1 := by
  unfold saveDocument
  split
  · next hpath => exact adjustments_saveFile (.inl hpath)
  · exact w.adjustments_saveDocumentAs chosen

/-! ## Appearance -/

/-- Following the themes is taking the manager and showing what it announces. -/
theorem adjustments_followThemes (announced : Option Palette × ThemeManager) :
    Adjustments w (w.followThemes announced) := by
  unfold followThemes
  refine .head (.themes announced.2) ?_
  dsimp only
  split
  · exact (Adjustment.palette _).adjustments
  · exact .refl

/-- Showing the palette in effect is showing a palette. -/
theorem adjustments_showCurrentPalette : Adjustments w w.showCurrentPalette :=
  .head (.themes _) (Adjustment.palette _).adjustments

/-- Loading a theme file changes the files and the themes. -/
theorem adjustments_loadTheme (p : Path) : Adjustments w (w.loadTheme p).1 := by
  unfold loadTheme
  split
  · next announced files _ => exact .head (.files files) (adjustments_followThemes _ announced)
  · next files _ => exact (Adjustment.files files).adjustments
  · next files _ _ => exact .head (.files files) (Adjustment.tell _).adjustments

/-- Choosing one does no more than loading it. -/
theorem adjustments_chooseTheme (p : Text) : Adjustments w (w.chooseTheme p).1 := by
  unfold chooseTheme
  split
  · exact .refl
  · split
    · exact .refl
    · split
      · exact .refl
      · exact w.adjustments_loadTheme _

/-- Following the preferences is following the themes, a choice and the sizes and timeouts. -/
theorem adjustments_applyAppearance : Adjustments w w.applyAppearance.1 := by
  unfold applyAppearance
  dsimp only
  refine Adjustments.andThen ((adjustments_followThemes w _).trans (adjustments_chooseTheme _ _))
    fun w' => ?_
  exact .head (.sizes _) (adjustments_showCurrentPalette _)

/-- The preferences dialog changes the settings, and then its preferences are followed. -/
theorem adjustments_openPreferences (edits : PreferencesDialog.Edits) :
    Adjustments w (w.openPreferences edits).1 := by
  -- Whether a dialog for a theme file opened before makes no difference to what is accepted.
  have haccept {w' : Window} (h : Adjustments w w') (settings : Settings) : Adjustments w
      (if edits.accept then applyAppearance { w' with settings } else (w', none)).1 := by
    split
    · exact h.trans (.head (.settings settings) (adjustments_applyAppearance _))
    · exact h
  unfold openPreferences
  dsimp only
  cases edits.browse with
  | none => exact haccept .refl _
  | some path => exact haccept (Adjustment.tell _).adjustments _

/-- Another colour of the desktop is followed if the window is told of it. -/
theorem adjustments_recolour (colour : Rgb) (event : ChangeEvent) :
    Adjustments w (w.recolour colour event) := by
  refine .head (.colour colour) ?_
  cases event with
  | other => exact .refl
  | palette => exact adjustments_followThemes _ _
  | applicationPalette => exact adjustments_followThemes _ _

/-! ## From launch to close -/

/-- A part of the layout is restored by a notice. -/
theorem adjustments_restorePart (part : LayoutPart) (value : Json.Value) :
    Adjustments w (w.restorePart part value) := by
  unfold restorePart
  split
  · exact .refl
  · exact (Adjustment.tell _).adjustments

/-- The layout is restored by two of them at most. -/
theorem adjustments_restoreLayout : Adjustments w w.restoreLayout :=
  (w.adjustments_restorePart _ _).trans (adjustments_restorePart _ _ _)

/-- Restoring a session is a text, a path, a query and a language. -/
theorem adjustments_restoreSession : Adjustments w w.restoreSession.1 := by
  unfold restoreSession
  dsimp only
  refine Adjustments.andThen ?_ fun w' => ?_
  · split
    · split
      · exact .refl
      · exact w.adjustments_setText _
    · exact .refl
  · split
    · exact .head (.find _) (adjustments_chooseLanguage _ _)
    · refine .head (.renamed (some _) ?_) (.head (.find _) (adjustments_chooseLanguage _ _))
      simpa using Or.inr (Path.isNormal_ofText _)

/-- Closing changes the settings. -/
theorem adjustments_close : Adjustments w w.close :=
  (Adjustment.settings _).adjustments

/-- The path has no part in a warning of missing rules. -/
theorem path_warnOfRules (path : Option Path) :
    { w with path }.warnOfRules = { w.warnOfRules with path } := by
  unfold warnOfRules
  dsimp only
  split <;> rfl

/-- The path has no part in the choice of a language. -/
theorem path_chooseLanguage (name : Text) (path : Option Path) :
    { w with path }.chooseLanguage name = { w.chooseLanguage name with path } := by
  unfold chooseLanguage setLanguage
  dsimp only
  split
  · split
    · rfl
    · have hwarned := path_warnOfRules { w with
        listedName := name
        language := .ofName name
        rules := w.ruleFiles.rulesOf (.ofName name) } path
      dsimp only at hwarned
      rw [hwarned]
      rfl
  · rfl

/-- The path has no part in a search. -/
theorem path_setFind (q : Query) (path : Option Path) :
    { w with path }.setFind q = { w.setFind q with path } := by
  unfold setFind
  dsimp only
  split <;> rfl

/-- A reset is a change of the settings, notices, a text, a path, a query and a language. -/
theorem adjustments_reset : Adjustments w w.reset.1 := by
  unfold reset
  refine .head (.settings w.settings.reset) (.head (.tell (.restored .geometry savedGeometry))
    (.head (.tell (.restored .arrangement savedArrangement)) ?_))
  refine (adjustments_replaceDocument _ _).andThen fun w' => ?_
  -- The path goes first and the title follows last; in between, neither is looked at.
  dsimp only
  rw [path_setFind, path_chooseLanguage]
  refine .head (.find {}) ((adjustments_chooseLanguage _ Language.kotlin.name).trans ?_)
  exact .head (.renamed none (by simp)) (Adjustment.tell _).adjustments

/-- A window that opens is a fresh one after some adjustments, which shows its state in the end. -/
theorem adjustments_launch {d : Desktop} {w : Window} (h : launch d = .ok w) :
    ∃ files themes p w', Adjustments (fresh { d with files } themes p) w' ∧
      w = w'.showSession.textChanged := by
  unfold launch at h
  dsimp only at h
  split at h
  · simp at h
  · next themes files _ =>
    split at h
    · simp at h
    · next opened hopened =>
      obtain rfl := Except.ok.inj h
      -- Had restoring broken off, there would be no window: `hopened` says that it did not.
      refine ⟨files, themes, Preferences.load d.settings 13 12, _, ?_, rfl⟩
      have hrestored := (adjustments_applyAppearance (fresh { d with files } themes
        (Preferences.load d.settings 13 12))).andThen
          fun w' => (adjustments_showCurrentPalette w').trans (adjustments_restoreSession _)
      rw [hopened] at hrestored
      exact hrestored.trans (adjustments_restoreLayout _)

/-! ## The compiler -/

/-- Connecting is a call, after which a thread may start. -/
theorem reports_connect : Reports w w.connect := by
  unfold connect
  split
  · exact .refl
  · dsimp only
    refine .head (.call .beginConnect) ?_
    split
    · exact .single (.background _)
    · exact .refl

/-- Compiling is a call, after which the log may be emptied and a thread start. -/
theorem reports_compile : Reports w w.compile := by
  unfold compile
  split
  · exact .refl
  · dsimp only
    refine .head (.call .beginCompile) ?_
    split
    · exact .head (.log #[]) (.single (.background _))
    · exact .refl

/-- What a window takes of a signal is what is delivered to it; the rest is for the thread. -/
theorem fst_deliver (thread : Thread) (signal : Bridge.Signal) :
    (deliver (w, thread) signal).1.1 = w.followSession (signal.call.respond w.session) := by
  have htaken := w.takeSignal_eq signal
  simp only [deliver, htaken]
  cases (signal.call.respond w.session).refusal <;> rfl

/-- A thread that has run finishes, or stays. -/
theorem report_leaveThread (thread : Thread) : Report w (w.leaveThread thread) := by
  unfold leaveThread threadFinished
  split
  · split
    · exact .background { w.toBackground with healthThread := none }
    · exact .background { w.toBackground with compileThread := none }
  · exact .background { w.toBackground with tasks := w.tasks ++ [thread] }

/-- Running a thread is the calls that its signals make, and perhaps the end of the thread. -/
theorem reports_runTask (thread : Thread) : Reports w (w.runTask thread) := by
  have hstep (s : Window × Thread) (signal : Bridge.Signal) (h : Reports w s.1) :
      Reports w (deliver s signal).1.1 := by
    rw [fst_deliver]
    exact h.tail (.call signal.call)
  have hrun := Bridge.Worker.run_induction (P := fun s : Window × Thread => Reports w s.1)
    w.client w.transport hstep (s := (w, thread)) .refl thread.worker
  exact (hrun.tail (.transport _)).tail (report_leaveThread _ _)

/-- Running all threads is running one after the other. -/
theorem reports_runTasks : Reports w w.runTasks := by
  refine .head (.background { w.toBackground with tasks := [] }) ?_
  exact List.foldlRecOn (motive := Reports { w with tasks := [] }) w.tasks runTask .refl
    fun w' h thread _ => h.trans (w'.reports_runTask thread)

/-! ## Reachable windows -/

/-- Whatever another action does to a window is made of adjustments, also if the action breaks
off. -/
theorem adjustments_perform {a : Action} (ha : a.isForCompiler = false) :
    Adjustments w (w.perform a).1 := by
  cases a with
  | setText t => exact w.adjustments_setText t
  | select anchor caret => exact w.adjustments_select anchor caret
  | setFind q => exact (Adjustment.find q).adjustments
  | setReplacement t => exact (Adjustment.replacement t).adjustments
  | findNext => exact w.adjustments_findNext
  | replaceOne => exact w.adjustments_replaceOne
  | replaceEvery => exact w.adjustments_replaceEvery
  | chooseLanguage name => exact w.adjustments_chooseLanguage name
  | setLanguage name => exact (Adjustment.language name).adjustments
  | timer => exact Adjustment.timer.adjustments
  | newDocument => exact w.adjustments_newDocument
  | openDocument chosen => exact w.adjustments_openDocument chosen
  | saveDocument chosen => exact w.adjustments_saveDocument chosen
  | saveDocumentAs chosen => exact w.adjustments_saveDocumentAs chosen
  | connect | compile | runTasks => exact absurd ha.symm Bool.false_ne_true
  | openPreferences edits => exact w.adjustments_openPreferences edits
  | reset => exact w.adjustments_reset
  | recolour colour event => exact w.adjustments_recolour colour event
  | close => exact w.adjustments_close

/-- The actions for the compiler are calls and tasks. -/
theorem reports_perform {a : Action} (ha : a.isForCompiler = true) :
    Reports w (w.perform a).1 := by
  cases a with
  | connect => exact w.reports_connect
  | compile => exact w.reports_compile
  | runTasks => exact w.reports_runTasks
  | _ => exact absurd ha Bool.false_ne_true

/-- The windows that can come about. Besides the actions, a window may see any edit of its text and
its selection, and the session may get any call, at any time: the lines of a compiler come one by
one, and the timer or the user may come between them. -/
inductive Reachable : Window → Prop
  | launch {d : Desktop} {w : Window} (h : launch d = .ok w) : Reachable w
  | step {w : Window} (h : Reachable w) (a : Action) : Reachable (w.step a).1
  | edit {w : Window} (h : Reachable w) (b : Buffer) : Reachable (w.setBuffer b)
  | call {w : Window} (h : Reachable w) (c : Session.Call) :
      Reachable (w.followSession (c.respond w.session))

variable {w}

/-- What holds of fresh windows and is kept by every change holds of every window that can come
about. -/
theorem Reachable.induction {P : Window → Prop} (fresh : ∀ d themes p, P (fresh d themes p))
    (adjust : ∀ w w', Adjustment w w' → P w → P w') (report : ∀ w w', Report w w' → P w → P w')
    (h : Reachable w) : P w := by
  -- An action is several changes, so that the property has to be carried through them first.
  have adjustments {w w' : Window} (h : Adjustments w w') (hw : P w) : P w' := by
    induction h with
    | refl => exact hw
    | tail _ hlast ih => exact adjust _ _ hlast ih
  have reports {w w' : Window} (h : Reports w w') (hw : P w) : P w' := by
    induction h with
    | refl => exact hw
    | tail _ hlast ih => exact report _ _ hlast ih
  induction h with
  | launch h =>
    obtain ⟨files, themes, p, w', hopened, rfl⟩ := adjustments_launch h
    exact adjust _ _ .textChanged
      (report _ _ .showSession (adjustments hopened (fresh _ themes p)))
  | step _ a ih =>
    have hforgotten := adjust _ _ .forget ih
    cases ha : a.isForCompiler with
    | false => exact adjustments (adjustments_perform _ ha) hforgotten
    | true => exact reports (reports_perform _ ha) hforgotten
  | edit _ b ih => exact adjust _ _ (.buffer b) ih
  | call _ c ih => exact report _ _ (.call c) ih

/-- A run of actions leads from a window that can come about to another one. -/
theorem Reachable.run (h : Reachable w) (actions : List Action) : Reachable (w.run actions) :=
  List.foldlRecOn (motive := Reachable) actions _ h fun _ h a _ => h.step a

end Window

end SourceEditor

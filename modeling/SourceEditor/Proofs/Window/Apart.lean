import SourceEditor.Proofs.Window.Changes

/-!
# Parts of a window apart from its document

Much of a window has nothing to do with its document. To see that an action leaves such a part
alone, it is enough to know this of the few operations that the actions for documents, searches and
the compiler are made of.

* `Action.isForDocument`: these actions.
* `Window.Apart`: a part that the operations leave alone.
* `Window.Apart.perform`: the actions leave it alone as well, also if they break off.
-/

namespace SourceEditor

/-- Whether an action is for the document, the search or the compiler. The others are for the
language, the colours and the settings. -/
def Action.isForDocument : Action → Bool
  | .chooseLanguage _ | .setLanguage _ | .openPreferences _ | .reset | .recolour _ _ | .close =>
    false
  | _ => true

namespace Window

/-- A part of a window that is apart from its document: nothing that happens to the text, its file,
the search or the compiler changes it. -/
structure Apart {α : Type} (part : Window → α) : Prop where
  notices (w : Window) (notices : List Notice) : part { w with notices } = part w
  setBuffer (w : Window) (b : Buffer) : part (w.setBuffer b) = part w
  setFind (w : Window) (q : Query) : part (w.setFind q) = part w
  timer (w : Window) : part w.timer = part w
  replacement (w : Window) (t : Text) : part { w with replacement := t } = part w
  named (w : Window) (path : Option Path) (title : Text) : part { w with path, title } = part w
  setPath (w : Window) (p : Path) : part (w.setPath p) = part w
  files (w : Window) (files : FileSystem) : part { w with files } = part w
  report (w w' : Window) (h : Report w w') : part w' = part w

namespace Apart

variable {α : Type} {part : Window → α}

/-- What goes on after something that may have broken off changes nothing if each of the two does
not. -/
theorem andThen {w : Window} {r : Result} {next : Window → Result} (h : part r.1 = part w)
    (hnext : ∀ w', part (next w').1 = part w') : part (r.andThen next).1 = part w := by
  obtain ⟨w', _ | e⟩ := r
  · exact (hnext w').trans h
  · exact h

variable (hpart : Apart part) (w : Window)

include hpart

/-- A message leaves the part alone. -/
theorem say (message : Text) : part (w.say message) = part w :=
  hpart.notices w _

/-! ## Edits and searches -/

/-- So does an edit, whether or not the editor can hold what it makes. -/
theorem edit (r : Except Utf8.Refusal Buffer) : part (w.edit r).1 = part w := by
  cases r with
  | ok b => exact hpart.setBuffer w b
  | error e => rfl

/-- So does another text in place of the document. -/
theorem replaceDocument (t : Text) : part (w.replaceDocument t).1 = part w :=
  (hpart.edit _ _).trans (hpart.setBuffer w _)

/-- So does going to the next match. -/
theorem findNext : part w.findNext = part w := by
  unfold Window.findNext
  split
  · rfl
  · split
    · exact hpart.say w _
    · exact hpart.setBuffer w _

/-- So does replacing a match. -/
theorem replaceOne : part w.replaceOne.1 = part w := by
  unfold Window.replaceOne
  dsimp only
  split
  · rfl
  · apply andThen (hpart.edit w _)
    intro w'
    exact hpart.setBuffer w' _

/-- So does replacing all of them. -/
theorem replaceEvery : part w.replaceEvery.1 = part w := by
  -- Nothing is replaced, or the whole document is; the message comes in both cases.
  have hreplaced (t : Text) (count : Nat) : part (if count = 0 then (w, none) else
      (w.replaceDocument t).andThen fun w =>
        (w.setBuffer (w.surface.buffer.selectRange 0 0), none)).1 = part w := by
    split
    · rfl
    · apply andThen (hpart.replaceDocument w t)
      intro w'
      exact hpart.setBuffer w' _
  unfold Window.replaceEvery
  apply andThen (hreplaced _ _)
  intro w'
  exact hpart.say w' _

/-- So does a selection. -/
theorem select (anchor caret : Int) : part (w.select anchor caret).1 = part w := by
  unfold Window.select
  split
  · exact hpart.setBuffer w _
  · rfl

/-! ## Documents -/

/-- So does a new document. -/
theorem newDocument : part w.newDocument.1 = part w := by
  apply andThen (hpart.replaceDocument w [])
  intro w'
  exact hpart.named w' none _

/-- So does a file that is opened, or that cannot be. -/
theorem openFile (p : Path) : part (w.openFile p).1 = part w := by
  unfold Window.openFile
  split
  · exact (hpart.say _ _).trans (hpart.notices w _)
  · apply andThen (hpart.replaceDocument w _)
    intro w'
    exact (hpart.say _ _).trans (hpart.setPath w' p)

/-- So does the dialog for it, whatever is chosen there. -/
theorem openDocument (chosen : Text) : part (w.openDocument chosen).1 = part w := by
  unfold Window.openDocument
  split
  · rfl
  · -- The dialog opens, whatever is chosen in it.
    next start _ =>
    refine Eq.trans ?_ (hpart.notices w
      (w.notices ++ [.dialog "Open source file" start w.language.fileFilter]))
    dsimp only
    split
    · rfl
    · split
      · rfl
      · exact hpart.openFile _ _

/-- So does a document that is saved, or that cannot be. -/
theorem saveFile (p : Path) : part (w.saveFile p).1 = part w := by
  unfold Window.saveFile
  split
  · next files _ => exact (hpart.say _ _).trans ((hpart.setPath _ p).trans (hpart.files w files))
  · split
    · rfl
    · exact hpart.notices w _

/-- So does the dialog for it, whatever is chosen there. -/
theorem saveDocumentAs (chosen : Text) : part (w.saveDocumentAs chosen).1 = part w := by
  unfold Window.saveDocumentAs
  refine Eq.trans ?_ (hpart.notices w (w.notices ++ [.dialog "Save source file"
    ((w.path.map Path.text).getD w.language.saveSuggestion) w.language.fileFilter]))
  dsimp only
  split
  · rfl
  · split
    · rfl
    · exact hpart.saveFile _ _

/-- So does saving, with the dialog or without. -/
theorem saveDocument (chosen : Text) : part (w.saveDocument chosen).1 = part w := by
  unfold Window.saveDocument
  split
  · exact hpart.saveFile w _
  · exact hpart.saveDocumentAs w chosen

/-! ## Restoring -/

/-- Restoring a part of the layout is a notice. -/
theorem restorePart (layoutPart : LayoutPart) (value : Json.Value) :
    part (w.restorePart layoutPart value) = part w := by
  unfold Window.restorePart
  split
  · rfl
  · exact hpart.notices w _

/-- Restoring the layout leaves the part alone. -/
theorem restoreLayout : part w.restoreLayout = part w :=
  (hpart.restorePart _ _ _).trans (hpart.restorePart w _ _)

/-! ## The compiler -/

/-- So does all that comes from the compiler. -/
theorem reports {w w' : Window} (h : Reports w w') : part w' = part w := by
  induction h with
  | refl => rfl
  | tail _ hlast ih => exact (hpart.report _ _ hlast).trans ih

/-- So does a call of the session. -/
theorem followSession (c : Session.Call) :
    part (w.followSession (c.respond w.session)) = part w :=
  hpart.report _ _ (.call c)

/-! ## All actions -/

/-- An action for the document, the search or the compiler leaves the part alone. -/
theorem perform {a : Action} (ha : a.isForDocument = true) : part (w.perform a).1 = part w := by
  cases a with
  | setText t => exact hpart.edit w _
  | select anchor caret => exact hpart.select w anchor caret
  | setFind q => exact hpart.setFind w q
  | setReplacement t => exact hpart.replacement w t
  | findNext => exact hpart.findNext w
  | replaceOne => exact hpart.replaceOne w
  | replaceEvery => exact hpart.replaceEvery w
  | timer => exact hpart.timer w
  | newDocument => exact hpart.newDocument w
  | openDocument chosen => exact hpart.openDocument w chosen
  | saveDocument chosen => exact hpart.saveDocument w chosen
  | saveDocumentAs chosen => exact hpart.saveDocumentAs w chosen
  | connect | compile | runTasks => exact hpart.reports (w.reports_perform rfl)
  | chooseLanguage _ | setLanguage _ | openPreferences _ | reset | recolour _ _ | close =>
    exact absurd ha Bool.false_ne_true

end Apart

end Window

end SourceEditor

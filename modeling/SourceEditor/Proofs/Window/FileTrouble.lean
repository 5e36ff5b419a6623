import SourceEditor.Proofs.Document.Mark
import SourceEditor.Proofs.Window.Reopened

/-!
# Trouble with files

Whatever comes in the way of opening or saving a document leaves the window as it was, but for what
it told the user: the document, its selection, its path, the title, the session, the settings and
the files. The reasons are listed by `Window.Hindered`, and the list is complete: without any of
them the document is opened or saved, and has a path from then on.

* `Document.exists_read_eq_ok`: the files that can be opened.
* `Window.AsksPath`, `Window.Hindered`: what may be in the way of an action.
* `Window.step_of_hindered`: an action that something is in the way of.
* `Window.openDocument_of_not_hindered` and its siblings: an action that nothing is in the way of.
* `Window.file_trouble`: both of them, for every action on a file.
-/

namespace SourceEditor

/-! ## Files that can be opened -/

/-- Replacements are characters, too. -/
theorem Utf8.isEncodable_decodeLossy (bytes : Bytes) : isEncodable (decodeLossy bytes) = true := by
  rw [isEncodable, decodeLossy, List.all_map, List.all_eq_true]
  rintro (c | ⟨length, stray⟩) _ <;> rfl

namespace Document

variable {fs : FileSystem} {p : Path}

/-- A document without a zero byte can be read, and the editor can hold it. -/
theorem exists_decode? {bytes : Bytes} (hzero : 0 ∉ bytes) :
    ∃ t encoding, decode? bytes = some (t, encoding) ∧ Utf8.isEncodable t = true := by
  by_cases hwellFormed : Utf8.IsWellFormed (withoutMark bytes)
  · obtain ⟨t, ht, -, hdecode⟩ := decode?_of_isWellFormed hzero hwellFormed
    exact ⟨t, .exact, hdecode, ht⟩
  · exact ⟨_, .replaced, decode?_of_not_isWellFormed hzero hwellFormed,
      Utf8.isEncodable_decodeLossy bytes⟩

/-- A file of at most 5,000,000 bytes without a zero byte can be opened. -/
theorem exists_read_eq_ok {bytes : Bytes} (hread : fs.read p = .ok bytes)
    (hsize : bytes.length ≤ 5000000) (hzero : 0 ∉ bytes) :
    ∃ t encoding, read fs p = .ok (t, encoding) ∧ Utf8.isEncodable t = true := by
  obtain ⟨t, encoding, hdecode, ht⟩ := exists_decode? hzero
  refine ⟨t, encoding, ?_, ht⟩
  rw [read, hread]
  dsimp only
  rw [sizeLimit, if_neg (Nat.not_lt.mpr hsize), hdecode]

/-- A file that is too large is not read. -/
theorem exists_read_eq_error_of_size {bytes : Bytes} (hread : fs.read p = .ok bytes)
    (hsize : 5000000 < bytes.length) : ∃ problem, read fs p = .error problem := by
  refine ⟨tooLargeMessage, ?_⟩
  rw [read, hread]
  exact if_pos hsize

/-- A file with a zero byte is not read. -/
theorem exists_read_eq_error_of_zero {bytes : Bytes} (hread : fs.read p = .ok bytes)
    (hzero : 0 ∈ bytes) : ∃ problem, read fs p = .error problem := by
  rw [read, hread]
  dsimp only
  split
  · exact ⟨_, rfl⟩
  · rw [decode?, if_pos (List.contains_iff_mem.mpr hzero)]
    exact ⟨_, rfl⟩

end Document

namespace Window

/-- An action for which the user is asked for a path. An empty choice stands for none. -/
inductive AsksPath (w : Window) (chosen : Text) : Action → Prop
  | opening : AsksPath w chosen (.openDocument chosen)
  /-- A new document is saved. -/
  | first (h : w.path = none) : AsksPath w chosen (.saveDocument chosen)
  | named : AsksPath w chosen (.saveDocumentAs chosen)

/-- Something is in the way of opening or saving the document. -/
inductive Hindered (w : Window) : Action → Prop
  /-- The place at which to look for a file cannot be looked for itself. -/
  | noDialog {chosen : Text} {e : Failure} (h : w.suggestedPath = .error e) :
      Hindered w (.openDocument chosen)
  /-- The user chooses no path. -/
  | cancelled {a : Action} (h : AsksPath w [] a) : Hindered w a
  /-- The path begins in a home directory that cannot be found. -/
  | homeless {a : Action} {chosen : Text} {e : Path.HomeError} (h : AsksPath w chosen a)
      (hhome : (Path.ofText chosen).expandHome w.accounts = .error e) : Hindered w a
  | unreadable {chosen : Text} {p : Path} {e : FileError} (hnamed : p.IsNamedBy w.accounts chosen)
      (hread : w.files.read p = .error e) : Hindered w (.openDocument chosen)
  | tooLarge {chosen : Text} {p : Path} {bytes : Bytes} (hnamed : p.IsNamedBy w.accounts chosen)
      (hread : w.files.read p = .ok bytes) (hsize : 5000000 < bytes.length) :
      Hindered w (.openDocument chosen)
  /-- The file has a zero byte. -/
  | binary {chosen : Text} {p : Path} {bytes : Bytes} (hnamed : p.IsNamedBy w.accounts chosen)
      (hread : w.files.read p = .ok bytes) (hzero : 0 ∈ bytes) : Hindered w (.openDocument chosen)
  | unwritable {a : Action} {p : Path} {e : FileError} (h : SavesTo w p a)
      (hwrite : w.files.write p (Utf8.encode w.text) = .error e) : Hindered w a

variable {w : Window} {p : Path} {a : Action}

/-! ## In trouble -/

/-- The window is left as it was, but for what it told. -/
def Result.Leaves (w : Window) (r : Result) : Prop :=
  ∃ notices, r.1 = { w with notices }

/-- A document that cannot be read leaves a box and a message, and no other trace. -/
theorem leaves_openFile {problem : Text} (h : Document.read w.files p = .error problem) :
    (w.openFile p).Leaves w := by
  rw [openFile, h]
  exact ⟨_, rfl⟩

/-- A file that cannot be written leaves a box, or breaks the action off. -/
theorem leaves_saveFile {e : FileError}
    (h : w.files.write p (Utf8.encode w.text) = .error e) : (w.saveFile p).Leaves w := by
  rw [saveFile, TextFile.write, h]
  dsimp only
  split
  · exact ⟨w.notices, rfl⟩
  · exact ⟨_, rfl⟩

/-- So it is if the user asked for the document. -/
theorem leaves_openDocument {chosen : Text} (hnamed : p.IsNamedBy w.accounts chosen)
    {problem : Text} (h : Document.read w.files p = .error problem) :
    (w.openDocument chosen).Leaves w := by
  unfold openDocument
  split
  · exact ⟨w.notices, rfl⟩
  · next start _ =>
    dsimp only
    rw [List.isEmpty_eq_false_iff.mpr hnamed.1, if_neg Bool.false_ne_true, accounts_tell,
      hnamed.2]
    exact leaves_openFile (w := w.tell (.dialog "Open source file" start w.language.fileFilter)) h

/-- No path was chosen, or one whose home directory cannot be found. -/
def NoPath (accounts : Accounts) (chosen : Text) : Prop :=
  chosen = [] ∨ ∃ e, (Path.ofText chosen).expandHome accounts = .error e

/-- Without a path, nothing is opened. -/
theorem leaves_openDocument_of_noPath {chosen : Text} (h : NoPath w.accounts chosen) :
    (w.openDocument chosen).Leaves w := by
  unfold openDocument
  split
  · exact ⟨w.notices, rfl⟩
  · dsimp only
    split
    · exact ⟨_, rfl⟩
    · next hne =>
      obtain ⟨e, he⟩ := h.resolve_left (mt List.isEmpty_iff.mpr hne)
      rw [accounts_tell, he]
      exact ⟨_, rfl⟩

/-- Without a path, nothing is saved. -/
theorem leaves_saveDocumentAs_of_noPath {chosen : Text} (h : NoPath w.accounts chosen) :
    (w.saveDocumentAs chosen).Leaves w := by
  unfold saveDocumentAs
  dsimp only
  split
  · exact ⟨_, rfl⟩
  · next hne =>
    obtain ⟨e, he⟩ := h.resolve_left (mt List.isEmpty_iff.mpr hne)
    rw [accounts_tell, he]
    exact ⟨_, rfl⟩

/-- Every action that asks for a path does nothing without one. -/
theorem AsksPath.leaves_step {chosen : Text} (h : AsksPath w chosen a)
    (hnone : NoPath w.accounts chosen) : (w.step a).Leaves w := by
  let quiet : Window := { w with notices := [] }
  cases h with
  | opening => exact leaves_openDocument_of_noPath (w := quiet) hnone
  | first hpath =>
    show (quiet.saveDocument chosen).Leaves quiet
    rw [saveDocument, show quiet.path = none from hpath]
    exact leaves_saveDocumentAs_of_noPath (w := quiet) hnone
  | named => exact leaves_saveDocumentAs_of_noPath (w := quiet) hnone

/-- Whatever is in the way of an action, it leaves the window as it was. -/
theorem step_of_hindered (h : Hindered w a) : (w.step a).Leaves w := by
  -- The action begins with a window that has forgotten what it told.
  let quiet : Window := { w with notices := [] }
  cases h with
  | @noDialog chosen e h =>
    show (quiet.openDocument chosen).Leaves quiet
    rw [openDocument, show quiet.suggestedPath = .error e from h]
    exact ⟨[], rfl⟩
  | cancelled h => exact h.leaves_step (.inl rfl)
  | homeless h hhome => exact h.leaves_step (.inr ⟨_, hhome⟩)
  | @unreadable chosen p e hnamed hread =>
    have hproblem : Document.read w.files p = .error (e.message p) := by
      rw [Document.read, hread]
    exact leaves_openDocument (w := quiet) hnamed hproblem
  | tooLarge hnamed hread hsize =>
    obtain ⟨problem, hproblem⟩ := Document.exists_read_eq_error_of_size hread hsize
    exact leaves_openDocument (w := quiet) hnamed hproblem
  | binary hnamed hread hzero =>
    obtain ⟨problem, hproblem⟩ := Document.exists_read_eq_error_of_zero hread hzero
    exact leaves_openDocument (w := quiet) hnamed hproblem
  | unwritable h hwrite =>
    obtain ⟨notices, -, hstep⟩ := h.exists_step_eq
    rw [hstep]
    exact leaves_saveFile (w := { w with notices }) hwrite

/-! ## Without trouble -/

/-- A document that was read takes the place of the one before, without a box. -/
theorem openFile_of_read {t : Text} {encoding : Document.Encoding}
    (h : Document.read w.files p = .ok (t, encoding)) (ht : Utf8.isEncodable t = true) :
    (w.openFile p).2 = none ∧ (w.openFile p).1.boxes = w.boxes ∧
      (w.openFile p).1.path = some p := by
  obtain ⟨b, -, hb⟩ := w.exists_replaceDocument ht
  rw [openFile, h]
  dsimp only
  rw [hb]
  refine ⟨rfl, ?_, rfl⟩
  dsimp only [Result.andThen]
  rw [boxes_say]
  show List.filterMap _ (Window.notices (setBuffer _ _)) = _
  rw [notices_setBuffer, notices_setBuffer]
  rfl

/-- Where nothing is in the way, the user has chosen a path. -/
theorem AsksPath.exists_isNamedBy {chosen : Text} (hasks : AsksPath w chosen a)
    (h : ¬ Hindered w a) : ∃ p : Path, p.IsNamedBy w.accounts chosen := by
  cases hhome : (Path.ofText chosen).expandHome w.accounts with
  | error e => exact absurd (.homeless hasks hhome) h
  | ok p =>
    refine ⟨p, ?_, hhome⟩
    rintro rfl
    exact h (.cancelled hasks)

/-- Without anything in the way, the document in the file is opened. -/
theorem openDocument_of_not_hindered {chosen : Text} (h : ¬ Hindered w (.openDocument chosen)) :
    (w.step (.openDocument chosen)).Succeeds ∧
      ∃ p, (w.step (.openDocument chosen)).1.path = some p := by
  -- Every step of opening fails for a reason that is not there.
  obtain ⟨p, hnamed⟩ := AsksPath.opening.exists_isNamedBy h
  obtain ⟨start, hstart⟩ : ∃ start, w.suggestedPath = .ok start := by
    cases hstart : w.suggestedPath with
    | error e => exact absurd (.noDialog hstart) h
    | ok start => exact ⟨start, rfl⟩
  obtain ⟨bytes, hread⟩ : ∃ bytes, w.files.read p = .ok bytes := by
    cases hread : w.files.read p with
    | error e => exact absurd (.unreadable hnamed hread) h
    | ok bytes => exact ⟨bytes, rfl⟩
  have hsize : bytes.length ≤ 5000000 := by
    by_contra hsize
    exact h (.tooLarge hnamed hread (Nat.not_le.mp hsize))
  have hzero : 0 ∉ bytes := fun hzero => h (.binary hnamed hread hzero)
  obtain ⟨t, encoding, hdocument, ht⟩ := Document.exists_read_eq_ok hread hsize hzero
  obtain ⟨notices, hboxes, hstep⟩ := (Opens.chosen hnamed hstart).exists_eq
  obtain ⟨hnone, hsame, hpath⟩ := openFile_of_read (w := { w with notices }) hdocument ht
  rw [hstep]
  exact ⟨⟨hnone, hsame.trans hboxes⟩, p, hpath⟩

/-- Without anything in the way, the document is saved. -/
theorem SavesTo.of_not_hindered (hsaves : SavesTo w p a) (h : ¬ Hindered w a) :
    (w.step a).Succeeds ∧ ∃ p, (w.step a).1.path = some p := by
  cases hwrite : w.files.write p (Utf8.encode w.text) with
  | error e => exact absurd (.unwritable hsaves hwrite) h
  | ok files =>
    refine ⟨hsaves.succeeds_iff.mpr ⟨files, hwrite⟩, p, ?_⟩
    obtain ⟨notices, -, hstep⟩ := hsaves.exists_step_eq
    rw [hstep, saveFile_eq (w := { w with notices }) hwrite]
    rfl

/-- Without anything in the way, saving saves. -/
theorem saveDocument_of_not_hindered {chosen : Text} (h : ¬ Hindered w (.saveDocument chosen)) :
    (w.step (.saveDocument chosen)).Succeeds ∧
      ∃ p, (w.step (.saveDocument chosen)).1.path = some p := by
  cases hpath : w.path with
  | some p => exact SavesTo.of_not_hindered (.again chosen hpath) h
  | none =>
    obtain ⟨p, hnamed⟩ := (AsksPath.first hpath).exists_isNamedBy h
    exact SavesTo.of_not_hindered (.first hpath hnamed) h

/-- So does saving to a path that is chosen. -/
theorem saveDocumentAs_of_not_hindered {chosen : Text}
    (h : ¬ Hindered w (.saveDocumentAs chosen)) :
    (w.step (.saveDocumentAs chosen)).Succeeds ∧
      ∃ p, (w.step (.saveDocumentAs chosen)).1.path = some p := by
  obtain ⟨p, hnamed⟩ := AsksPath.named.exists_isNamedBy h
  exact SavesTo.of_not_hindered (.named hnamed) h

/-! ## Both -/

/-- Whenever the user wants to open or save a document, and whatever path is chosen: if something is
in the way, the window stays as it was but for what it told the user; and if nothing is, the
document is opened or saved, so that it has a path. -/
theorem file_trouble (w : Window) (chosen : Text) :
    ∀ a ∈ [Action.openDocument chosen, .saveDocument chosen, .saveDocumentAs chosen],
      (Hindered w a → ∃ notices, (w.step a).1 = { w with notices }) ∧
      (¬ Hindered w a → (w.step a).Succeeds ∧ ∃ p, (w.step a).1.path = some p) := by
  intro a ha
  refine ⟨step_of_hindered, fun h => ?_⟩
  simp only [List.mem_cons, List.not_mem_nil, or_false] at ha
  obtain rfl | rfl | rfl := ha
  · exact openDocument_of_not_hindered h
  · exact saveDocument_of_not_hindered h
  · exact saveDocumentAs_of_not_hindered h

/-- A new window: a file that is not there cannot be opened, and the document can be saved. -/
theorem file_trouble_missing :
    ∃ w, launch {} = .ok w ∧
      (∃ notices, (w.step (.openDocument "gone.kt")).1 = { w with notices }) ∧
      (w.step (.saveDocumentAs "a.kt")).Succeeds := by
  obtain ⟨w, hw, hmissing, hwrites⟩ := exists_launch_eq (d := {}) (P := fun w =>
    w.files.read (.ofText "gone.kt") = .error .missing ∧
      (w.files.write (.ofText "a.kt") (Utf8.encode w.text)).toOption.isSome = true)
    (by decide +kernel)
  have hopening : Hindered w (.openDocument "gone.kt") :=
    .unreadable ⟨by decide, rfl⟩ hmissing
  have hsaving : ¬ Hindered w (.saveDocumentAs "a.kt") := by
    intro h
    cases h with
    | cancelled h => cases h
    | homeless h hhome => cases h; cases hhome
    | unwritable h hwrite =>
      cases h with
      | named hnamed =>
        have hp : Path.ofText "a.kt" = _ := Except.ok.inj hnamed.2
        rw [← hp] at hwrite
        rw [hwrite] at hwrites
        cases hwrites
  exact ⟨w, hw, (file_trouble w "gone.kt" _ (by simp)).1 hopening,
    ((file_trouble w "a.kt" _ (by simp)).2 hsaving).1⟩

end Window

end SourceEditor

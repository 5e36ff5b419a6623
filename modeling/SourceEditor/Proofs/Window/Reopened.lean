import SourceEditor.Proofs.Document.Decoding
import SourceEditor.Proofs.Files.Written
import SourceEditor.Proofs.Settings.SavedValues
import SourceEditor.Proofs.Window.Editing
import SourceEditor.Proofs.Window.Opened

/-!
# Saving and opening

A document that is saved is found again when its file is opened, and a file that is opened and saved
is written as it was. Only a byte order mark at the beginning is lost on the way: the editor leaves
it out of the document when it opens a file.

* `Window.SavesTo`, `Window.Opens`: the ways to save a document to a path and to open the file
  there.
* `Window.SavesTo.succeeds_iff`: saving succeeds exactly if the file can be written.
* `Window.SavesTo.lastMessage?_step`, `Window.dialogs_saveDocument`: what the user hears of it, and
  is asked.
* `Window.Opens.of_read`: what opening a file of well-formed UTF-8 leaves in the editor.
* `Window.open_save_roundtrip`: saving and opening, one after the other.
-/

namespace SourceEditor.Window

/-- What was asked of a window was done: it did not break off, and no box tells of trouble. -/
def Result.Succeeds (r : Result) : Prop :=
  r.2 = none ∧ r.1.boxes = []

/-- An action that saves the document to a path, whether that is the path of the document already or
the user chooses it. -/
inductive SavesTo (w : Window) (p : Path) : Action → Prop
  | again (chosen : Text) (h : w.path = some p) : SavesTo w p (.saveDocument chosen)
  /-- A new document, for which the user is asked for a path. -/
  | first {chosen : Text} (h : w.path = none) (hnamed : p.IsNamedBy w.accounts chosen) :
      SavesTo w p (.saveDocument chosen)
  | named {chosen : Text} (hnamed : p.IsNamedBy w.accounts chosen) :
      SavesTo w p (.saveDocumentAs chosen)

/-- Opening the file at a path, by itself or as what the user asks for. The dialog in which a file
is chosen comes up at the last path; if that cannot be looked for, there is none. -/
inductive Opens (w : Window) (p : Path) : Result → Prop
  | file : Opens w p (openFile { w with notices := [] } p)
  | chosen {t start : Text} (hnamed : p.IsNamedBy w.accounts t)
      (hstart : w.suggestedPath = .ok start) :
      Opens w p (w.step (.openDocument t))

variable {w : Window} {p : Path} {a : Action} {r : Result}

/-! ## Saving -/

/-- Telling the user of something leaves the accounts. -/
theorem accounts_tell (w : Window) (notice : Notice) : (w.tell notice).accounts = w.accounts :=
  rfl

/-- Messages and dialogs are no boxes. -/
theorem boxes_say (w : Window) (message : Text) : (w.say message).boxes = w.boxes := by
  simp [boxes, say, tell, List.filterMap_append]

/-- Dialogs are none either. -/
theorem boxes_dialog (w : Window) (title start filter : Text) :
    (w.tell (.dialog title start filter)).boxes = w.boxes := by
  simp [boxes, tell, List.filterMap_append]

/-- The user is asked for a path, and then the document is saved to it. -/
theorem saveDocumentAs_eq (w : Window) {chosen : Text} (hnamed : p.IsNamedBy w.accounts chosen) :
    w.saveDocumentAs chosen = saveFile (w.tell (.dialog "Save source file"
      ((w.path.map Path.text).getD w.language.saveSuggestion) w.language.fileFilter)) p := by
  rw [saveDocumentAs, List.isEmpty_eq_false_iff.mpr hnamed.1, if_neg Bool.false_ne_true,
    accounts_tell, hnamed.2]

/-- However the document is saved, there is at most a dialog before its file is written. -/
theorem SavesTo.exists_step_eq (h : SavesTo w p a) :
    ∃ notices, boxes { w with notices } = [] ∧ w.step a = saveFile { w with notices } p := by
  -- What the window told before, it has forgotten by then.
  let quiet : Window := { w with notices := [] }
  cases h with
  | again chosen hpath =>
    refine ⟨[], rfl, ?_⟩
    show quiet.saveDocument chosen = quiet.saveFile p
    rw [saveDocument, show quiet.path = some p from hpath]
  | @first chosen hpath hnamed =>
    refine ⟨_, quiet.boxes_dialog _ _ _, Eq.trans ?_ (quiet.saveDocumentAs_eq hnamed)⟩
    show quiet.saveDocument chosen = quiet.saveDocumentAs chosen
    rw [saveDocument, show quiet.path = none from hpath]
  | named hnamed => exact ⟨_, quiet.boxes_dialog _ _ _, quiet.saveDocumentAs_eq hnamed⟩

/-- What a window is after its file was written. -/
theorem saveFile_eq {files : FileSystem}
    (hwrite : w.files.write p (Utf8.encode w.text) = .ok files) :
    w.saveFile p = ((setPath { w with files } p).say (("Saved " : Text) ++ p.name), none) := by
  rw [saveFile, TextFile.write, hwrite]

/-- A file that cannot be written is not passed over in silence. -/
theorem not_succeeds_saveFile {e : FileError}
    (hwrite : w.files.write p (Utf8.encode w.text) = .error e) : ¬ (w.saveFile p).Succeeds := by
  rw [saveFile, TextFile.write, hwrite]
  dsimp only
  split
  · rintro ⟨hnone, -⟩
    cases hnone
  · rintro ⟨-, hboxes⟩
    simp [boxes, tell] at hboxes

/-- Saving succeeds exactly if the file can be written. -/
theorem SavesTo.succeeds_iff (h : SavesTo w p a) :
    (w.step a).Succeeds ↔ ∃ files, w.files.write p (Utf8.encode w.text) = .ok files := by
  obtain ⟨notices, hboxes, hstep⟩ := h.exists_step_eq
  rw [hstep]
  constructor
  · intro hsucceeds
    cases hwrite : w.files.write p (Utf8.encode w.text) with
    | error e => exact absurd hsucceeds (not_succeeds_saveFile (w := { w with notices }) hwrite)
    | ok files => exact ⟨files, rfl⟩
  · rintro ⟨files, hwrite⟩
    rw [saveFile_eq (w := { w with notices }) hwrite]
    exact ⟨rfl, (boxes_say _ _).trans hboxes⟩

/-- What a window is after it saved its document to a path. -/
structure Saved (w : Window) (p : Path) (w' : Window) : Prop where
  files : w.files.write p (Utf8.encode w.text) = .ok w'.files
  lastOpenPath : w'.settings.get .lastOpenPath = .string p.text
  text : w'.text = w.text
  accounts : w'.accounts = w.accounts

/-- Where saving succeeds, the file holds the document, and its path is noted. -/
theorem SavesTo.saved (h : SavesTo w p a) (hsucceeds : (w.step a).Succeeds) :
    Saved w p (w.step a).1 := by
  obtain ⟨notices, -, hstep⟩ := h.exists_step_eq
  obtain ⟨files, hwrite⟩ := h.succeeds_iff.mp hsucceeds
  rw [hstep, saveFile_eq (w := { w with notices }) hwrite]
  refine ⟨hwrite, ?_, rfl, rfl⟩
  show (w.settings.set .lastOpenPath (.string p.text)).get .lastOpenPath = _
  rw [Settings.get_set, if_pos rfl]

/-- What is said is the last message. -/
theorem lastMessage?_say (w : Window) (message : Text) :
    (w.say message).lastMessage? = some message := by
  simp [lastMessage?, say, tell, List.filterMap_append]

/-- A document that was saved is told by the name of its file. -/
theorem SavesTo.lastMessage?_step (h : SavesTo w p a) (hsucceeds : (w.step a).Succeeds) :
    (w.step a).1.lastMessage? = some (("Saved " : Text) ++ p.name) := by
  obtain ⟨notices, -, hstep⟩ := h.exists_step_eq
  obtain ⟨files, hwrite⟩ := h.succeeds_iff.mp hsucceeds
  rw [hstep, saveFile_eq (w := { w with notices }) hwrite]
  exact lastMessage?_say _ _

/-- Saving to a path asks for nothing. -/
theorem dialogs_saveFile (w : Window) (p : Path) : (w.saveFile p).1.dialogs = w.dialogs := by
  unfold saveFile
  split
  · simp [dialogs, say, tell, setPath, titled, List.filterMap_append]
  · split
    · rfl
    · simp [dialogs, tell, List.filterMap_append]

/-- The user is asked for a path to save to, once, if and only if the document has none. -/
theorem dialogs_saveDocument (w : Window) (chosen : Text) :
    (w.step (.saveDocument chosen)).1.dialogs =
      if w.path.isSome then []
      else [(("Save source file" : Text), w.language.saveSuggestion, w.language.fileFilter)] := by
  let quiet : Window := { w with notices := [] }
  show (quiet.saveDocument chosen).1.dialogs = _
  rw [saveDocument]
  cases hpath : w.path with
  | some p => exact quiet.dialogs_saveFile p
  | none =>
    have hasked : (quiet.tell (.dialog "Save source file" w.language.saveSuggestion
        w.language.fileFilter)).dialogs =
        [(("Save source file" : Text), w.language.saveSuggestion, w.language.fileFilter)] := rfl
    -- Whatever is chosen, no other dialog comes behind this one.
    show (quiet.saveDocumentAs chosen).1.dialogs = _
    unfold saveDocumentAs
    rw [show quiet.path = none from hpath]
    dsimp only [Option.map_none, Option.getD_none]
    split
    · exact hasked
    · split
      · exact hasked
      · exact (dialogs_saveFile _ _).trans hasked

/-! ## Opening -/

/-- The dialog comes up at a path that leads to a file. -/
theorem exists_suggestedPath (hlast : w.settings.get .lastOpenPath = .string p.text)
    (hnamed : p.IsNamedBy w.accounts p.text) {bytes : Bytes} (hread : w.files.read p = .ok bytes) :
    ∃ start, w.suggestedPath = .ok start := by
  unfold suggestedPath lastOpenPath?
  rw [hlast]
  dsimp only
  split
  · exact ⟨_, rfl⟩
  · next t ht =>
    -- The path that was noted is that of the file, and the file is there.
    obtain rfl : p.text = t := by
      split at ht
      · cases ht
      · exact Option.some.inj ht
    rw [hnamed.2]
    simp only [Except.mapError, bind, Except.bind, FileSystem.contains_of_read hread]
    exact ⟨_, rfl⟩

/-- What opening a file of well-formed UTF-8 leaves in the editor. -/
theorem openFile_eq {t : Text} (ht : Utf8.isEncodable t = true)
    (hread : w.files.read p = .ok (Utf8.encode t)) (hsize : (Utf8.encode t).length ≤ 5000000)
    (hzero : Character.scalar '\x00' ∉ t) :
    ∃ b : Buffer, b.text = t.withoutMark ∧ w.openFile p =
      ((((w.setBuffer w.surface.buffer.selectAll).setBuffer b).setPath p).say
        (("Loaded " : Text) ++ p.name ++ " (" ++ Document.Encoding.exact.name ++ ", "
          ++ Numeral.ofNat t.withoutMark.length ++ " chars)"), none) := by
  have hdocument : Document.read w.files p = .ok (t.withoutMark, .exact) := by
    rw [Document.read, hread]
    dsimp only
    rw [Document.sizeLimit, if_neg (Nat.not_lt.mpr hsize), Document.decode?_encode ht hzero]
  obtain ⟨b, htext, hb⟩ := w.exists_replaceDocument (Utf8.isEncodable_withoutMark ht)
  refine ⟨b, htext, ?_⟩
  rw [openFile, hdocument]
  dsimp only
  rw [hb]
  rfl

/-- However a file is opened, there is at most a dialog before. -/
theorem Opens.exists_eq (h : Opens w p r) :
    ∃ notices, boxes { w with notices } = [] ∧ r = openFile { w with notices } p := by
  cases h with
  | file => exact ⟨[], rfl, rfl⟩
  | @chosen t start hnamed hstart =>
    let quiet : Window := { w with notices := [] }
    refine ⟨_, quiet.boxes_dialog "Open source file" start quiet.language.fileFilter, ?_⟩
    show quiet.openDocument t = _
    rw [openDocument, show quiet.suggestedPath = .ok start from hstart]
    dsimp only
    rw [List.isEmpty_eq_false_iff.mpr hnamed.1, if_neg Bool.false_ne_true, accounts_tell,
      show Path.expandHome quiet.accounts _ = .ok p from hnamed.2]
    rfl

/-- What a window is after it opened the file at a path. -/
structure Opened (p : Path) (t : Text) (r : Result) : Prop where
  succeeds : r.Succeeds
  path : r.1.path = some p
  text : r.1.text = t

/-- A file of well-formed UTF-8 without zero bytes becomes the document. -/
theorem Opens.of_read (h : Opens w p r) {t : Text} (ht : Utf8.isEncodable t = true)
    (hread : w.files.read p = .ok (Utf8.encode t)) (hsize : (Utf8.encode t).length ≤ 5000000)
    (hzero : Character.scalar '\x00' ∉ t) :
    Opened p t.withoutMark r ∧ r.1.files = w.files := by
  obtain ⟨notices, hboxes, rfl⟩ := h.exists_eq
  obtain ⟨b, htext, hopen⟩ := openFile_eq (w := { w with notices }) ht hread hsize hzero
  rw [hopen]
  refine ⟨⟨⟨rfl, ?_⟩, rfl, ?_⟩, ?_⟩
  · rw [boxes_say]
    show List.filterMap _ (Window.notices (setBuffer _ _)) = []
    rw [notices_setBuffer, notices_setBuffer]
    exact hboxes
  · show Window.text (setBuffer _ _) = _
    rw [text_setBuffer, htext]
  · show Desktop.files (toDesktop (setBuffer _ _)) = _
    rw [files_setBuffer, files_setBuffer]

/-! ## One after the other -/

/-- Saving and opening undo each other, but for one byte order mark.

A document without the character of zero, of at most 5,000,000 bytes, that was saved to a path is
found there again: however the file is opened, the editor holds the text of the document, without
the mark if it began with one. Nothing stands in the way of the dialog in which the user chooses the
file.

A file of at most 5,000,000 bytes that is well-formed UTF-8 without zero bytes, whatever its line
ends, can be opened; and saving the document to it, as its path is that of the document then,
writes the bytes of the file, without the mark if they began with one. -/
theorem open_save_roundtrip :
    (∀ (w : Window) (p : Path) (a : Action), SavesTo w p a → (w.step a).Succeeds →
      Character.scalar '\x00' ∉ w.text → (Utf8.encode w.text).length ≤ 5000000 →
        (∀ r, Opens (w.step a).1 p r → Opened p w.text.withoutMark r) ∧
        ∀ chosen, p.IsNamedBy w.accounts chosen →
          Opens (w.step a).1 p ((w.step a).1.step (.openDocument chosen))) ∧
    (∀ (w : Window) (p : Path) (bytes : Bytes), w.files.read p = .ok bytes →
      bytes.length ≤ 5000000 → 0 ∉ bytes → Utf8.IsWellFormed bytes → ∀ r, Opens w p r →
        r.Succeeds ∧ (∀ chosen, SavesTo r.1 p (.saveDocument chosen)) ∧
        ∀ a, SavesTo r.1 p a → (r.1.step a).Succeeds ∧
          (r.1.step a).1.files.read p = .ok (Document.withoutMark bytes)) := by
  constructor
  · intro w p a hsaves hsucceeds hzero hsize
    have hsaved := hsaves.saved hsucceeds
    have hread : (w.step a).1.files.read p = .ok (Utf8.encode w.text) :=
      FileSystem.read_write hsaved.files
    refine ⟨fun r hopens => ?_, fun chosen hnamed => ?_⟩
    · exact (hopens.of_read w.surface.buffer.isEncodable_text hread hsize hzero).1
    · rw [← hsaved.accounts] at hnamed
      obtain ⟨start, hstart⟩ := exists_suggestedPath hsaved.lastOpenPath hnamed.text hread
      exact .chosen hnamed hstart
  · rintro w p bytes hread hsize hzero hwellFormed r hopens
    -- The bytes are those of a text, which the editor holds without the mark once it is opened.
    obtain ⟨t, ht, rfl⟩ := Utf8.isWellFormed_iff.mp hwellFormed
    obtain ⟨hopened, hfiles⟩ := hopens.of_read ht hread hsize
      ((Utf8.zero_mem_encode_iff ht).not.mp hzero)
    refine ⟨hopened.succeeds, fun chosen => .again chosen hopened.path, fun a hsaves => ?_⟩
    obtain ⟨files, hwrite⟩ := FileSystem.exists_write_of_read hread (Utf8.encode r.1.text)
    have hsucceeds : (r.1.step a).Succeeds := by
      apply hsaves.succeeds_iff.mpr
      exact ⟨files, hfiles ▸ hwrite⟩
    refine ⟨hsucceeds, ?_⟩
    rw [FileSystem.read_write (hsaves.saved hsucceeds).files, hopened.text,
      Document.withoutMark_encode ht]

/-- A text with a mark and with line ends of all kinds, saved, opened under another name of its
path, and saved again. -/
theorem open_save_roundtrip_mark :
    let t : Text := "\uFEFFé\r\n\r𝄞\n"
    let path : Path := .ofText "a.txt"
    ∃ w, launch {} = .ok w ∧
      let saved := (w.run [.setText t]).step (.saveDocumentAs "a.txt")
      let opened := saved.1.step (.openDocument "./a.txt")
      saved.Succeeds ∧ saved.1.files.read path = .ok (Utf8.encode t) ∧
        opened.1.text = ("é\r\n\r𝄞\n" : Text) ∧
        (opened.1.step (.saveDocument [])).1.files.read path =
          .ok (Utf8.encode "é\r\n\r𝄞\n") := by
  intro t path
  obtain ⟨w, hw, htext, hsucceeds, hread⟩ := exists_launch_eq (d := {}) (P := fun w =>
    let w' := w.run [.setText t]
    let saved := w'.step (.saveDocumentAs "a.txt")
    w'.text = t ∧ (saved.2 = none ∧ saved.1.boxes = []) ∧
      saved.1.files.read path = .ok (Utf8.encode t)) (by decide +kernel)
  have hsaves : SavesTo (w.run [.setText t]) path (.saveDocumentAs "a.txt") :=
    .named ⟨by decide, rfl⟩
  have hopening := open_save_roundtrip.1 _ _ _ hsaves hsucceeds (by rw [htext]; decide)
    (by rw [htext]; decide)
  have hopens := hopening.2 "./a.txt" ⟨by decide, rfl⟩
  have hopened := hopening.1 _ hopens
  have hsaving := open_save_roundtrip.2 _ _ _ hread (by decide) (by decide)
    ⟨_, Utf8.encode_ofChars "\uFEFFé\r\n\r𝄞\n".toList⟩ _ hopens
  refine ⟨w, hw, hsucceeds, hread, ?_, ?_⟩
  · rw [hopened.text, htext]
    decide
  · rw [(hsaving.2.2 _ (hsaving.2.1 [])).2]
    decide

end SourceEditor.Window

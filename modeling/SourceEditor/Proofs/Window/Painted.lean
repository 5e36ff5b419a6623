import SourceEditor.Proofs.Compile.Replay
import SourceEditor.Proofs.Editor.Painting
import SourceEditor.Proofs.Highlight.Overlays
import SourceEditor.Proofs.Window.Opened
import SourceEditor.Proofs.Window.Rules

/-!
# What a window paints

A window paints its document anew whenever something changes that the painting depends on: the
styles at once, the marks when their timer fires. So the styles are never stale, and the marks are
only while the timer runs.

* `Window.Painted`: what the editor of a window shows is up to date.
* `Window.Adjustment.painted`, `Window.Report.painted`: every change of a window keeps it so.
* `Window.paints_styling`: byte for byte, every window that can come about shows its styling.
-/

namespace SourceEditor.Window

/-! ## What a window hears of its session -/

/-- The marks wait once there is news about the errors. -/
theorem marksPending_foldl_hear (w : Window) (announcements : List Announcement)
    (h : (announcements.foldl hear w).marksPending = false) :
    w.marksPending = false ∧
      ∀ lines, Event.diagnostics lines ∉ announcements.map Announcement.event := by
  induction announcements generalizing w with
  | nil => exact ⟨h, by simp⟩
  | cons a announcements ih =>
    obtain ⟨hpending, hno⟩ := ih (w.hear a) h
    obtain ⟨event, session⟩ := a
    cases event with
    | diagnostics lines =>
      -- The marks wait from here on, so that they cannot be said not to wait in the end.
      simp [hear, scheduleMarks] at hpending
    | _ => exact ⟨hpending, by simpa using hno⟩

/-! ## Up to date -/

/-- The editor of a window shows the document as it is: the styles as the chosen language classifies
it, and the marks as they should be painted, unless they wait to be painted. -/
structure Painted (w : Window) : Prop where
  styles : w.surface.Styled w.highlighter
  marks : w.marksPending = false → w.surface.Marked w.styling

variable {w w' : Window}

/-- What should be painted depends on what classifies the text, the text, the query and the errors
alone. -/
theorem styling_congr (hhighlighter : w'.highlighter = w.highlighter) (htext : w'.text = w.text)
    (hfind : w'.find = w.find) (herrors : w'.session.errorLines = w.session.errorLines) :
    w'.styling = w.styling := by
  simp only [styling, hhighlighter, htext, hfind, herrors]

/-- A window stays up to date if nothing changes that is painted. -/
theorem Painted.congr (h : Painted w) (hsurface : w'.surface = w.surface)
    (hhighlighter : w'.highlighter = w.highlighter) (hfind : w'.find = w.find)
    (hmarks : w'.marksPending = false →
      w.marksPending = false ∧ w'.session.errorLines = w.session.errorLines) : Painted w' where
  styles := by
    rw [hsurface, hhighlighter]
    exact h.styles
  marks hp := by
    obtain ⟨hp', herrors⟩ := hmarks hp
    have htext : w'.text = w.text := congrArg Surface.text hsurface
    rw [hsurface, styling_congr hhighlighter htext hfind herrors]
    exact h.marks hp'

/-- While the marks wait, only the styles have to be up to date. -/
theorem Painted.of_pending (hpending : w.marksPending = true)
    (hstyles : w.surface.Styled w.highlighter) : Painted w :=
  ⟨hstyles, fun h => by simp [hpending] at h⟩

/-- Painting the marks brings them up to date. -/
theorem painted_refreshMarks (hstyles : w.surface.Styled w.highlighter) :
    Painted w.refreshMarks := by
  have hstyling : w.refreshMarks.styling = w.styling :=
    styling_congr rfl (w.surface.text_paintMarks w.styling) rfl rfl
  refine ⟨hstyles.paintMarks w.styling, fun _ => ?_⟩
  rw [hstyling]
  exact Surface.marked_paintMarks (w.highlighter.text_compose w.text w.find _)

/-- Another buffer keeps the styles up to date, and has the marks wait if the text is another one.
-/
theorem Painted.setBuffer (h : Painted w) (b : Buffer) : Painted (w.setBuffer b) := by
  unfold Window.setBuffer
  dsimp only
  split
  · next htext =>
    -- Only the selection is another one, and the styling does not depend on it.
    have hstyling : ({ w with surface := w.surface.setBuffer b } : Window).styling = w.styling :=
      styling_congr rfl ((w.surface.text_setBuffer b).trans htext) rfl rfl
    refine ⟨h.styles.setBuffer b, fun hp => ?_⟩
    rw [hstyling]
    exact (h.marks hp).setBuffer b
  · exact .of_pending rfl (h.styles.setBuffer b)

/-- The timer paints the marks that wait. -/
theorem Painted.timer (h : Painted w) : Painted w.timer := by
  unfold Window.timer
  split
  · exact painted_refreshMarks h.styles
  · exact h

/-- Another query has the marks wait. -/
theorem Painted.setFind (h : Painted w) (q : Query) : Painted (w.setFind q) := by
  unfold Window.setFind
  split
  · exact h
  · exact .of_pending rfl h.styles

/-- Another language paints the styles anew, and has the marks wait. -/
theorem Painted.setLanguage (h : Painted w) (name : Text) : Painted (w.setLanguage name) := by
  unfold Window.setLanguage
  dsimp only
  split
  · exact h
  · obtain ⟨notices, hwarned⟩ := exists_warnOfRules_eq
      { w with language := .ofName name, rules := w.ruleFiles.rulesOf (.ofName name) }
    rw [hwarned]
    exact .of_pending rfl (Surface.styled_restyle _)

/-- Another palette paints everything anew. -/
theorem Painted.showPalette (h : Painted w) (p : Palette) : Painted (w.showPalette p) :=
  painted_refreshMarks (h.styles.setPalette p)

/-- A call that changes the error lines announces them, so that the marks wait. -/
theorem Painted.call (h : Painted w) (c : Session.Call) :
    Painted (w.followSession (c.respond w.session)) := by
  obtain ⟨chip, result, compileEnabled, log, marksPending, hheard⟩ :=
    w.exists_followSession_eq (c.respond w.session)
  refine h.congr (by rw [hheard]) (by rw [hheard]; rfl) (by rw [hheard]) fun hp => ?_
  obtain ⟨hpending, hno⟩ := w.marksPending_foldl_hear _ hp
  refine ⟨hpending, ?_⟩
  -- What the session holds after the call is what an observer of its events makes of them.
  have hreplay := (c.transition w.session).replay_eq
  calc (w.followSession (c.respond w.session)).session.errorLines
      = (c.respond w.session).session.errorLines := by rw [session_followSession]
    _ = (w.session.replay (c.respond w.session).events).errorLines := by rw [hreplay]
    _ = w.session.errorLines := Session.errorLines_replay hno

/-- Every change of a window keeps its editor up to date. -/
theorem Adjustment.painted (hchange : Adjustment w w') (h : Painted w) : Painted w' := by
  cases hchange with
  | buffer b => exact h.setBuffer b
  | textChanged => exact .of_pending rfl h.styles
  | timer => exact h.timer
  | find q => exact h.setFind q
  | language name => exact h.setLanguage name
  | palette p => exact h.showPalette p
  | _ => exact h.congr rfl rfl rfl fun hp => ⟨hp, rfl⟩

/-- What comes from the compiler keeps the editor up to date as well. -/
theorem Report.painted (hchange : Report w w') (h : Painted w) : Painted w' := by
  cases hchange with
  | call c => exact h.call c
  | _ => exact h.congr rfl rfl rfl fun hp => ⟨hp, rfl⟩

/-- Without a query and without errors, nothing is painted over a scanned text. -/
theorem layers_compose_nothing (r : RuleSet) (t : Text) :
    (Highlighter.compose ⟨some r, true⟩ t {} []).layers = [] := by
  simp [Highlighter.compose, Highlighter.base, RuleSet.scan, StyledText.overlaySearch,
    StyledText.overlayErrors, StyledText.paint, RulePass.spansOf, Text.isBlank, sortedLines]

/-- A fresh window has nothing to mark. -/
theorem painted_fresh (d : Desktop) (themes : ThemeManager) (p : Preferences) :
    Painted (fresh d themes p) := by
  have hstyles : ({} : Surface).Styled (fresh d themes p).highlighter := ⟨rfl, rfl⟩
  have hlayers : (fresh d themes p).styling.layers = [] := layers_compose_nothing _ _
  have hmarks (c : Category) : Surface.marksOf (fresh d themes p).styling c = [] := by
    simp [Surface.marksOf, hlayers]
  have hblank : ({} : Surface).Marked (fresh d themes p).styling :=
    ⟨(hmarks .searchMatch).symm, (hmarks .errorLine).symm⟩
  exact ⟨hstyles.setBuffer { text := sampleText }, fun _ =>
    hblank.setBuffer { text := sampleText }⟩

/-- So the editor of every window that can come about is up to date. -/
theorem Reachable.painted (h : Reachable w) : Painted w :=
  h.induction painted_fresh (fun _ _ hchange => hchange.painted) fun _ _ hchange => hchange.painted

/-- Whatever has happened to a window, every byte of its text has the style of the character that it
belongs to, as the chosen language classifies it, and there are styles for just the bytes of the
text. Unless the marks wait to be painted, just the bytes of the matches of the query are marked as
matches, and just those of the lines with errors as errors. The rules of the language are those that
loading its rule document gives: with the rule documents that the editor comes with, the ones that
it knows of the language. -/
theorem paints_styling (h : Reachable w) :
    let chosen : Highlighter := ⟨w.ruleFiles.rulesOf w.language, w.language.isBuiltin⟩
    let styling := chosen.compose w.text w.find (w.session.errorLines.map Int.ofNat)
    (w.language.loadRules w.ruleFiles.files w.ruleFiles.directory = .ok chosen.rules ∧
      (w.ruleFiles = .bundled → chosen.rules = some w.language.rules)) ∧
    ((∀ i b, Utf8.IsByteOf w.text i b → StyleRun.styleAt w.surface.styles b =
        some (topLexical ((chosen.base w.text).categoriesAt i)).styleNumber) ∧
      StyleRun.extent w.surface.styles = (Utf8.encode w.text).length) ∧
    (w.marksPending = false → ∀ b,
      ((∃ m ∈ w.surface.searchMarks, m.Covers b) ↔
        ∃ i, Utf8.IsByteOf w.text i b ∧ .searchMatch ∈ styling.categoriesAt i) ∧
      ((∃ m ∈ w.surface.errorMarks, m.Covers b) ↔
        ∃ i, Utf8.IsByteOf w.text i b ∧ .errorLine ∈ styling.categoriesAt i)) := by
  intro chosen styling
  -- What is painted is well-formed and is that of the text in the editor.
  have hbase : (chosen.base w.text).WellFormed := chosen.wellFormed_base w.text
  have hbasetext : (chosen.base w.text).text = w.text := chosen.text_base w.text
  have hstyling : styling.WellFormed := chosen.wellFormed_compose w.text w.find _
  have htext : styling.text = w.text := chosen.text_compose w.text w.find _
  have hknown : w.highlighter = chosen := h.knowsRules.highlighter_eq
  have hstyles : w.surface.styles = Surface.stylesOf (chosen.base w.text) :=
    hknown ▸ h.painted.styles.styles
  -- Overlays come from layers alone, so that the marks miss none.
  have hoverlay {c : Category} (hc : c.isOverlay = true) :
      ∀ span ∈ styling.base, span.category ≠ c := by
    rintro span hspan rfl
    rw [chosen.base_compose] at hspan
    simp [chosen.isOverlay_base w.text span hspan] at hc
  refine ⟨⟨w.ruleFiles.loads w.language h.knowsRules.language, fun hfiles => ?_⟩,
    ⟨fun i b hb => ?_, ?_⟩, fun hpending b => ?_⟩
  · simp only [chosen, hfiles, RuleFiles.bundled]
  · rw [hstyles]
    exact hbase.styleAt_stylesOf (hbasetext.symm ▸ hb)
  · rw [hstyles, hbase.extent_stylesOf, hbasetext]
  · have hshown : w.styling = styling := by rw [Window.styling, hknown]
    have hmarks : w.surface.Marked styling := hshown ▸ h.painted.marks hpending
    rw [hmarks.search, hmarks.errors, ← htext]
    exact ⟨hstyling.exists_mark_iff (hoverlay rfl), hstyling.exists_mark_iff (hoverlay rfl)⟩

/-- A window just opened, in which a word behind a character of two bytes is looked for. -/
theorem paints_styling_search :
    ∃ w, launch {} = .ok w ∧
      let w' := w.run [.setText "é if", .setFind { text := "if" }, .timer]
      w'.marksPending = false ∧ w'.surface.searchMarks = [⟨3, 2⟩] ∧
        ∃ i, Utf8.IsByteOf w'.text i 3 ∧
          .searchMatch ∈ (w'.highlighter.compose w'.text w'.find
            (w'.session.errorLines.map Int.ofNat)).categoriesAt i := by
  -- Opening and the three actions are computed; that the window can come about is not.
  obtain ⟨w, hw, hpending, hmarks⟩ := exists_launch_eq (d := {}) (P := fun w =>
    let w' := w.run [.setText "é if", .setFind { text := "if" }, .timer]
    w'.marksPending = false ∧ w'.surface.searchMarks = [⟨3, 2⟩]) (by decide +kernel)
  refine ⟨w, hw, hpending, hmarks, ?_⟩
  have hreach := (Reachable.launch hw).run [.setText "é if", .setFind { text := "if" }, .timer]
  have hpainted := ((paints_styling hreach).2.2 hpending 3).1.mp
    ⟨⟨3, 2⟩, hmarks ▸ List.mem_singleton_self _, by decide, by decide⟩
  rwa [hreach.knowsRules.highlighter_eq]

end SourceEditor.Window

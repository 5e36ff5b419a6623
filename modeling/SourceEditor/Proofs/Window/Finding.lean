import SourceEditor.Proofs.Highlight.Overlays
import SourceEditor.Proofs.Search.Cycle
import SourceEditor.Proofs.Search.Replacement
import SourceEditor.Proofs.Window.Editing
import SourceEditor.Proofs.Window.Opened

/-!
# Finding and replacing what is highlighted

The matches that are highlighted in a document are the ones that the buttons of the find bar work
on. "Find next" goes from one to the next and begins again behind the last; "replace all" replaces
each of them and nothing else.

* `Window.Searches`: a number of clicks on "find next", with nothing in between that has to do with
  the document.
* `Window.findNext_cycle`: the match that is selected after some clicks.
* `Window.replaceEvery_highlighted`: what replacing every match leaves in the editor.
-/

namespace SourceEditor

namespace Window

variable {w w' : Window} {p : Pattern} {found : List Match} {k : Nat}

/-! ## Find next -/

/-- Going to the next match keeps the query. -/
theorem find_findNext (w : Window) : w.findNext.find = w.find := by
  unfold findNext
  split
  · rfl
  · split
    · rfl
    · exact w.find_setBuffer _

/-- The next match is selected; where there is none, the selection stays. -/
theorem buffer_findNext (hp : w.find.pattern? = some p) :
    w.findNext.surface.buffer = ((p.findNext w.text w.surface.buffer.selection.2).map fun m =>
      w.surface.buffer.selectRange m.1 m.2).getD w.surface.buffer := by
  rw [findNext, hp]
  dsimp only
  split
  · next hnone =>
    rw [hnone]
    rfl
  · next hsome =>
    rw [hsome, buffer_setBuffer]
    rfl

/-- Some clicks on "find next". Between them anything may happen that leaves the text with its
selection and the query as they are. -/
inductive Searches (w : Window) : Nat → Window → Prop
  | start : Searches w 0 w
  /-- One more click. -/
  | click {k : Nat} {w' : Window} (h : Searches w k w') : Searches w (k + 1) (w'.step .findNext).1
  /-- Something that has nothing to do with the document. -/
  | aside {k : Nat} {w' w'' : Window} (h : Searches w k w')
      (hbuffer : w''.surface.buffer = w'.surface.buffer) (hfind : w''.find = w'.find) :
      Searches w k w''

/-- Where a number of searches have led: to the match of that number, if there is any match. -/
structure LedTo (w : Window) (found : List Match) (k : Nat) (w' : Window) : Prop where
  text : w'.text = w.text
  find : w'.find = w.find
  still : found = [] ∨ k = 0 → w'.surface.buffer = w.surface.buffer
  selection : 0 < k → found ≠ [] →
    found[(k - 1) % found.length]? = some w'.surface.buffer.selection

/-- From where some searches have led, the next one finds the next match. -/
theorem LedTo.findNext_eq (h : LedTo w found k w') (hcaret : w.surface.buffer.selection = (0, 0))
    (hfound : LeftmostMatches (p.Occurs w.text) 0 found) :
    p.findNext w'.text w'.surface.buffer.selection.2 = found[k % found.length]? := by
  rw [h.text]
  by_cases hstill : found = [] ∨ k = 0
  · -- The caret is still at the beginning, from where the search finds the first match.
    rw [h.still hstill, hcaret,
      Pattern.findNext_eq_head?_or (Nat.zero_le _) hfound hfound, Option.or_self,
      List.head?_eq_getElem?]
    rcases hstill with rfl | rfl
    · rfl
    · rw [Nat.zero_mod]
  · rw [not_or] at hstill
    have hpos : 0 < k := Nat.pos_of_ne_zero hstill.2
    have hlt : (k - 1) % found.length < found.length :=
      Nat.mod_lt _ (List.length_pos_iff.mpr hstill.1)
    have hselected := h.selection hpos hstill.1
    rw [List.getElem?_eq_getElem hlt, Option.some.injEq] at hselected
    rw [← hselected, Pattern.findNext_stop hfound hlt, Nat.mod_add_mod, Nat.sub_add_cancel hpos]

/-- Each click leads to the next one of the matches, in a circle. -/
theorem LedTo.click (h : LedTo w found k w') (hp : w.find.pattern? = some p)
    (hcaret : w.surface.buffer.selection = (0, 0))
    (hfound : LeftmostMatches (p.Occurs w.text) 0 found) :
    LedTo w found (k + 1) (w'.step .findNext).1 := by
  -- What the window told before has no part in the search.
  let quiet : Window := { w' with notices := [] }
  have hpattern : quiet.find.pattern? = some p := by
    rw [← hp]
    exact congrArg Query.pattern? h.find
  have hnext : p.findNext quiet.text quiet.surface.buffer.selection.2 =
      found[k % found.length]? := h.findNext_eq hcaret hfound
  have hbuffer := buffer_findNext hpattern
  rw [hnext] at hbuffer
  refine ⟨?_, quiet.find_findNext.trans h.find, ?_, ?_⟩
  · show quiet.findNext.surface.buffer.text = w.surface.buffer.text
    rw [hbuffer, ← show w'.surface.buffer.text = w.surface.buffer.text from h.text]
    cases found[k % found.length]? with
    | none => rfl
    | some m => exact quiet.surface.buffer.text_selectRange m.1 m.2
  · rintro (rfl | hzero)
    · exact hbuffer.trans (h.still (.inl rfl))
    · exact absurd hzero (Nat.succ_ne_zero k)
  · intro _ hne
    have hlt : k % found.length < found.length := Nat.mod_lt _ (List.length_pos_iff.mpr hne)
    rw [List.getElem?_eq_getElem hlt] at hbuffer
    -- The match lies within the text, and so its ends can be selected as they are.
    obtain ⟨i, n, hm, hoccurs⟩ := hfound.exists_of_mem (List.getElem_mem hlt)
    have hlength : i + n ≤ quiet.surface.buffer.text.length := by
      have hle := hoccurs.2.add_length_le
      rw [← hoccurs.1, ← h.text] at hle
      exact hle
    show _ = some quiet.findNext.surface.buffer.selection
    rw [Nat.add_sub_cancel, List.getElem?_eq_getElem hlt, hbuffer, hm, Option.map_some,
      Option.getD_some, Buffer.selection_selectRange _ (Nat.le_add_right i n),
      Nat.min_eq_left (by omega), Nat.min_eq_left hlength]

/-- After so many clicks, the window has been led to just as many matches. -/
theorem Searches.ledTo (h : Searches w k w') (hp : w.find.pattern? = some p)
    (hcaret : w.surface.buffer.selection = (0, 0))
    (hfound : LeftmostMatches (p.Occurs w.text) 0 found) : LedTo w found k w' := by
  induction h with
  | start => exact ⟨rfl, rfl, fun _ => rfl, fun hpos => absurd hpos (Nat.lt_irrefl 0)⟩
  | click _ ih => exact ih.click hp hcaret hfound
  | aside _ hbuffer hfind ih =>
    refine ⟨?_, hfind.trans ih.find, fun h => hbuffer.trans (ih.still h), fun hpos hne => ?_⟩
    · exact (congrArg Buffer.text hbuffer).trans ih.text
    · rw [hbuffer]
      exact ih.selection hpos hne

/-- Clicking "find next" again and again, from the beginning of the text on, goes round the matches
of the query: each click selects the next one, and the click behind the last match selects the
first. These are just the matches that are highlighted, unless the query is blank. Without a match,
nothing is ever selected. -/
theorem findNext_cycle (hp : w.find.pattern? = some p)
    (hcaret : w.surface.buffer.selection = (0, 0))
    (hfound : LeftmostMatches (p.Occurs w.text) 0 found) (h : Searches w k w') :
    (0 < k → found ≠ [] →
      found[(k - 1) % found.length]? = some w'.surface.buffer.selection) ∧
    (found = [] → w'.surface.buffer = w.surface.buffer) ∧
    (Text.isBlank w.find.text = false → ∀ s : StyledText,
      (s.overlaySearch w.text w.find.text w.find.caseSensitive w.find.wholeWord).layers =
        s.layers ++ RulePass.spansOf .searchMatch found) := by
  have hled := h.ledTo hp hcaret hfound
  refine ⟨hled.selection, fun hnone => hled.still (.inl hnone), fun hblank s => ?_⟩
  exact s.layers_overlaySearch hp hblank hfound

/-- The timer has no part in a search. -/
theorem Searches.timer (h : Searches w k w') : Searches w k (w'.step .timer).1 := by
  refine h.aside ?_ ?_
  · show (Window.timer { w' with notices := [] }).surface.buffer = _
    unfold Window.timer refreshMarks Surface.paintMarks
    split
    · split <;> rfl
    · rfl
  · show (Window.timer { w' with notices := [] }).find = _
    unfold Window.timer
    split <;> rfl

/-- Three clicks on characters of several bytes, the timer of the marks between the last two. The
third click selects the first match again. -/
theorem findNext_cycle_thrice :
    ∃ w, launch {} = .ok w ∧
      let w' := w.run [.setText "𝄞IF é if", .setFind { text := "if" }]
      w'.surface.buffer.selection = (0, 0) ∧
        (w'.run [.findNext, .findNext, .timer, .findNext]).surface.buffer.selection = (1, 3) := by
  obtain ⟨w, hw, hcaret, hfind, htext⟩ := exists_launch_eq (d := {}) (P := fun w =>
    let w' := w.run [.setText "𝄞IF é if", .setFind { text := "if" }]
    w'.surface.buffer.selection = (0, 0) ∧ w'.find = { text := "if" } ∧
      w'.text = ("𝄞IF é if" : Text)) (by decide +kernel)
  refine ⟨w, hw, hcaret, ?_⟩
  let p : Pattern := ⟨("if" : Text), false, false, by decide⟩
  have hfound : p.allIn ("𝄞IF é if" : Text) = [(1, 3), (6, 8)] := by decide +kernel
  have hcycle := (findNext_cycle (p := p) (by rw [hfind]; rfl) hcaret
    (p.leftmostMatches_allIn _) (Searches.timer (.click (.click .start))).click).1 (by decide)
  rw [htext, hfound] at hcycle
  exact (Option.some.inj (hcycle (by decide))).symm

/-! ## Replace all -/

/-- Without a match, all that happens is that the window says so. -/
theorem buffer_replaceEvery (hp : w.find.pattern? = some p)
    (hfound : LeftmostMatches (p.Occurs w.text) 0 []) :
    w.replaceEvery.2 = none ∧ w.replaceEvery.1.surface.buffer = w.surface.buffer := by
  have hall := Pattern.replaceAll_eq hfound w.replacement
  rw [replaceEvery, hp]
  dsimp only
  rw [hall]
  exact ⟨rfl, rfl⟩

/-- Where there are matches, the document is replaced by the text with all of them replaced, or none
of them if the editor cannot hold the replacement. -/
theorem text_replaceEvery (hp : w.find.pattern? = some p)
    (hfound : LeftmostMatches (p.Occurs w.text) 0 found) (hne : found ≠ []) :
    (Utf8.isEncodable w.replacement = true → w.replaceEvery.2 = none ∧
      w.replaceEvery.1.text = w.text.replaced w.replacement found) ∧
    (Utf8.isEncodable w.replacement = false → (∃ e, w.replaceEvery.2 = some (.text e)) ∧
      w.replaceEvery.1.text = w.text) := by
  have hall := Pattern.replaceAll_eq hfound w.replacement
  have hcount : found.length ≠ 0 := fun h => hne (List.length_eq_zero_iff.mp h)
  -- The text that was there is no obstacle, since the editor held it.
  have hencodable : Utf8.isEncodable (w.text.replaced w.replacement found) =
      Utf8.isEncodable w.replacement := by
    have hall := Text.isEncodable_replacedFrom w.surface.buffer.isEncodable_text w.replacement 0
      found
    rwa [List.isEmpty_eq_false_iff.mpr hne, Bool.false_or] at hall
  have hreplaced : w.replaceEvery =
      Result.andThen ((w.replaceDocument (w.text.replaced w.replacement found)).andThen fun w' =>
        (w'.setBuffer (w'.surface.buffer.selectRange 0 0), none)) fun w' =>
          (w'.say (("Replaced " : Text) ++ Numeral.ofNat found.length ++ " occurrence(s)"),
            none) := by
    rw [replaceEvery, hp]
    dsimp only
    rw [hall]
    dsimp only
    rw [if_neg hcount]
  constructor
  · intro hreplacement
    obtain ⟨b, htext, hb⟩ := w.exists_replaceDocument (hencodable.trans hreplacement)
    rw [hreplaced, hb]
    refine ⟨rfl, ?_⟩
    show Window.text (setBuffer _ _) = _
    rw [text_setBuffer, Buffer.text_selectRange, buffer_setBuffer, htext]
  · intro hreplacement
    obtain ⟨e, he⟩ := w.exists_replaceDocument_eq_error (hencodable.trans hreplacement)
    rw [hreplaced, he]
    exact ⟨⟨e, rfl⟩, w.text_setBuffer _⟩

/-- What is highlighted is what gets replaced. The search adds the matches of a query to a styled
text; these lie in order and apart from each other, and each of them is as long as the query.
Replacing every match puts the replacement, as it stands, in the place of each of them, leaves
everything between them unchanged, and tells how many they are. The button does just this to the
document, and without a match it leaves the text and the selection alone. A replacement with a lone
surrogate, which the editor cannot hold, is refused, and the text stays. -/
theorem replaceEvery_highlighted (q : Query) (hblank : Text.isBlank q.text = false)
    (t replacement : Text) :
    ∃ p found, q.pattern? = some p ∧
      (∀ s : StyledText, (s.overlaySearch t q.text q.caseSensitive q.wholeWord).layers =
        s.layers ++ RulePass.spansOf .searchMatch found) ∧
      found.Pairwise (fun m n => m.2 ≤ n.1) ∧
      (∀ m ∈ found, m.2 = m.1 + q.text.length ∧ m.2 ≤ t.length) ∧
      p.replaceAll t replacement = (t.replaced replacement found, found.length) ∧
      ∀ w : Window, w.text = t → w.find = q → w.replacement = replacement →
        let r := w.step .replaceEvery
        (found = [] → r.2 = none ∧ r.1.surface.buffer = w.surface.buffer) ∧
        (found ≠ [] → Utf8.isEncodable replacement = true →
          r.2 = none ∧ r.1.text = t.replaced replacement found) ∧
        (found ≠ [] → Utf8.isEncodable replacement = false →
          (∃ e, r.2 = some (.text e)) ∧ r.1.text = t) := by
  obtain ⟨p, hp, hquery⟩ := q.exists_pattern?_eq_some hblank
  have hfound := p.leftmostMatches_allIn t
  refine ⟨p, p.allIn t, hp, fun s => s.layers_overlaySearch hp hblank hfound, hfound.pairwise,
    fun m hm => ?_, Pattern.replaceAll_eq hfound replacement, ?_⟩
  · obtain ⟨i, n, rfl, rfl, hstands⟩ := hfound.exists_of_mem hm
    exact ⟨by rw [hquery], hstands.add_length_le⟩
  · rintro w rfl rfl rfl
    -- What the window told before has no part in the replacement.
    let quiet : Window := { w with notices := [] }
    refine ⟨fun hnone => ?_, fun hne => ?_, fun hne => ?_⟩
    · exact buffer_replaceEvery (w := quiet) hp (hnone ▸ hfound)
    · exact (text_replaceEvery (w := quiet) hp hfound hne).1
    · exact (text_replaceEvery (w := quiet) hp hfound hne).2

/-- Matches that touch each other, and a replacement that holds the query and looks like a group. -/
theorem replaceEvery_highlighted_adjacent :
    let q : Query := { text := "aA" }
    let t : Text := "aaaaaéAa"
    let replacement : Text := "\\1aa"
    Text.isBlank q.text = false ∧ ∃ w, launch {} = .ok w ∧
      let w' := w.run [.setText t, .setFind q, .setReplacement replacement]
      (w'.text = t ∧ w'.find = q ∧ w'.replacement = replacement) ∧
        (w'.step .replaceEvery).1.text = ("\\1aa\\1aaaé\\1aa" : Text) := by
  intro q t replacement
  have hblank : Text.isBlank q.text = false := by decide
  refine ⟨hblank, ?_⟩
  obtain ⟨w, hw, hfilled⟩ := exists_launch_eq (d := {}) (P := fun w =>
    let w' := w.run [.setText t, .setFind q, .setReplacement replacement]
    w'.text = t ∧ w'.find = q ∧ w'.replacement = replacement) (by decide +kernel)
  refine ⟨w, hw, hfilled, ?_⟩
  obtain ⟨p, found, hp, -, -, -, hall, hwindow⟩ := replaceEvery_highlighted q hblank t replacement
  obtain rfl := Option.some.inj hp
  have hcomputed : Pattern.replaceAll ⟨("aA" : Text), false, false, by decide⟩ t replacement =
      (("\\1aa\\1aaaé\\1aa" : Text), 3) := by decide +kernel
  rw [hcomputed, Prod.mk.injEq] at hall
  have hne : found ≠ [] := by
    rintro rfl
    exact absurd hall.2 (by decide)
  rw [((hwindow _ hfilled.1 hfilled.2.1 hfilled.2.2).2.1 hne (by decide)).2, hall.1]

/-- A lone surrogate is put in the place of a match by the replacement itself, but not by the
button, since the editor holds no lone surrogates. -/
theorem replaceEvery_lone_surrogate :
    ∃ w, launch {} = .ok w ∧
      let w' := w.run
        [.setText "a", .setFind { text := "a" }, .setReplacement [.surrogate 0]]
      Text.isBlank w'.find.text = false ∧
        w'.find.pattern?.map (fun p => p.replaceAll w'.text w'.replacement) =
          some ([.surrogate 0], 1) ∧
        (w'.step .replaceEvery).1.text = ("a" : Text) :=
  exists_launch_eq (by decide +kernel)

end Window

end SourceEditor

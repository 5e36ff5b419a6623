import SourceEditor.Proofs.Highlight.Partition
import SourceEditor.Proofs.Style.Sweep

/-!
# The runs of a highlighted text

Every classification, and whatever is painted over it, gives a well-formed styled text, so that its
runs agree with its categories character by character.

* `Highlighter.wellFormed_compose`: the full styling of a document is well-formed.
* `StyledText.runs_flatten`: the runs of a well-formed text flatten it, those of the full styling of
  a document in particular.
-/

namespace SourceEditor

/-- The spans of matches do not begin before the text. -/
theorem RulePass.start_nonneg_of_mem_spansOf {category : Category} {found : List Match} :
    ∀ span ∈ spansOf category found, 0 ≤ span.start := by
  intro span hspan
  obtain ⟨m, -, rfl⟩ := List.mem_map.mp hspan
  exact Int.natCast_nonneg m.1

namespace StyledText

/-- A plain text is well-formed. -/
theorem wellFormed_plain (t : Text) : (plain t).WellFormed := by
  refine wellFormed_of_tiles ?_ fun _ hspan => absurd hspan List.not_mem_nil
  cases t with
  | nil => rfl
  | cons c t => exact ⟨rfl, Int.natCast_pos.mpr (Nat.succ_pos t.length), rfl⟩

/-- Matches painted over a text keep it well-formed. -/
theorem WellFormed.overlaySearch {s : StyledText} (hs : s.WellFormed) (t query : Text)
    (caseSensitive wholeWord : Bool) :
    (s.overlaySearch t query caseSensitive wholeWord).WellFormed := by
  unfold StyledText.overlaySearch
  split
  · exact hs
  · split
    · exact hs.paint RulePass.start_nonneg_of_mem_spansOf
    · exact hs

/-- So do error lines. -/
theorem WellFormed.overlayErrors {s : StyledText} (hs : s.WellFormed) (t : Text)
    (lines : List Int) : (s.overlayErrors t lines).WellFormed :=
  hs.paint RulePass.start_nonneg_of_mem_spansOf

end StyledText

namespace RuleSet

/-- What the scanner makes of a text is well-formed. -/
theorem wellFormed_scan (r : RuleSet) (t : Text) : (r.scan t).WellFormed :=
  StyledText.wellFormed_of_tiles (tiles_scan r t) fun _ hspan => absurd hspan List.not_mem_nil

/-- Each pass paints over a well-formed text and leaves one. -/
theorem wellFormed_paint (r : RuleSet) (t : Text) : (r.paint t).WellFormed := by
  unfold RuleSet.paint
  refine List.foldlRecOn (motive := StyledText.WellFormed) _ _ (StyledText.wellFormed_plain t) ?_
  intro s hs pass _
  exact hs.paint RulePass.start_nonneg_of_mem_spansOf

end RuleSet

namespace Highlighter

/-- So is what the highlighter begins with. -/
theorem wellFormed_base (h : Highlighter) (t : Text) : (h.base t).WellFormed := by
  unfold Highlighter.base
  split
  · exact RuleSet.wellFormed_scan _ t
  · split
    · exact RuleSet.wellFormed_paint _ t
    · exact StyledText.wellFormed_plain t

/-- The full styling of a document is well-formed. -/
theorem wellFormed_compose (h : Highlighter) (t : Text) (q : Query) (errorLines : List Int) :
    (h.compose t q errorLines).WellFormed :=
  ((h.wellFormed_base t).overlaySearch t q.text q.caseSensitive q.wholeWord).overlayErrors t
    errorLines

/-- The classification of a text leaves the text as it is. -/
theorem text_base (h : Highlighter) (t : Text) : (h.base t).text = t := by
  unfold Highlighter.base
  split
  · rfl
  · split
    · unfold RuleSet.paint
      refine List.foldlRecOn (motive := fun s : StyledText => s.text = t) _ _ rfl ?_
      intro s hs pass _
      exact hs
    · rfl

/-- Whatever is painted, the text stays. -/
theorem text_compose (h : Highlighter) (t : Text) (q : Query) (errorLines : List Int) :
    (h.compose t q errorLines).text = t := by
  show (StyledText.overlaySearch (h.base t) t q.text q.caseSensitive q.wholeWord).text = t
  unfold StyledText.overlaySearch
  split
  · exact h.text_base t
  · split <;> exact h.text_base t

end Highlighter

namespace StyledText

/-- The runs of a well-formed text flatten it: they cover it without a gap or an overlap, each
carries exactly the categories that are looked up for each of its characters, and none can be joined
to the next. The full styling of a document is always well-formed, and its runs cover the document.
-/
theorem runs_flatten :
    (∀ s : StyledText, s.WellFormed → s.IsFlattenedBy s.runs) ∧
      ∀ (h : Highlighter) (t : Text) (q : Query) (errorLines : List Int),
        (h.compose t q errorLines).text = t ∧ (h.compose t q errorLines).WellFormed ∧
          (h.compose t q errorLines).IsFlattenedBy (h.compose t q errorLines).runs := by
  refine ⟨fun s hs => hs.isFlattenedBy_runs, fun h t q errorLines => ?_⟩
  have hwell := h.wellFormed_compose t q errorLines
  exact ⟨h.text_compose t q errorLines, hwell, hwell.isFlattenedBy_runs⟩

/-- Layers that are equal, that lie over each other and that reach beyond the text, over base spans
with gaps between them. -/
theorem runs_flatten_layers :
    let s : StyledText := ⟨"abcd", [⟨0, 1, .keyword⟩, ⟨2, 3, .string⟩],
      [⟨0, 2, .searchMatch⟩, ⟨1, 9, .errorLine⟩, ⟨1, 9, .errorLine⟩]⟩
    s.WellFormed ∧ s.IsFlattenedBy s.runs := by
  intro s
  have hs : s.WellFormed := ⟨by decide, by decide, by decide⟩
  exact ⟨hs, runs_flatten.1 s hs⟩

end StyledText

end SourceEditor

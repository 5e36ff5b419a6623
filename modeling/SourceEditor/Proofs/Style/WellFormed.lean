import SourceEditor.Proofs.Order.Sorted
import SourceEditor.Proofs.Style.Tiling

/-!
# Well-formed styled texts

What is asked of the spans of a styled text, and the categories of a character in terms of the spans
that cover it.

* `StyledText.WellFormed`: base spans in order and apart from each other, layers that run forward.
* `StyledText.categoriesAt_eq`: halving the base spans finds just the one that covers a character,
  so that the categories of a character are those of all the spans over it.
-/

namespace SourceEditor

theorem Span.covers_iff {s : Span} {offset : Int} :
    s.covers offset = true ↔ s.start ≤ offset ∧ offset < s.stop := by
  rw [Span.covers, Bool.and_eq_true, decide_eq_true_eq, decide_eq_true_eq]

theorem Span.covers_eq_false_iff {s : Span} {offset : Int} :
    s.covers offset = false ↔ offset < s.start ∨ s.stop ≤ offset := by
  rw [← Bool.not_eq_true, Span.covers_iff]
  omega

namespace StyledText

/-- What is asked of the spans of a styled text: the base spans are not empty, lie within the text
and follow each other without overlap; the layers are not empty and do not begin before the text,
but they may reach beyond it and lie over each other. -/
structure WellFormed (s : StyledText) : Prop where
  /-- The base spans are not empty and lie within the text. -/
  base_inside : ∀ span ∈ s.base, 0 ≤ span.start ∧ span.start < span.stop ∧
    span.stop ≤ s.text.length
  /-- Each base span ends before the later ones begin. -/
  base_disjoint : s.base.Pairwise fun a b => a.stop ≤ b.start
  /-- The layers are not empty and do not begin before the text. -/
  layers_forward : ∀ span ∈ s.layers, 0 ≤ span.start ∧ span.start < span.stop

/-- Base spans that tile the text make it well-formed. -/
theorem wellFormed_of_tiles {s : StyledText}
    (hbase : Tiles 0 (s.base.map Span.bounds) s.text.length)
    (hlayers : ∀ span ∈ s.layers, 0 ≤ span.start ∧ span.start < span.stop) : s.WellFormed where
  base_inside _ hspan := hbase.bounds_of_mem (List.mem_map_of_mem hspan)
  base_disjoint := List.pairwise_map.mp hbase.pairwise
  layers_forward := hlayers

/-- Painting spans that do not begin before the text keeps it well-formed. -/
theorem WellFormed.paint {s : StyledText} (hs : s.WellFormed) {spans : List Span}
    (h : ∀ span ∈ spans, 0 ≤ span.start) : (s.paint spans).WellFormed where
  base_inside := hs.base_inside
  base_disjoint := hs.base_disjoint
  layers_forward span hspan := by
    rcases List.mem_append.mp hspan with hspan | hspan
    · exact hs.layers_forward span hspan
    · obtain ⟨hmem, hlt⟩ := List.mem_filter.mp hspan
      exact ⟨h span hmem, of_decide_eq_true hlt⟩

/-! ## The base span over a character -/

/-- Spans that have ended at an offset, or begin behind it, do not cover it. -/
theorem filter_covers_eq_nil {spans : List Span} {offset : Int}
    (h : ∀ span ∈ spans, offset < span.start ∨ span.stop ≤ offset) :
    spans.filter (·.covers offset) = [] := by
  refine List.filter_eq_nil_iff.mpr fun span hspan => ?_
  rw [Bool.not_eq_true, Span.covers_eq_false_iff]
  exact h span hspan

/-- The base spans of a well-formed text begin at increasing offsets. -/
theorem WellFormed.pairwise_start {s : StyledText} (hs : s.WellFormed) :
    (s.base.map Span.start).Pairwise (· ≤ ·) := by
  refine List.pairwise_map.mpr (hs.base_disjoint.imp_of_mem fun {a b} ha _ hab => ?_)
  have hlt := (hs.base_inside a ha).2.1
  omega

/-- In a well-formed text, the base category of a character is that of the base span over it. -/
theorem WellFormed.toList_baseCategoryAt {s : StyledText} (hs : s.WellFormed) (offset : Int) :
    (s.baseCategoryAt offset).toList = (s.base.filter (·.covers offset)).map Span.category := by
  have hsorted : (s.base.map Span.start).toArray.toList.Pairwise (· ≤ ·) := hs.pairwise_start
  obtain ⟨-, hsize, hbelow, habove⟩ := Order.upperBound_bracket hsorted offset
  rw [baseCategoryAt]
  generalize Order.upperBound (s.base.map Span.start).toArray offset = k at *
  simp only [List.size_toArray, List.length_map, List.getElem_toArray, List.getElem_map] at *
  -- Halving stops behind the last span that has begun, which alone may cover the offset.
  have hdrop : (s.base.drop k).filter (·.covers offset) = [] := by
    refine filter_covers_eq_nil fun span hspan => Or.inl ?_
    obtain ⟨i, hi, rfl⟩ := List.mem_drop_iff_getElem.mp hspan
    exact habove (k + i) (by omega) (Nat.le_add_right k i)
  cases k with
  | zero => rw [List.drop_zero] at hdrop; rw [hdrop]; rfl
  | succ i =>
    have hi : i < s.base.length := hsize
    have htake : (s.base.take i).filter (·.covers offset) = [] := by
      -- The spans before end where the last one that has begun begins, or earlier.
      refine filter_covers_eq_nil fun span hspan => Or.inr ?_
      obtain ⟨j, hj, rfl⟩ := List.mem_take_iff_getElem.mp hspan
      have hji : s.base[j].stop ≤ s.base[i].start :=
        List.pairwise_iff_getElem.mp hs.base_disjoint j i (by omega) hi (by omega)
      exact Int.le_trans hji (hbelow i hi (Nat.lt_succ_self i))
    have hbase : s.base = s.base.take i ++ s.base[i] :: s.base.drop (i + 1) := by
      rw [← List.drop_eq_getElem_cons hi, List.take_append_drop]
    rw [hbase, List.filter_append, htake, List.nil_append, List.filter_cons, hdrop, ← hbase]
    simp only [List.getElem?_eq_getElem hi]
    cases s.base[i].covers offset <;> rfl

/-- The categories of a character in a well-formed text are those of the spans that cover it, the
base span first. -/
theorem WellFormed.categoriesAt_eq {s : StyledText} (hs : s.WellFormed) (offset : Int) :
    s.categoriesAt offset =
      ((s.base ++ s.layers).filter (·.covers offset)).map Span.category := by
  rw [categoriesAt, hs.toList_baseCategoryAt, layerCategoriesAt, List.filter_append,
    List.map_append]

end StyledText

end SourceEditor

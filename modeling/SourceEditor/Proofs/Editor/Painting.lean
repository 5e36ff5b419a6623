import SourceEditor.Editor.Surface
import SourceEditor.Proofs.Style.Sweep
import SourceEditor.Proofs.Text.ByteOffsets

/-!
# Painting in bytes

A surface counts bytes where a styled text counts characters. What it paints of a well-formed text
is, byte for byte, what the text says of the character that the byte belongs to.

* `StyleRun.styleAt`: the style of a byte; `Mark.Covers`: a mark lies over a byte.
* `StyledText.WellFormed.styleAt_stylesOf`: every byte of a character has the style of the lexical
  category painted last over the character.
* `StyledText.WellFormed.styleDescription_styleAt`: the description of that style.
* `StyledText.WellFormed.exists_mark_iff`: the bytes marked for a category are those of the
  characters in that category.
* `Surface.Styled`, `Surface.Marked`: the styles of a surface, and its marks, are up to date.
-/

namespace SourceEditor

namespace Category

/-- A category is found by its name. -/
theorem ofName?_eq_some_iff {name : Text} {c : Category} :
    ofName? name = some c ↔ c.name = name := by
  constructor
  · intro h
    simpa using List.find?_some h
  · rintro rfl
    cases c <;> decide

/-- A lexical category has a style of its own, which is described by the name of the category. -/
theorem styleDescription_styleNumber {c : Category} (h : c.isOverlay = false) :
    styleDescription c.styleNumber = c.name := by
  cases c with
  | searchMatch | errorLine => exact absurd h.symm Bool.false_ne_true
  | _ => rfl

/-- No other number is described. -/
theorem styleDescription_eq_nil {number : Int}
    (h : ∀ c : Category, (c.styleNumber : Int) ≠ number) : styleDescription number = [] := by
  have hnone : (styled.find? fun c => (c.styleNumber : Int) = number) = none :=
    List.find?_eq_none.mpr fun c _ => by simpa using h c
  rw [styleDescription, hnone]

/-- What shows of some categories is never an overlay. -/
theorem isOverlay_topLexical (categories : List Category) :
    (topLexical categories).isOverlay = false := by
  refine List.foldlRecOn (motive := fun top : Category => top.isOverlay = false) categories _ rfl ?_
  intro top htop c _
  split
  · exact htop
  · next hc => exact Bool.eq_false_iff.mpr hc

end Category

/-- The number of bytes of some runs. -/
def StyleRun.extent : List StyleRun → Nat
  | [] => 0
  | r :: rest => r.length + extent rest

/-- The style that some runs, one after the other, give to a byte. -/
def StyleRun.styleAt : List StyleRun → Nat → Option Nat
  | [], _ => none
  | r :: rest, b => if b < r.length then some r.style else styleAt rest (b - r.length)

/-- A mark lies over a byte. -/
def Mark.Covers (m : Mark) (b : Nat) : Prop :=
  m.start ≤ b ∧ b < m.start + m.length

namespace StyledText

open Utf8 (byteOffset IsByteOf)

/-! ## Styles -/

/-- The bytes of a run of characters and their style. -/
def Run.inBytes (t : Text) (r : Run) : StyleRun :=
  ⟨byteOffset t r.stop - byteOffset t r.start, (topLexical r.categories).styleNumber⟩

/-- Runs that lie side by side give the bytes of every character the style of the run around it. -/
theorem styleAt_inBytes (style : Nat → Nat) {t : Text} {runs : List Run} {low high : Nat}
    (htiles : Tiles low (runs.map Run.bounds) high)
    (hexact : ∀ r ∈ runs, ∀ o, r.start ≤ o → o < r.stop →
      (topLexical r.categories).styleNumber = style o)
    {i b : Nat} (hlow : low ≤ i) (hhigh : i < high) (hb : IsByteOf t i b) :
    StyleRun.styleAt (runs.map (Run.inBytes t)) (b - byteOffset t low) = some (style i) := by
  induction runs generalizing low with
  | nil =>
    have : (low : Int) = high := htiles
    omega
  | cons r runs ih =>
    obtain ⟨hstart, hlt, hrest⟩ := htiles
    obtain rfl : r.start = low := Int.ofNat.inj hstart
    have hmono := Utf8.byteOffset_mono t
    obtain ⟨-, hle, hlt'⟩ := hb
    have hfront := hmono hlow
    rw [List.map_cons, StyleRun.styleAt, Run.inBytes]
    by_cases hi : i < r.stop
    · -- The run goes at least as far as the character does.
      have hstop := hmono (show i + 1 ≤ r.stop from hi)
      rw [if_pos (by dsimp only; omega), hexact r List.mem_cons_self i hlow hi]
    · -- The run ends before the character, so that the later runs decide.
      have hstop := hmono (Nat.le_of_not_lt hi)
      have hrun := hmono (show r.start ≤ r.stop by have := Int.ofNat_lt.mp hlt; omega)
      rw [if_neg (by dsimp only; omega)]
      dsimp only
      rw [show b - byteOffset t r.start - (byteOffset t r.stop - byteOffset t r.start) =
        b - byteOffset t r.stop by omega]
      exact ih hrest (fun r hr => hexact r (List.mem_cons_of_mem _ hr)) (Nat.le_of_not_lt hi)

/-- Runs that lie side by side have all the bytes between their ends. -/
theorem extent_inBytes {t : Text} {runs : List Run} {low high : Nat}
    (htiles : Tiles low (runs.map Run.bounds) high) :
    byteOffset t low + StyleRun.extent (runs.map (Run.inBytes t)) = byteOffset t high := by
  induction runs generalizing low with
  | nil =>
    obtain rfl : low = high := Int.ofNat.inj htiles
    rfl
  | cons r runs ih =>
    obtain ⟨hstart, hlt, hrest⟩ := htiles
    obtain rfl : r.start = low := Int.ofNat.inj hstart
    have hrun := Utf8.byteOffset_mono t (show r.start ≤ r.stop by
      have := Int.ofNat_lt.mp hlt
      omega)
    rw [← ih hrest]
    simp only [List.map_cons, StyleRun.extent, Run.inBytes]
    omega

/-- The styles of a text whose runs tile it, without the table of offsets. -/
theorem stylesOf_eq {s : StyledText} (htiles : Tiles 0 (s.runs.map Run.bounds) s.text.length) :
    Surface.stylesOf s = s.runs.map (Run.inBytes s.text) := by
  refine List.map_congr_left fun r hr => ?_
  obtain ⟨-, hlt, hle⟩ := htiles.bounds_of_mem (List.mem_map_of_mem hr)
  rw [Utf8.getD_offsets (by omega), Utf8.getD_offsets (by omega)]
  rfl

/-- Every byte of a character has the style of the lexical category painted last over it. -/
theorem WellFormed.styleAt_stylesOf {s : StyledText} (hs : s.WellFormed) {i b : Nat}
    (hb : IsByteOf s.text i b) :
    StyleRun.styleAt (Surface.stylesOf s) b =
      some (topLexical (s.categoriesAt i)).styleNumber := by
  have hruns := hs.isFlattenedBy_runs
  have htiles : Tiles (0 : Nat) (s.runs.map Run.bounds) s.text.length := hruns.tiles
  rw [stylesOf_eq htiles]
  refine styleAt_inBytes (fun o => (topLexical (s.categoriesAt o)).styleNumber) htiles
    (fun r hr o hro hor => ?_) (Nat.zero_le i) hb.1 hb
  rw [hruns.exact r hr o hro hor]

/-- The style of a byte is described by the name of that category. -/
theorem WellFormed.styleDescription_styleAt {s : StyledText} (hs : s.WellFormed) {i b : Nat}
    (hb : IsByteOf s.text i b) :
    (StyleRun.styleAt (Surface.stylesOf s) b).map (fun n : Nat => Category.styleDescription n) =
      some (topLexical (s.categoriesAt i)).name := by
  rw [hs.styleAt_stylesOf hb, Option.map_some,
    Category.styleDescription_styleNumber (Category.isOverlay_topLexical _)]

/-- The styles of a text are those of all its bytes. -/
theorem WellFormed.extent_stylesOf {s : StyledText} (hs : s.WellFormed) :
    StyleRun.extent (Surface.stylesOf s) = (Utf8.encode s.text).length := by
  have htiles : Tiles (0 : Nat) (s.runs.map Run.bounds) s.text.length :=
    hs.isFlattenedBy_runs.tiles
  have hextent := extent_inBytes (t := s.text) htiles
  rwa [Utf8.byteOffset_zero, Nat.zero_add, Utf8.byteOffset_length, ← stylesOf_eq htiles] at hextent

/-! ## Marks -/

/-- The byte at which a mark for an offset begins or ends. Offsets beyond the text count as its
end. -/
theorem getD_offsets_min {t : Text} {boundary : Int} :
    (Utf8.offsets t).toArray.getD (min boundary.toNat ((Utf8.offsets t).toArray.size - 1)) 0 =
      byteOffset t (min boundary.toNat t.length) := by
  rw [List.size_toArray, Utf8.length_offsets, Nat.add_sub_cancel]
  exact Utf8.getD_offsets (Nat.min_le_right _ _)

/-- The marks of a category lie over the bytes of the characters that its layers cover. -/
theorem WellFormed.exists_mark_iff_layer {s : StyledText} (hs : s.WellFormed) {c : Category}
    {b : Nat} :
    (∃ m ∈ Surface.marksOf s c, m.Covers b) ↔
      ∃ i, IsByteOf s.text i b ∧ ∃ span ∈ s.layers, span.category = c ∧ span.covers i = true := by
  -- A byte lies between the ends of a layer exactly if its character does.
  have hspan : ∀ span ∈ s.layers,
      (byteOffset s.text (min span.start.toNat s.text.length) ≤ b ∧
        b < byteOffset s.text (min span.stop.toNat s.text.length)) ↔
      ∃ i, IsByteOf s.text i b ∧ span.covers i = true := by
    intro span hmem
    have hstart := (hs.layers_forward span hmem).1
    rw [Utf8.exists_isByteOf_iff (Nat.min_le_right _ _)]
    simp only [Span.covers_iff]
    constructor
    · rintro ⟨i, hlow, hhigh, hbyte⟩
      exact ⟨i, hbyte, by omega, by omega⟩
    · rintro ⟨i, hbyte, hlow, hhigh⟩
      have := hbyte.1
      exact ⟨i, by omega, by omega, hbyte⟩
  simp only [Surface.marksOf, getD_offsets_min, List.mem_filterMap, List.mem_filter,
    decide_eq_true_eq, Option.ite_none_right_eq_some, Option.some.injEq]
  constructor
  · rintro ⟨m, ⟨span, ⟨hmem, hc⟩, hlt, rfl⟩, hm⟩
    simp only [Mark.Covers] at hm
    obtain ⟨i, hbyte, hcovers⟩ := (hspan span hmem).mp ⟨hm.1, by omega⟩
    exact ⟨i, hbyte, span, hmem, hc, hcovers⟩
  · rintro ⟨i, hbyte, span, hmem, hc, hcovers⟩
    obtain ⟨hlow, hhigh⟩ := (hspan span hmem).mpr ⟨i, hbyte, hcovers⟩
    refine ⟨_, ⟨span, ⟨hmem, hc⟩, by omega, rfl⟩, hlow, ?_⟩
    dsimp only
    omega

/-- The bytes marked for a category are those of the characters in that category, if the base spans
are not in it. -/
theorem WellFormed.exists_mark_iff {s : StyledText} (hs : s.WellFormed) {c : Category}
    (hbase : ∀ span ∈ s.base, span.category ≠ c) {b : Nat} :
    (∃ m ∈ Surface.marksOf s c, m.Covers b) ↔
      ∃ i, IsByteOf s.text i b ∧ c ∈ s.categoriesAt i := by
  rw [hs.exists_mark_iff_layer]
  refine exists_congr fun i => and_congr_right fun _ => ?_
  rw [hs.categoriesAt_eq]
  simp only [List.mem_map, List.mem_filter, List.mem_append]
  constructor
  · rintro ⟨span, hmem, hc, hcovers⟩
    exact ⟨span, ⟨Or.inr hmem, hcovers⟩, hc⟩
  · rintro ⟨span, ⟨hmem | hmem, hcovers⟩, hc⟩
    · exact absurd hc (hbase span hmem)
    · exact ⟨span, hmem, hc, hcovers⟩

end StyledText

/-! ## Surfaces that are up to date -/

namespace Surface

/-- The styles of a surface are those of its text, as a highlighter classifies it. -/
structure Styled (s : Surface) (h : Highlighter) : Prop where
  highlighter : s.highlighter = h
  styles : s.styles = stylesOf (h.base s.text)

/-- The marks of a surface are those of a styled text. -/
structure Marked (s : Surface) (styled : StyledText) : Prop where
  search : s.searchMarks = marksOf styled .searchMatch
  errors : s.errorMarks = marksOf styled .errorLine

variable {s : Surface} {h : Highlighter} {styled : StyledText}

@[simp]
theorem text_setBuffer (s : Surface) (b : Buffer) : (s.setBuffer b).text = b.text := by
  unfold setBuffer
  split <;> rfl

theorem styled_restyle (s : Surface) : s.restyle.Styled s.highlighter :=
  ⟨rfl, rfl⟩

theorem Styled.setBuffer (hs : s.Styled h) (b : Buffer) : (s.setBuffer b).Styled h := by
  unfold Surface.setBuffer
  split
  · next htext =>
    refine ⟨hs.highlighter, ?_⟩
    show s.styles = stylesOf (h.base b.text)
    rw [htext]
    exact hs.styles
  · exact hs.highlighter ▸ styled_restyle _

theorem Styled.setPalette (hs : s.Styled h) (p : Palette) : (s.setPalette p).Styled h :=
  hs.highlighter ▸ styled_restyle _

theorem Styled.paintMarks (hs : s.Styled h) (styled : StyledText) :
    (s.paintMarks styled).Styled h := by
  unfold Surface.paintMarks
  split
  · exact ⟨hs.highlighter, hs.styles⟩
  · exact hs

/-- The marks stay where they are if another buffer is taken. -/
theorem Marked.setBuffer (hs : s.Marked styled) (b : Buffer) : (s.setBuffer b).Marked styled := by
  unfold Surface.setBuffer
  split <;> exact ⟨hs.search, hs.errors⟩

theorem marked_paintMarks (h : styled.text = s.text) : (s.paintMarks styled).Marked styled := by
  rw [paintMarks, if_pos h]
  exact ⟨rfl, rfl⟩

@[simp]
theorem text_paintMarks (s : Surface) (styled : StyledText) :
    (s.paintMarks styled).text = s.text := by
  unfold paintMarks
  split <;> rfl

end Surface

end SourceEditor

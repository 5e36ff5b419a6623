import SourceEditor.Style.StyledText

/-!
# Tilings

Intervals without a gap or an overlap between one offset and another: the base spans that the
scanner makes of a text, and the runs that a styled text is cut into.
-/

namespace SourceEditor

/-- Intervals side by side: none is empty, the first begins at `low`, each begins where the one
before ends, and the last ends at `high`. -/
def Tiles : Int → List (Int × Int) → Int → Prop
  | low, [], high => low = high
  | low, (start, stop) :: rest, high => start = low ∧ start < stop ∧ Tiles stop rest high

namespace Tiles

variable {low middle high : Int} {l m : List (Int × Int)}

/-- A tiling does not run backwards. -/
theorem low_le_high (h : Tiles low l high) : low ≤ high := by
  induction l generalizing low with
  | nil => exact Int.le_of_eq h
  | cons i l ih =>
    obtain ⟨hstart, hlt, hrest⟩ := h
    have := ih hrest
    omega

/-- The intervals of a tiling are not empty and lie between its ends. -/
theorem bounds_of_mem (h : Tiles low l high) {start stop : Int} (hi : (start, stop) ∈ l) :
    low ≤ start ∧ start < stop ∧ stop ≤ high := by
  induction l generalizing low with
  | nil => exact absurd hi List.not_mem_nil
  | cons i l ih =>
    obtain ⟨hstart, hlt, hrest⟩ := h
    rcases List.mem_cons.mp hi with rfl | hi
    · exact ⟨Int.le_of_eq hstart.symm, hlt, hrest.low_le_high⟩
    · obtain ⟨hle, hlt', hhigh⟩ := ih hrest hi
      exact ⟨by omega, hlt', hhigh⟩

/-- Nothing lies between an offset and itself. -/
theorem eq_nil (h : Tiles low l low) : l = [] := by
  cases l with
  | nil => rfl
  | cons i l =>
    obtain ⟨hstart, hlt, hrest⟩ := h
    have := hrest.low_le_high
    omega

/-- Each interval of a tiling ends before the later ones begin. -/
theorem pairwise (h : Tiles low l high) : l.Pairwise fun i j => i.2 ≤ j.1 := by
  induction l generalizing low with
  | nil => exact List.Pairwise.nil
  | cons i l ih =>
    obtain ⟨-, -, hrest⟩ := h
    exact List.pairwise_cons.mpr ⟨fun j hj => (hrest.bounds_of_mem hj).1, ih hrest⟩

end Tiles

/-- The two ends of a span. -/
def Span.bounds (s : Span) : Int × Int :=
  (s.start, s.stop)

/-- The two ends of a run. -/
def StyledText.Run.bounds (r : StyledText.Run) : Int × Int :=
  (r.start, r.stop)

end SourceEditor

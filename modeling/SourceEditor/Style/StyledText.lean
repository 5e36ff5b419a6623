import SourceEditor.Order.UpperBound
import SourceEditor.Style.Category

/-!
# Styled texts

A text with its styling: base spans that lie side by side, and layers painted over them.

* `categoriesAt` gives the categories of one character, the base first and the layers in the order
  in which they were painted.
* `runs` cuts the whole text into stretches whose characters all have the same categories, by one
  sweep from left to right that keeps the layers open at each boundary.
-/

namespace SourceEditor

/-- A stretch of characters with a category, its end excluded. Offsets may lie outside the text. -/
structure Span where
  /-- The first offset. -/
  start : Int
  /-- The first offset after the stretch. -/
  stop : Int
  /-- The category of the stretch. -/
  category : Category
  deriving DecidableEq, Repr

/-- Whether a span covers an offset. -/
def Span.covers (s : Span) (offset : Int) : Bool :=
  s.start ≤ offset && offset < s.stop

/-- A text, the base spans of its characters in increasing order, and the layers painted over them
in the order of painting. Layers may overlap each other. -/
structure StyledText where
  /-- The text. -/
  text : Text
  /-- The base spans. -/
  base : List Span
  /-- The layers. -/
  layers : List Span := []
  deriving DecidableEq, Repr

namespace StyledText

/-- A text that is plain all over. -/
def plain (text : Text) : StyledText :=
  ⟨text, if text.isEmpty then [] else [⟨0, text.length, .plain⟩], []⟩

/-- Paints spans over everything else; empty ones leave nothing. -/
def paint (s : StyledText) (spans : List Span) : StyledText :=
  { s with layers := s.layers ++ spans.filter fun span => span.start < span.stop }

/-- The base category of a character: that of the last base span that begins at or before it, if the
span covers it. -/
def baseCategoryAt (s : StyledText) (offset : Int) : Option Category :=
  match Order.upperBound (s.base.map Span.start).toArray offset with
  | 0 => none
  | i + 1 =>
    match s.base[i]? with
    | some span => if span.covers offset then some span.category else none
    | none => none

/-- The categories of the layers at a character, in the order of painting. -/
def layerCategoriesAt (s : StyledText) (offset : Int) : List Category :=
  (s.layers.filter (·.covers offset)).map Span.category

/-- All categories of a character: the base one, then the layers in the order of painting. -/
def categoriesAt (s : StyledText) (offset : Int) : List Category :=
  (s.baseCategoryAt offset).toList ++ s.layerCategoriesAt offset

/-- A stretch of characters that all have the same categories. -/
structure Run where
  /-- The first offset. -/
  start : Nat
  /-- The first offset after the run. -/
  stop : Nat
  /-- The categories of each character. -/
  categories : List Category
  deriving DecidableEq, Repr

/-- The offsets within the text at which some span begins or ends. -/
def ends (s : StyledText) : List Nat :=
  let all : List Int := (s.base ++ s.layers).flatMap fun span => [span.start, span.stop]
  all.filterMap fun (b : Int) => if 0 ≤ b ∧ b ≤ s.text.length then some b.toNat else none

/-- The ends of spans within the text, and both ends of the text, in increasing order, each
once. -/
def boundaries (s : StyledText) : List Nat :=
  (0 :: s.text.length :: s.ends).mergeSort.foldr
    (fun b acc => if acc.head? = some b then acc else b :: acc) []

/-- The layers that begin, or end, at each offset of a text, by their places in the order of
painting. -/
abbrev Table := Array (Array Nat)

/-- Puts a layer down at an offset. Offsets for which the table has no place are never looked up. -/
def Table.put (table : Table) (offset : Int) (index : Nat) : Table :=
  if 0 ≤ offset then table.modify offset.toNat (·.push index) else table

/-- The table of one end of the layers, for the offsets up to the length of a text. -/
def Table.ofLayers (length : Nat) (layers : List Span) (offset : Span → Int) : Table :=
  layers.zipIdx.foldl (fun table layer => table.put (offset layer.1) layer.2)
    (Array.replicate (length + 1) #[])

/-- What a table has at an offset. -/
def Table.at (table : Table) (offset : Nat) : Array Nat :=
  table.getD offset #[]

/-- What a sweep from left to right over the boundaries of a text looks at. -/
structure Course where
  /-- The base spans. -/
  base : Array Span
  /-- The layers. -/
  layers : Array Span
  /-- Where layers begin. -/
  opens : Table
  /-- Where layers end. -/
  closes : Table

/-- The course of the sweep over a text. -/
def course (s : StyledText) : Course where
  base := s.base.toArray
  layers := s.layers.toArray
  opens := .ofLayers s.text.length s.layers Span.start
  closes := .ofLayers s.text.length s.layers Span.stop

/-- Where a sweep stands. -/
structure Sweep where
  /-- The layers that are open, by their places in the order of painting, each once. -/
  active : List Nat := []
  /-- How many base spans lie behind. -/
  passed : Nat := 0
  /-- The runs so far. -/
  runs : Array Run := #[]

/-- Closes layers, and opens others after that, so that a layer on both sides is open. -/
def turn (closing opening : Array Nat) (active : List Nat) : List Nat :=
  opening.foldl (fun active index => active.insert index)
    (closing.foldl (fun active index => active.erase index) active)

/-- The first base span from a place on that does not end at or before an offset. -/
def passBase (base : Array Span) (offset : Nat) (i : Nat) : Nat :=
  if h : i < base.size then
    if base[i].stop ≤ (offset : Int) then passBase base offset (i + 1) else i
  else i
termination_by base.size - i

/-- Puts a run behind others, of which the last one grows if the new one goes on with it. -/
def pushRun (runs : Array Run) (r : Run) : Array Run :=
  match runs.back? with
  | some last =>
    if last.stop = r.start ∧ last.categories = r.categories then
      runs.pop.push ⟨last.start, r.stop, r.categories⟩
    else runs.push r
  | none => runs.push r

/-- The category of a base span, if there is one and it covers an offset. -/
def categoryOver (offset : Nat) : Option Span → List Category
  | some span => if span.covers offset then [span.category] else []
  | none => []

/-- The categories at an offset: that of the base span there, and those of the open layers in the
order of painting. -/
def Course.categories (c : Course) (offset passed : Nat) (active : List Nat) : List Category :=
  categoryOver offset c.base[passed]? ++
    active.mergeSort.filterMap fun index => c.layers[index]?.map Span.category

/-- Goes on from a boundary to the next one. -/
def Course.advance (c : Course) (sweep : Sweep) : Nat × Nat → Sweep
  | (a, b) =>
    let active := turn (c.closes.at a) (c.opens.at a) sweep.active
    let passed := passBase c.base a sweep.passed
    { active, passed, runs := pushRun sweep.runs ⟨a, b, c.categories a passed active⟩ }

/-- The text cut into maximal runs of characters with the same categories. -/
def runs (s : StyledText) : List Run :=
  if s.text.isEmpty then []
  else
    let points := s.boundaries
    ((points.zip points.tail).foldl s.course.advance {}).runs.toList

end StyledText

end SourceEditor

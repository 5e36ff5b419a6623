import SourceEditor.Proofs.Style.WellFormed
import Mathlib.Data.List.Chain

/-!
# Runs

What the runs of a text have to be, and that the stretches between the boundaries of its spans make
such runs once equal neighbours are joined.

* `StyledText.IsFlattenedBy`: runs that tile the text, carry the categories of each of their
  characters, and cannot be joined.
* `StyledText.stretches`: the stretches between neighbouring boundaries, each with the categories of
  its first character, looked up without regard to the other stretches.
* `StyledText.WellFormed.isFlattenedBy_joinRuns`: joined, the stretches flatten a well-formed text.
-/

namespace SourceEditor

namespace StyledText

/-- Runs flatten a styled text: they lie side by side from its beginning to its end, each carries
exactly the categories of every one of its characters, and no two neighbours carry the same. -/
structure IsFlattenedBy (s : StyledText) (runs : List Run) : Prop where
  /-- The runs lie side by side over the whole text. -/
  tiles : Tiles 0 (runs.map Run.bounds) s.text.length
  /-- A run carries the categories of each of its characters. -/
  exact : ∀ r ∈ runs, ∀ o : Nat, r.start ≤ o → o < r.stop → r.categories = s.categoriesAt o
  /-- Neighbouring runs carry different categories. -/
  maximal : runs.IsChain fun r next => r.categories ≠ next.categories

/-! ## Boundaries -/

/-- A list of numbers in order. -/
theorem pairwise_mergeSort_le (l : List Nat) : l.mergeSort.Pairwise (· ≤ ·) := by
  refine (List.pairwise_mergeSort ?_ ?_ l).imp of_decide_eq_true
  · exact fun a b c hab hbc => decide_eq_true
      (Nat.le_trans (of_decide_eq_true hab) (of_decide_eq_true hbc))
  · exact fun a b => by simpa using Nat.le_total a b

/-- The boundaries are both ends of the text and the ends of its spans, each of them once. -/
theorem boundaries_eq (s : StyledText) :
    s.boundaries = (0 :: s.text.length :: s.ends).mergeSort.dedup :=
  Order.foldr_eq_dedup (pairwise_mergeSort_le _)

/-- The ends of spans are where they begin or end, unless that lies outside the text. -/
theorem mem_ends {s : StyledText} {b : Nat} :
    b ∈ s.ends ↔
      (∃ span ∈ s.base ++ s.layers, span.start = b ∨ span.stop = b) ∧ b ≤ s.text.length := by
  rw [ends, List.mem_filterMap]
  constructor
  · rintro ⟨x, hx, hb⟩
    split at hb
    · next hin =>
      obtain ⟨span, hspan, hx⟩ := List.mem_flatMap.mp hx
      obtain rfl := Option.some.inj hb
      refine ⟨⟨span, hspan, ?_⟩, by omega⟩
      rcases List.mem_cons.mp hx with rfl | hx
      · exact Or.inl (by omega)
      · obtain rfl := List.mem_singleton.mp hx
        exact Or.inr (by omega)
    · exact absurd hb (by simp)
  · -- An end within the text is one of the offsets that are not left out.
    rintro ⟨⟨span, hspan, hb⟩, hle⟩
    refine ⟨b, List.mem_flatMap.mpr ⟨span, hspan, ?_⟩, ?_⟩
    · rcases hb with hb | hb <;> simp [hb]
    · rw [if_pos (by omega)]
      rfl

/-- An offset is a boundary if the text begins or ends there, or a span does so within the text. -/
theorem mem_boundaries_iff {s : StyledText} {b : Nat} :
    b ∈ s.boundaries ↔ b = 0 ∨ b = s.text.length ∨
      (∃ span ∈ s.base ++ s.layers, span.start = b ∨ span.stop = b) ∧ b ≤ s.text.length := by
  rw [boundaries_eq, List.mem_dedup, List.mem_mergeSort, List.mem_cons, List.mem_cons, mem_ends]

/-- Boundaries lie within the text. -/
theorem le_length_of_mem_boundaries {s : StyledText} {b : Nat} (h : b ∈ s.boundaries) :
    b ≤ s.text.length := by
  rcases mem_boundaries_iff.mp h with rfl | rfl | ⟨-, hle⟩
  · exact Nat.zero_le _
  · exact Nat.le_refl _
  · exact hle

/-- Boundaries are strictly increasing. -/
theorem pairwise_boundaries (s : StyledText) : s.boundaries.Pairwise (· < ·) := by
  rw [boundaries_eq]
  exact Order.pairwise_dedup (pairwise_mergeSort_le _)

/-- The boundaries begin with the beginning of the text. -/
theorem exists_boundaries_eq_cons (s : StyledText) : ∃ rest, s.boundaries = 0 :: rest := by
  have hzero : 0 ∈ s.boundaries := mem_boundaries_iff.mpr (Or.inl rfl)
  have hlt := s.pairwise_boundaries
  cases hb : s.boundaries with
  | nil => rw [hb] at hzero; exact absurd hzero List.not_mem_nil
  | cons a rest =>
    rw [hb] at hzero hlt
    rcases List.mem_cons.mp hzero with rfl | hrest
    · exact ⟨rest, rfl⟩
    · exact absurd (List.rel_of_pairwise_cons hlt hrest) (Nat.not_lt_zero a)

/-- Between two offsets without a boundary after the first, the same spans cover both. -/
theorem covers_eq_covers {s : StyledText} {span : Span} (hspan : span ∈ s.base ++ s.layers)
    {a o : Nat} (hao : a ≤ o) (ho : o ≤ s.text.length)
    (hgap : ∀ b ∈ s.boundaries, a < b → o < b) : span.covers o = span.covers a := by
  have hend : ∀ b : Nat, span.start = b ∨ span.stop = b → a < b → o < b := by
    intro b hb hab
    by_contra hbo
    exact hbo (hgap b (mem_boundaries_iff.mpr (Or.inr (Or.inr ⟨⟨span, hspan, hb⟩, by omega⟩))) hab)
  -- A span that covers only one of the two would have an end, and so a boundary, between them.
  have hstart := hend span.start.toNat
  have hstop := hend span.stop.toNat
  rw [Bool.eq_iff_iff, Span.covers_iff, Span.covers_iff]
  omega

/-! ## Stretches -/

end StyledText

/-- Whether a span has ended at an offset. One that ends no later than it begins never ends. -/
def Span.isOverAt (s : Span) (offset : Nat) : Bool :=
  s.start < s.stop && s.stop ≤ (offset : Int)

/-- Whether a span is open at an offset: it has begun there and has not ended. One that begins
before the text never opens. -/
def Span.isOpenAt (s : Span) (offset : Nat) : Bool :=
  0 ≤ s.start && s.start ≤ (offset : Int) && !s.isOverAt offset

namespace StyledText

/-- The base spans without those at the front that end at or before an offset. -/
def baseFrom (offset : Nat) (base : List Span) : List Span :=
  base.dropWhile fun span => span.stop ≤ (offset : Int)

/-- The categories of the layers that are open at an offset, in the order of painting. -/
def openCategories (layers : List Span) (offset : Nat) : List Category :=
  (layers.filter (·.isOpenAt offset)).map Span.category

/-- The categories at an offset, from what begins and ends up to it. -/
def stackAt (s : StyledText) (offset : Nat) : List Category :=
  categoryOver offset (baseFrom offset s.base).head? ++ openCategories s.layers offset

/-- The stretches between neighbouring offsets, with the categories of the first character. -/
def stretchesOf (stack : Nat → List Category) (offsets : List Nat) : List Run :=
  (offsets.zip offsets.tail).map fun p => ⟨p.1, p.2, stack p.1⟩

/-- The stretches between the boundaries of a text. -/
def stretches (s : StyledText) : List Run :=
  stretchesOf s.stackAt s.boundaries

/-- Joins neighbouring stretches with the same categories. -/
def joinRuns : List Run → List Run
  | [] => []
  | r :: rest =>
    match joinRuns rest with
    | next :: more =>
      if r.stop = next.start ∧ r.categories = next.categories then
        ⟨r.start, next.stop, r.categories⟩ :: more
      else r :: next :: more
    | [] => [r]

/-- What remains of the base spans in order tells the category of a character by its first span. -/
theorem categoryOver_head?_baseFrom {base : List Span}
    (hb : base.Pairwise fun a b => a.stop ≤ b.start)
    (o : Nat) :
    categoryOver o (baseFrom o base).head? = (base.filter (·.covers o)).map Span.category := by
  induction base with
  | nil => rfl
  | cons span base ih =>
    obtain ⟨hlater, hbase⟩ := List.pairwise_cons.mp hb
    simp only [baseFrom, List.dropWhile_cons] at ih ⊢
    by_cases ho : span.stop ≤ (o : Int)
    · have hc : span.covers o = false := Span.covers_eq_false_iff.mpr (Or.inr ho)
      simp only [ho, decide_true, if_true, ih hbase, List.filter_cons, hc, Bool.false_eq_true,
        if_false]
    · -- The first span has not ended, so that all the later ones begin behind the offset.
      have hnil : base.filter (·.covers o) = [] :=
        filter_covers_eq_nil fun later hl => Or.inl (by have := hlater later hl; omega)
      simp only [ho, decide_false, Bool.false_eq_true, if_false, categoryOver, List.head?_cons,
        List.filter_cons, hnil]
      cases span.covers o <;> rfl

/-- In a well-formed text, the open layers at an offset are those that cover it. -/
theorem WellFormed.openCategories_eq {s : StyledText} (hs : s.WellFormed) (o : Nat) :
    openCategories s.layers o = (s.layers.filter (·.covers o)).map Span.category := by
  rw [openCategories]
  congr 1
  refine List.filter_congr fun span hspan => ?_
  obtain ⟨hzero, hlt⟩ := hs.layers_forward span hspan
  rw [Bool.eq_iff_iff, Span.covers_iff, Span.isOpenAt, Span.isOverAt]
  simp only [hzero, hlt, decide_true, Bool.true_and, Bool.and_eq_true, decide_eq_true_eq,
    Bool.not_eq_true', decide_eq_false_iff_not]
  omega

/-- The stretches between strictly increasing offsets tile what lies between the first and the
greatest. -/
theorem tiles_stretchesOf {stack : Nat → List Category} {a : Nat} {offsets : List Nat}
    (h : (a :: offsets).Pairwise (· < ·)) {high : Nat} (hhigh : high ∈ a :: offsets)
    (hle : ∀ b ∈ a :: offsets, b ≤ high) :
    Tiles a ((stretchesOf stack (a :: offsets)).map Run.bounds) high := by
  induction offsets generalizing a with
  | nil =>
    obtain rfl := List.mem_singleton.mp hhigh
    exact rfl
  | cons b offsets ih =>
    have hab : a < b := List.rel_of_pairwise_cons h List.mem_cons_self
    have hrest : high ∈ b :: offsets := by
      refine (List.mem_cons.mp hhigh).resolve_left fun e => ?_
      have := hle b (List.mem_cons_of_mem a List.mem_cons_self)
      omega
    refine ⟨rfl, Int.ofNat_lt.mpr hab, ?_⟩
    exact ih (List.pairwise_cons.mp h).2 hrest fun c hc => hle c (List.mem_cons_of_mem a hc)

/-- A stretch begins at an offset, has no other offset in it, and carries what is looked up for its
beginning. -/
theorem of_mem_stretchesOf {stack : Nat → List Category} {offsets : List Nat}
    (h : offsets.Pairwise (· < ·)) {r : Run} (hr : r ∈ stretchesOf stack offsets) :
    (∀ b ∈ offsets, r.start < b → r.stop ≤ b) ∧ r.categories = stack r.start := by
  induction offsets with
  | nil => exact absurd hr List.not_mem_nil
  | cons a offsets ih =>
    cases offsets with
    | nil => exact absurd hr List.not_mem_nil
    | cons b offsets =>
      obtain ⟨hlt, hrest⟩ := List.pairwise_cons.mp h
      rcases List.mem_cons.mp hr with rfl | hr
      · -- The first stretch ends at the second offset, and all others come later.
        refine ⟨fun c hc hac => ?_, rfl⟩
        rcases List.mem_cons.mp hc with rfl | hc
        · exact absurd hac (Nat.lt_irrefl c)
        · rcases List.mem_cons.mp hc with rfl | hc
          · exact Nat.le_refl c
          · exact Nat.le_of_lt (List.rel_of_pairwise_cons hrest hc)
      · obtain ⟨hgap, hcats⟩ := ih hrest hr
        -- Any other stretch begins behind the first offset.
        have har : a < r.start := by
          obtain ⟨p, hp, rfl⟩ := List.mem_map.mp hr
          exact hlt p.1 (List.of_mem_zip hp).1
        refine ⟨fun c hc hrc => ?_, hcats⟩
        rcases List.mem_cons.mp hc with rfl | hc
        · omega
        · exact hgap c hc hrc

/-- Offsets that follow each other make a stretch. -/
theorem mem_stretchesOf {stack : Nat → List Category} {offsets rest : List Nat} {a b : Nat}
    (h : a :: b :: rest <:+ offsets) : ⟨a, b, stack a⟩ ∈ stretchesOf stack offsets := by
  obtain ⟨before, rfl⟩ := h
  induction before with
  | nil => exact List.mem_cons_self
  | cons first before ih =>
    cases before with
    | nil => exact List.mem_cons_of_mem _ ih
    | cons second before => exact List.mem_cons_of_mem _ ih

/-- The stretches of a text lie side by side over the whole of it. -/
theorem tiles_stretches (s : StyledText) : Tiles 0 (s.stretches.map Run.bounds) s.text.length := by
  obtain ⟨rest, hrest⟩ := s.exists_boundaries_eq_cons
  have hpairwise := s.pairwise_boundaries
  have hlast : s.text.length ∈ s.boundaries := mem_boundaries_iff.mpr (Or.inr (Or.inl rfl))
  have hle : ∀ b ∈ s.boundaries, b ≤ s.text.length := fun b => le_length_of_mem_boundaries
  rw [hrest] at hpairwise hlast hle
  rw [stretches, hrest]
  exact tiles_stretchesOf hpairwise hlast hle

/-- In a well-formed text, a stretch carries the categories of each of its characters. -/
theorem WellFormed.categories_of_mem_stretches {s : StyledText} (hs : s.WellFormed) :
    ∀ r ∈ s.stretches, ∀ o : Nat, r.start ≤ o → o < r.stop → r.categories = s.categoriesAt o := by
  intro r hr o hro hor
  obtain ⟨hgap, hcats⟩ := of_mem_stretchesOf s.pairwise_boundaries hr
  have hstop : (r.stop : Int) ≤ s.text.length :=
    (s.tiles_stretches.bounds_of_mem (List.mem_map_of_mem hr)).2.2
  rw [hcats, stackAt, categoryOver_head?_baseFrom hs.base_disjoint, hs.openCategories_eq,
    ← List.map_append, ← List.filter_append, hs.categoriesAt_eq]
  congr 1
  -- No boundary lies inside the stretch, so that the spans over its first character are those over
  -- any other.
  refine List.filter_congr fun span hspan => ?_
  refine (covers_eq_covers hspan hro (by omega) fun b hb hrb => ?_).symm
  exact Nat.lt_of_lt_of_le hor (hgap b hb hrb)

/-! ## Joining -/

/-- Joining runs keeps a tiling. -/
theorem tiles_joinRuns {runs : List Run} {low high : Int}
    (h : Tiles low (runs.map Run.bounds) high) :
    Tiles low ((joinRuns runs).map Run.bounds) high := by
  induction runs generalizing low with
  | nil => exact h
  | cons r runs ih =>
    obtain ⟨hstart, hlt, hrest⟩ := h
    have hjoined := ih hrest
    rw [joinRuns]
    cases hj : joinRuns runs with
    | nil =>
      rw [hj] at hjoined
      exact ⟨hstart, hlt, hjoined⟩
    | cons next more =>
      rw [hj] at hjoined
      obtain ⟨hnext, hnextlt, hmore⟩ := hjoined
      dsimp only
      split
      · exact ⟨hstart, Int.lt_trans hlt (hnext ▸ hnextlt), hmore⟩
      · exact ⟨hstart, hlt, hnext, hnextlt, hmore⟩

/-- Joining runs keeps what each carries for its characters. -/
theorem categories_of_mem_joinRuns {runs : List Run} {stack : Nat → List Category}
    (h : ∀ r ∈ runs, ∀ o, r.start ≤ o → o < r.stop → r.categories = stack o) :
    ∀ r ∈ joinRuns runs, ∀ o, r.start ≤ o → o < r.stop → r.categories = stack o := by
  induction runs with
  | nil => exact h
  | cons first runs ih =>
    have hfirst := h first List.mem_cons_self
    have hrest := ih fun r hr => h r (List.mem_cons_of_mem first hr)
    rw [joinRuns]
    cases hj : joinRuns runs with
    | nil =>
      intro r hr
      exact List.mem_singleton.mp hr ▸ hfirst
    | cons next more =>
      rw [hj] at hrest
      dsimp only
      split
      · next hjoin =>
        intro r hr o hro hor
        rcases List.mem_cons.mp hr with rfl | hr
        · -- The joined run ends where the second of its parts does.
          rcases Nat.lt_or_ge o first.stop with ho | ho
          · exact hfirst o hro ho
          · exact hjoin.2.trans (hrest next List.mem_cons_self o (hjoin.1 ▸ ho) hor)
        · exact hrest r (List.mem_cons_of_mem next hr) o hro hor
      · intro r hr
        rcases List.mem_cons.mp hr with rfl | hr
        · exact hfirst
        · exact hrest r hr

/-- Joining runs that lie side by side leaves no neighbours with the same categories. -/
theorem isChain_joinRuns {runs : List Run} {low high : Int}
    (h : Tiles low (runs.map Run.bounds) high) :
    (joinRuns runs).IsChain fun r next => r.categories ≠ next.categories := by
  induction runs generalizing low with
  | nil => exact List.IsChain.nil
  | cons r runs ih =>
    obtain ⟨-, -, hrest⟩ := h
    have hchain := ih hrest
    have hjoined := tiles_joinRuns hrest
    rw [joinRuns]
    cases hj : joinRuns runs with
    | nil => exact List.IsChain.singleton r
    | cons next more =>
      rw [hj] at hchain hjoined
      have hnext : r.stop = next.start := by
        have h : (next.start : Int) = r.stop := hjoined.1
        omega
      dsimp only
      -- The tiling makes the two runs meet, so that only their categories keep them apart.
      split
      · next hjoin => exact List.isChain_cons.mpr ⟨fun last hlast =>
          hjoin.2 ▸ (List.isChain_cons.mp hchain).1 last hlast, (List.isChain_cons.mp hchain).2⟩
      · next hjoin => exact List.isChain_cons_cons.mpr ⟨fun e => hjoin ⟨hnext, e⟩, hchain⟩

/-- Joined, the stretches of a well-formed text flatten it. -/
theorem WellFormed.isFlattenedBy_joinRuns {s : StyledText} (hs : s.WellFormed) :
    s.IsFlattenedBy (joinRuns s.stretches) where
  tiles := tiles_joinRuns s.tiles_stretches
  exact := categories_of_mem_joinRuns hs.categories_of_mem_stretches
  maximal := isChain_joinRuns s.tiles_stretches

end StyledText

end SourceEditor

import SourceEditor.Proofs.Style.Runs
import Mathlib.Data.List.Lattice
import Mathlib.Data.List.Nodup

/-!
# The sweep over a text

The sweep keeps the layers that are open and the base span it stands at, and changes them only at
the boundaries. What it finds there is what is looked up for the boundary on its own.

* `StyledText.Table.mem_at_ofLayers`: a table has the layers of an offset, and no others.
* `StyledText.Sweep.Reaches`: what holds of a sweep that comes to a boundary.
* `StyledText.runs_eq`: the sweep joins the stretches between the boundaries.
-/

namespace SourceEditor.StyledText

/-! ## Tables -/

namespace Table

/-- Putting a layer down leaves the places of a table. -/
@[simp]
theorem size_put (table : Table) (offset : Int) (index : Nat) :
    (table.put offset index).size = table.size := by
  rw [put]
  split
  · exact Array.size_modify
  · rfl

/-- A layer that is put down lies at its offset, beside those that lay there. -/
theorem mem_at_put {table : Table} {offset : Int} {index i a : Nat} (ha : a < table.size) :
    i ∈ (table.put offset index).at a ↔ i ∈ table.at a ∨ offset = a ∧ i = index := by
  rw [put]
  split
  · next hoffset =>
    simp only [Table.at, Array.getD_eq_getD_getElem?, Array.getElem?_modify]
    by_cases hoa : offset.toNat = a
    · have : offset = a := by omega
      simp [this, Array.getElem?_eq_getElem ha]
    · have : offset ≠ a := by omega
      simp [hoa, this]
  · have : offset ≠ a := by omega
    simp [this]

/-- A table has the layers that begin, or end, at an offset, and no others. -/
theorem mem_at_ofLayers {length : Nat} {layers : List Span} {offset : Span → Int} {i a : Nat}
    (ha : a ≤ length) :
    i ∈ (ofLayers length layers offset).at a ↔
      ∃ span, layers[i]? = some span ∧ offset span = a := by
  -- What a table holds after some layers is what it held before and what they put down.
  have key (l : List (Span × Nat)) (table : Table) (hsize : a < table.size) :
      i ∈ (l.foldl (fun table layer => table.put (offset layer.1) layer.2) table).at a ↔
        i ∈ table.at a ∨ ∃ span, (span, i) ∈ l ∧ offset span = a := by
    induction l generalizing table with
    | nil => simp
    | cons p l ih =>
      obtain ⟨span, index⟩ := p
      rw [List.foldl_cons, ih _ (by simpa using hsize), mem_at_put hsize]
      grind
  rw [ofLayers, key _ _ (by simpa using Nat.lt_succ_of_le ha)]
  simp [Table.at, List.mem_zipIdx_iff_getElem?, Nat.lt_succ_of_le ha]

end Table

/-! ## Open layers -/

/-- Whether a layer is open just before an offset: it began earlier and has not ended by then. -/
def OpenBefore (offset : Nat) (span : Span) : Prop :=
  0 ≤ span.start ∧ span.start < offset ∧ ¬ (span.start < span.stop ∧ span.stop < offset)

/-- Places that say exactly which layers have a property, each of them once. -/
structure Lists (layers : List Span) (p : Span → Prop) (places : List Nat) : Prop where
  /-- No place comes twice. -/
  nodup : places.Nodup
  /-- The places are those of the layers with the property. -/
  mem_iff : ∀ i, i ∈ places ↔ ∃ span, layers[i]? = some span ∧ p span

/-- A turn takes the closing layers out of the open ones, and then puts the opening ones in. -/
theorem turn_eq (closing opening : Array Nat) (active : List Nat) :
    turn closing opening active = opening.toList.reverse ∪ (active.diff closing.toList) := by
  rw [turn, ← Array.foldl_toList, ← Array.foldl_toList, ← List.diff_eq_foldl, List.union_def,
    List.foldr_reverse]

/-- At an offset, the layers that were open before it become those that are open at it. -/
theorem Lists.turn {s : StyledText} {a : Nat} (ha : a ≤ s.text.length) {active : List Nat}
    (h : Lists s.layers (OpenBefore a) active) :
    Lists s.layers (fun span => span.isOpenAt a = true)
      (turn (s.course.closes.at a) (s.course.opens.at a) active) where
  nodup := by
    rw [turn_eq]
    exact h.nodup.diff.union _
  mem_iff i := by
    rw [turn_eq, List.mem_union_iff, List.mem_reverse, h.nodup.mem_sdiff_iff, h.mem_iff,
      Array.mem_toList_iff, Array.mem_toList_iff, course, Table.mem_at_ofLayers ha,
      Table.mem_at_ofLayers ha]
    cases s.layers[i]? with
    | none => simp
    | some span =>
      simp only [Option.some.injEq, exists_eq_left', OpenBefore, Span.isOpenAt, Span.isOverAt,
        Bool.and_eq_true, decide_eq_true_eq, Bool.not_eq_true', Bool.and_eq_false_iff,
        decide_eq_false_iff_not]
      omega

/-- Where no layer begins or ends between two offsets, those open at the first are those open before
the second. -/
theorem Lists.openBefore {layers : List Span} {a b : Nat} (hab : a < b) {active : List Nat}
    (hgap : ∀ span ∈ layers, ∀ c : Nat, span.start = c ∨ span.stop = c → a < c → b ≤ c)
    (h : Lists layers (fun span => span.isOpenAt a = true) active) :
    Lists layers (OpenBefore b) active where
  nodup := h.nodup
  mem_iff i := by
    rw [h.mem_iff]
    refine exists_congr fun span => and_congr_right fun hspan => ?_
    have hend := hgap span (List.mem_of_getElem? hspan)
    have hstart := hend span.start.toNat
    have hstop := hend span.stop.toNat
    simp only [OpenBefore, Span.isOpenAt, Span.isOverAt, Bool.and_eq_true, decide_eq_true_eq,
      Bool.not_eq_true', Bool.and_eq_false_iff, decide_eq_false_iff_not]
    omega

/-- Picking members by their places in order is the same as filtering. -/
theorem filterMap_filter_range {α β : Type*} (l : List α) (p : α → Bool) (f : α → β) :
    ((List.range l.length).filter fun i => l[i]?.any p).filterMap (fun i => l[i]?.map f) =
      (l.filter p).map f := by
  induction l with
  | nil => rfl
  | cons a l ih =>
    rw [List.length_cons, List.range_succ_eq_map, List.filter_cons, List.filter_map,
      List.filter_cons]
    cases hp : p a <;>
      simpa [hp, List.filterMap_map, Function.comp_def] using ih

/-- The places of the layers with a property, in order, give the categories of these layers. -/
theorem Lists.filterMap_mergeSort {layers : List Span} {p : Span → Bool} {places : List Nat}
    (h : Lists layers (fun span => p span = true) places) :
    places.mergeSort.filterMap (fun i => layers[i]?.map Span.category) =
      (layers.filter p).map Span.category := by
  have hperm : places.Perm ((List.range layers.length).filter fun i => layers[i]?.any p) := by
    refine (List.perm_ext_iff_of_nodup h.nodup (List.nodup_range.filter _)).mpr fun i => ?_
    rw [h.mem_iff, List.mem_filter, List.mem_range]
    grind
  -- Both lists are in order, so that there is only one such arrangement of the places.
  have hsorted : places.mergeSort =
      (List.range layers.length).filter fun i => layers[i]?.any p :=
    ((List.mergeSort_perm _ _).trans hperm).eq_of_pairwise
      (fun _ _ _ _ => Nat.le_antisymm) (pairwise_mergeSort_le _)
      ((List.pairwise_lt_range.imp Nat.le_of_lt).filter _)
  rw [hsorted, filterMap_filter_range]

/-! ## The base pointer -/

/-- Dropping the base spans that have ended can be done in steps. -/
theorem baseFrom_baseFrom {a b : Nat} (hab : a ≤ b) (base : List Span) :
    baseFrom b (baseFrom a base) = baseFrom b base := by
  induction base with
  | nil => rfl
  | cons span base ih =>
    simp only [baseFrom, List.dropWhile_cons] at ih ⊢
    by_cases ha : span.stop ≤ (a : Int)
    · have hb : span.stop ≤ (b : Int) := by omega
      simp only [ha, hb, decide_true, if_true, ih]
    · simp only [ha, decide_false, Bool.false_eq_true, if_false, List.dropWhile_cons]

/-- The base pointer moves past the base spans that have ended. -/
theorem drop_passBase (base : Array Span) (offset i : Nat) :
    base.toList.drop (passBase base offset i) = baseFrom offset (base.toList.drop i) := by
  fun_induction passBase base offset i with
  | case1 i hi hstop ih =>
    have hdrop : base.toList.drop i = base[i] :: base.toList.drop (i + 1) :=
      List.drop_eq_getElem_cons (by simpa using hi)
    rw [ih, hdrop, baseFrom, baseFrom, List.dropWhile_cons_of_pos (by simpa using hstop)]
  | case2 i hi hstop =>
    rw [List.drop_eq_getElem_cons (by simpa using hi), baseFrom,
      List.dropWhile_cons_of_neg (by simpa using hstop)]
  | case3 i hi => rw [List.drop_eq_nil_of_le (by simpa using hi), baseFrom, List.dropWhile_nil]

/-! ## Joining from left to right -/

/-- Stretches that meet and carry the same may as well be joined beforehand. -/
theorem joinRuns_joined {last r : Run} (rest : List Run) (hmeet : last.stop = r.start)
    (hcats : last.categories = r.categories) :
    joinRuns (last :: r :: rest) = joinRuns (⟨last.start, r.stop, r.categories⟩ :: rest) := by
  simp only [joinRuns]
  cases joinRuns rest with
  | nil => simp [hmeet, hcats]
  | cons next more =>
    by_cases h : r.stop = next.start ∧ r.categories = next.categories
    · simp [h, hmeet, hcats]
    · simp [h, hmeet, hcats]

/-- Joining leaves where the first of some stretches begins, and what it carries. -/
theorem exists_joinRuns_eq_cons (r : Run) (rest : List Run) :
    ∃ stop more, joinRuns (r :: rest) = ⟨r.start, stop, r.categories⟩ :: more := by
  rw [joinRuns]
  cases joinRuns rest with
  | nil => exact ⟨_, _, rfl⟩
  | cons next more =>
    dsimp only
    split
    · exact ⟨_, _, rfl⟩
    · exact ⟨_, _, rfl⟩

/-- Stretches that do not meet, or carry different categories, are not joined. -/
theorem joinRuns_apart {last r : Run} (rest : List Run)
    (h : ¬ (last.stop = r.start ∧ last.categories = r.categories)) :
    joinRuns (last :: r :: rest) = last :: joinRuns (r :: rest) := by
  obtain ⟨stop, more, hr⟩ := exists_joinRuns_eq_cons r rest
  rw [joinRuns, hr]
  exact if_neg h

/-- Pushing stretches one by one joins them. -/
theorem foldl_pushRun (rs : List Run) (runs : Array Run) (last : Run) :
    (rs.foldl pushRun (runs.push last)).toList = runs.toList ++ joinRuns (last :: rs) := by
  induction rs generalizing runs last with
  | nil => simp [joinRuns]
  | cons r rs ih =>
    rw [List.foldl_cons, pushRun, Array.back?_push]
    dsimp only
    split
    · next h => rw [Array.pop_push, ih, joinRuns_joined rs h.1 h.2]
    · next h => rw [ih, joinRuns_apart rs h, Array.toList_push, List.append_assoc]; rfl

/-! ## The sweep -/

/-- A sweep comes to a boundary: its open layers are those that are open just before it, and the
base spans it has passed end at or before it. -/
structure Sweep.Reaches (s : StyledText) (a : Nat) (sweep : Sweep) : Prop where
  /-- The open layers. -/
  active : Lists s.layers (OpenBefore a) sweep.active
  /-- The base pointer. -/
  passed : baseFrom a (s.base.drop sweep.passed) = baseFrom a s.base

/-- A sweep begins at the beginning of the text, where nothing is open yet. -/
theorem Sweep.reaches_zero (s : StyledText) : Sweep.Reaches s 0 {} where
  active := ⟨List.nodup_nil, fun i => by grind [OpenBefore]⟩
  passed := rfl

/-- From one boundary a sweep comes to the next, and pushes the stretch between them with what is
looked up for its beginning. -/
theorem Sweep.Reaches.advance {s : StyledText} {a b : Nat} {sweep : Sweep}
    (h : sweep.Reaches s a) (ha : a ≤ s.text.length) (hab : a < b)
    (hgap : ∀ span ∈ s.layers, ∀ c : Nat, span.start = c ∨ span.stop = c → a < c → b ≤ c) :
    (s.course.advance sweep (a, b)).Reaches s b ∧
      (s.course.advance sweep (a, b)).runs = pushRun sweep.runs ⟨a, b, s.stackAt a⟩ := by
  have hactive := h.active.turn ha
  have hpassed : s.base.drop (passBase s.base.toArray a sweep.passed) = baseFrom a s.base :=
    (drop_passBase s.base.toArray a sweep.passed).trans h.passed
  refine ⟨⟨hactive.openBefore hab hgap, ?_⟩, ?_⟩
  · change baseFrom b (s.base.drop (passBase s.base.toArray a sweep.passed)) = _
    rw [hpassed, baseFrom_baseFrom (Nat.le_of_lt hab)]
  · rw [stackAt, ← hpassed, List.head?_drop, openCategories, ← hactive.filterMap_mergeSort]
    simp only [Course.advance, Course.categories, course, List.getElem?_toArray]

/-- No layer begins or ends between two neighbouring boundaries. -/
theorem le_of_layer_end {s : StyledText} {a b : Nat} {rest : List Nat}
    (hneighbours : a :: b :: rest <:+ s.boundaries) {span : Span} (hspan : span ∈ s.layers)
    {c : Nat} (hc : span.start = c ∨ span.stop = c) (hac : a < c) : b ≤ c := by
  have hstretch : ⟨a, b, s.stackAt a⟩ ∈ s.stretches := mem_stretchesOf hneighbours
  obtain ⟨hgap, -⟩ := of_mem_stretchesOf s.pairwise_boundaries hstretch
  have hb : b ≤ s.text.length :=
    le_length_of_mem_boundaries (hneighbours.mem (List.mem_cons_of_mem _ List.mem_cons_self))
  by_contra hcb
  -- An end of a layer within the text is a boundary.
  exact hcb (hgap c (mem_boundaries_iff.mpr (Or.inr (Or.inr
    ⟨⟨span, List.mem_append_right _ hspan, hc⟩, by omega⟩))) hac)

/-- A sweep from a boundary on pushes the stretches between the boundaries that are left. -/
theorem Sweep.Reaches.runs_foldl {s : StyledText} {a : Nat} {rest : List Nat} {sweep : Sweep}
    (h : sweep.Reaches s a) (hrest : a :: rest <:+ s.boundaries) :
    (((a :: rest).zip rest).foldl s.course.advance sweep).runs =
      (stretchesOf s.stackAt (a :: rest)).foldl pushRun sweep.runs := by
  induction rest generalizing a sweep with
  | nil => rfl
  | cons b rest ih =>
    have hab : a < b := List.rel_of_pairwise_cons
      (s.pairwise_boundaries.sublist hrest.sublist) List.mem_cons_self
    have ha : a ≤ s.text.length := le_length_of_mem_boundaries (hrest.mem List.mem_cons_self)
    obtain ⟨hreach, hruns⟩ := h.advance ha hab fun span hspan c => le_of_layer_end hrest hspan
    have hsuffix : b :: rest <:+ s.boundaries := (List.suffix_cons a _).trans hrest
    rw [List.zip_cons_cons, List.foldl_cons, ih hreach hsuffix, hruns]
    rfl

/-- The runs are the stretches between the boundaries, joined where neighbours carry the same. -/
theorem runs_eq (s : StyledText) : s.runs = joinRuns s.stretches := by
  obtain ⟨rest, hrest⟩ := s.exists_boundaries_eq_cons
  rw [runs]
  split
  · next hempty =>
    -- The stretches of an empty text would have to tile nothing, so there are none.
    have htiles := s.tiles_stretches
    rw [List.isEmpty_iff.mp hempty, List.length_nil] at htiles
    rw [List.map_eq_nil_iff.mp (Tiles.eq_nil htiles)]
    rfl
  · dsimp only
    have hall : 0 :: rest <:+ s.boundaries := ⟨[], hrest.symm⟩
    rw [stretches, hrest, List.tail_cons, (Sweep.reaches_zero s).runs_foldl hall]
    cases stretchesOf s.stackAt (0 :: rest) with
    | nil => rfl
    | cons r rs => exact foldl_pushRun rs #[] r

/-- The runs of a well-formed text flatten it. -/
theorem WellFormed.isFlattenedBy_runs {s : StyledText} (hs : s.WellFormed) :
    s.IsFlattenedBy s.runs :=
  s.runs_eq ▸ hs.isFlattenedBy_joinRuns

end SourceEditor.StyledText

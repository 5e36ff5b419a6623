import SourceEditor.Proofs.Search.Selection

/-!
# Words

A whole word is a run of word characters with no more of them on either side. Two such runs are the
same or lie apart, so that a search for whole words finds every one that it looks for, and never a
part of a longer word.

* `Text.IsWordRun`: a maximal run of word characters.
* `Text.IsWordRun.unique`: at most one of them lies over an offset.
* `LeftmostMatches.mem_iff`: matches that cannot overlap are all found.
* `Pattern.occurs_iff_isWordRun`: the whole words that a query of word characters matches.
-/

namespace SourceEditor

namespace Text

variable {t : Text} {i n o : Nat}

/-- The `n` characters of a text from an offset on are a maximal run of word characters. -/
structure IsWordRun (t : Text) (i n : Nat) : Prop where
  /-- There is a character in the run. -/
  pos : 0 < n
  /-- All characters of the run belong to words. -/
  isWordAt : ∀ k < n, t.isWordAt (i + k) = true
  /-- The character before the run belongs to none, if there is one. -/
  isWordBefore : t.isWordBefore i = false
  /-- The character behind the run belongs to none, if there is one. -/
  isWordBehind : t.isWordAt (i + n) = false

instance (t : Text) (i n : Nat) : Decidable (t.IsWordRun i n) :=
  decidable_of_iff (0 < n ∧ (∀ k < n, t.isWordAt (i + k) = true) ∧ t.isWordBefore i = false ∧
    t.isWordAt (i + n) = false)
    ⟨fun ⟨h₁, h₂, h₃, h₄⟩ => ⟨h₁, h₂, h₃, h₄⟩, fun ⟨h₁, h₂, h₃, h₄⟩ => ⟨h₁, h₂, h₃, h₄⟩⟩

/-- A character that belongs to a word is one of the text. -/
theorem lt_length_of_isWordAt (h : t.isWordAt o = true) : o < t.length := by
  unfold isWordAt at h
  obtain ⟨c, hc, -⟩ := Option.any_eq_true _ _ |>.mp h
  exact (List.getElem?_eq_some_iff.mp hc).1

/-- What stands before the next offset is what stands at this one. -/
theorem isWordBefore_succ (h : o < t.length) : t.isWordBefore (o + 1) = t.isWordAt o := by
  have hlast : (t.take (o + 1)).getLast? = t[o]? := by
    rw [List.take_add_one, List.getElem?_eq_getElem h]
    exact List.getLast?_concat
  rw [isWordBefore, hlast, isWordAt]

/-- Behind some word characters stands a word character. -/
theorem isWordBefore_add (hpos : 0 < n) (hall : ∀ k < n, t.isWordAt (i + k) = true) :
    t.isWordBefore (i + n) = true := by
  obtain ⟨k, rfl⟩ := Nat.exists_eq_add_one_of_ne_zero (Nat.ne_of_gt hpos)
  have hlast := hall k (Nat.lt_succ_self k)
  rw [← Nat.add_assoc, isWordBefore_succ (lt_length_of_isWordAt hlast), hlast]

namespace IsWordRun

variable {j m : Nat}

theorem add_length_le (h : t.IsWordRun i n) : i + n ≤ t.length := by
  have hlast := lt_length_of_isWordAt (h.isWordAt (n - 1) (Nat.sub_lt h.pos Nat.one_pos))
  have := h.pos
  omega

/-- All characters of a run, by their offsets. -/
theorem isWordAt_of_covers (h : t.IsWordRun i n) (hi : i ≤ o) (ho : o < i + n) :
    t.isWordAt o = true := by
  obtain ⟨k, rfl⟩ := Nat.exists_eq_add_of_le hi
  exact h.isWordAt k (by omega)

/-- A run that reaches an offset begins no later than any other run over it. -/
theorem start_le (h : t.IsWordRun i n) (h' : t.IsWordRun j m) (ho : o < i + n) (hj : j ≤ o) :
    j ≤ i := by
  by_contra hlt
  -- The character before the other run would belong to this one.
  obtain ⟨k, rfl⟩ : ∃ k, j = k + 1 := Nat.exists_eq_add_one_of_ne_zero (by omega)
  have hword := h.isWordAt_of_covers (o := k) (by omega) (by omega)
  have hbefore := h'.isWordBefore
  rw [isWordBefore_succ (lt_length_of_isWordAt hword), hword] at hbefore
  exact Bool.noConfusion hbefore

/-- At most one run lies over an offset. -/
theorem unique (h : t.IsWordRun i n) (h' : t.IsWordRun j m) (hi : i ≤ o) (ho : o < i + n)
    (hj : j ≤ o) (ho' : o < j + m) : i = j ∧ n = m := by
  obtain rfl : i = j := Nat.le_antisymm (h'.start_le h ho' hi) (h.start_le h' ho hj)
  refine ⟨rfl, ?_⟩
  -- The shorter of two runs with the same beginning would be followed by a word character.
  rcases Nat.lt_trichotomy n m with hlt | heq | hlt
  · exact absurd (h'.isWordAt n hlt) (Bool.not_eq_true _ ▸ h.isWordBehind)
  · exact heq
  · exact absurd (h.isWordAt m hlt) (Bool.not_eq_true _ ▸ h'.isWordBehind)

/-- Of two runs, the one that begins later begins behind the end of the other one. -/
theorem add_le (h : t.IsWordRun i n) (h' : t.IsWordRun j m) (hlt : i < j) : i + n ≤ j := by
  by_contra hover
  have hpos := h'.pos
  have := (h.unique h' (o := j) (Nat.le_of_lt hlt) (by omega) (Nat.le_refl j) (by omega)).1
  omega

end IsWordRun

end Text

/-- If no two matches can overlap, every one of them is found. -/
theorem LeftmostMatches.mem_iff {here : Nat → Nat → Prop} {low : Nat} {l : List Match}
    (h : LeftmostMatches here low l)
    (hapart : ∀ i m j n, here i m → here j n → i < j → i + m ≤ j)
    (hfun : ∀ i m n, here i m → here i n → m = n) {i n : Nat} :
    (i, i + n) ∈ l ↔ low ≤ i ∧ here i n := by
  constructor
  · intro hmem
    obtain ⟨j, m, heq, hjm⟩ := h.exists_of_mem hmem
    obtain ⟨rfl, hn⟩ := Prod.mk.inj heq
    obtain rfl : n = m := by omega
    exact ⟨h.low_le_of_mem _ hmem, hjm⟩
  · rintro ⟨hlow, hin⟩
    induction h with
    | done hnone => exact absurd hin (hnone i n hlow)
    | @next low j m rest hleast hj _ ih =>
      have hle : j ≤ i := hleast.2 ⟨hlow, n, hin⟩
      rcases Nat.lt_or_eq_of_le hle with hlt | rfl
      · exact List.mem_cons_of_mem _ (ih (hapart j m i n hj hin hlt))
      · rw [hfun j m n hj hin]
        exact List.mem_cons_self

/-! ## Searching for whole words -/

namespace Pattern

variable {p : Pattern} {t : Text} {i n : Nat}

/-- Whole words of a query that only word characters stand for are maximal runs that agree with
it. -/
theorem occurs_iff_isWordRun (hwhole : p.wholeWord = true)
    (hword : ∀ q ∈ p.query, ∀ c, p.same q c = true → Character.isWord c = true) :
    p.Occurs t i n ↔ t.IsWordRun i n ∧
      List.Forall₂ (fun q c => p.same q c = true) p.query ((t.drop i).take n) := by
  have hpos := List.length_pos_iff.mpr p.query_ne_nil
  constructor
  · rintro ⟨rfl, hagrees, hends⟩
    obtain ⟨hbefore, hbehind⟩ := hends hwhole
    rw [Text.isWordBoundary_iff] at hbefore hbehind
    -- Every character that agrees with one of the query belongs to a word, so that the boundaries
    -- at both ends mean that no word goes on there.
    have hall : ∀ k < p.query.length, t.isWordAt (i + k) = true := by
      intro k hk
      obtain ⟨hlength, hsame⟩ := List.forall₂_iff_get.mp hagrees
      have hk' := hlength ▸ hk
      have hc := hsame k hk hk'
      rw [List.length_take, List.length_drop] at hk'
      rw [List.get_eq_getElem, List.get_eq_getElem, List.getElem_take, List.getElem_drop] at hc
      rw [Text.isWordAt, List.getElem?_eq_getElem (by omega)]
      exact hword _ (List.getElem_mem hk) _ hc
    have hfirst : t.isWordAt i = true := hall 0 hpos
    rw [hfirst, ne_eq, Bool.not_eq_true] at hbefore
    rw [Text.isWordBefore_add hpos hall, ne_comm, ne_eq, Bool.not_eq_true] at hbehind
    exact ⟨⟨hpos, hall, hbefore, hbehind⟩, hagrees⟩
  · rintro ⟨hrun, hagrees⟩
    -- The run ends within the text, so that it has as many characters as the query.
    have hlength := hagrees.length_eq
    have hend := hrun.add_length_le
    rw [List.length_take, List.length_drop] at hlength
    obtain rfl : n = p.query.length := by omega
    refine ⟨rfl, hagrees, fun _ => ⟨Text.isWordBoundary_iff.mpr ?_, Text.isWordBoundary_iff.mpr ?_⟩⟩
    · have hfirst : t.isWordAt i = true := hrun.isWordAt 0 hpos
      rw [hrun.isWordBefore, hfirst]
      exact Bool.false_ne_true
    · rw [Text.isWordBefore_add hpos hrun.isWordAt, hrun.isWordBehind]
      exact Bool.false_ne_true.symm

/-- Of the whole words that a query of word characters matches, every one is found. -/
theorem mem_allIn_iff_isWordRun (hwhole : p.wholeWord = true)
    (hword : ∀ q ∈ p.query, ∀ c, p.same q c = true → Character.isWord c = true) :
    (i, i + n) ∈ p.allIn t ↔ t.IsWordRun i n ∧
      List.Forall₂ (fun q c => p.same q c = true) p.query ((t.drop i).take n) := by
  have hrun {i n : Nat} (h : p.Occurs t i n) : t.IsWordRun i n :=
    ((occurs_iff_isWordRun hwhole hword).mp h).1
  rw [← occurs_iff_isWordRun hwhole hword, (p.leftmostMatches_allIn t).mem_iff]
  · simp
  · intro i m j n hi hj
    exact (hrun hi).add_le (hrun hj)
  · intro i m n hm hn
    exact hm.1.trans hn.1.symm

end Pattern

end SourceEditor

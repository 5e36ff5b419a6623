import SourceEditor.Files.TextFile
import Mathlib.Data.List.TakeWhile

/-!
# Texts with line feeds

What becomes of a text whose line ends are read as line feeds. A stretch without carriage returns
stays as it is, so whatever looks at the front of a text without meeting a line end finds the same
there, and the rest behind it is the rest with line feeds.

* `Text.drop_withLineFeeds`: what is left behind a stretch without carriage returns.
* `Text.takeWhile_withLineFeeds`, `Text.dropWhile_withLineFeeds`: a class of characters that has
  neither of the line ends, or both.
* `Text.head?_withLineFeeds`, `Text.isPrefixOf_withLineFeeds`: what a text begins with.
-/

namespace SourceEditor

namespace Text

@[simp]
theorem withLineFeeds_nil : withLineFeeds [] = [] := rfl

theorem withLineFeeds_cons {c : Character} (h : c ≠ '\r') (t : Text) :
    withLineFeeds (c :: t) = c :: withLineFeeds t := by
  rw [withLineFeeds, if_neg h]
  rintro _ hc -
  exact h hc

/-- A carriage return becomes a line feed. -/
theorem exists_withLineFeeds_return (t : Text) :
    ∃ more : Text, withLineFeeds ('\r' :: t) = ('\n' :: more : Text) := by
  by_cases h : ∃ rest : Text, t = ('\n' :: rest : Text)
  · obtain ⟨rest, rfl⟩ := h
    exact ⟨_, rfl⟩
  · rw [withLineFeeds.eq_3]
    · exact ⟨_, rfl⟩
    · rintro rest - rfl
      exact h ⟨rest, rfl⟩

theorem isEmpty_withLineFeeds (t : Text) : (withLineFeeds t).isEmpty = t.isEmpty := by
  fun_cases withLineFeeds t <;> rfl

/-- A text without carriage returns at the front of another one stays as it is. -/
theorem withLineFeeds_append {s : Text} (h : Character.scalar '\r' ∉ s) (t : Text) :
    withLineFeeds (s ++ t) = s ++ withLineFeeds t := by
  induction s with
  | nil => rfl
  | cons c s ih =>
    obtain ⟨hc, hs⟩ := not_or.mp (mt List.mem_cons.mpr h)
    rw [List.cons_append, withLineFeeds_cons (Ne.symm hc), ih hs, List.cons_append]

theorem drop_withLineFeeds {t : Text} {n : Nat} (h : Character.scalar '\r' ∉ t.take n) :
    (withLineFeeds t).drop n = withLineFeeds (t.drop n) := by
  have hcut : withLineFeeds t = t.take n ++ withLineFeeds (t.drop n) := by
    rw [← withLineFeeds_append h, List.take_append_drop]
  rw [hcut]
  by_cases hn : n ≤ t.length
  · exact List.drop_left' (List.length_take_of_le hn)
  · have hle : t.length ≤ n := by omega
    rw [List.drop_eq_nil_of_le hle, List.take_of_length_le hle, withLineFeeds_nil,
      List.append_nil, List.drop_eq_nil_of_le hle]

/-- A class that has no line ends. -/
theorem takeWhile_withLineFeeds {p : Character → Bool} (hreturn : p '\r' = false)
    (hfeed : p '\n' = false) (t : Text) : (withLineFeeds t).takeWhile p = t.takeWhile p := by
  induction t with
  | nil => rfl
  | cons c t ih =>
    by_cases hc : c = '\r'
    · subst hc
      obtain ⟨more, hmore⟩ := exists_withLineFeeds_return t
      rw [hmore, List.takeWhile_cons_of_neg (by simp [hfeed]),
        List.takeWhile_cons_of_neg (by simp [hreturn])]
    · rw [withLineFeeds_cons hc, List.takeWhile_cons, List.takeWhile_cons, ih]

/-- A class that has both line ends. -/
theorem dropWhile_withLineFeeds {p : Character → Bool} (hreturn : p '\r' = true)
    (hfeed : p '\n' = true) (t : Text) :
    (withLineFeeds t).dropWhile p = withLineFeeds (t.dropWhile p) := by
  fun_induction withLineFeeds t with
  | case1 => rfl
  | case2 rest ih => simp [hreturn, hfeed, ih]
  | case3 c rest hpair ih =>
    by_cases hc : c = '\r'
    · simp [hc, hreturn, hfeed, ih]
    · rw [if_neg hc, List.dropWhile_cons, List.dropWhile_cons, ih]
      split
      · rfl
      · rw [withLineFeeds_cons hc]

/-- What a text begins with, unless that is a line end. -/
theorem head?_withLineFeeds {c : Character} (hreturn : c ≠ '\r') (hfeed : c ≠ '\n') (t : Text) :
    (withLineFeeds t).head? = some c ↔ t.head? = some c := by
  cases t with
  | nil => simp [withLineFeeds]
  | cons d t =>
    by_cases hd : d = '\r'
    · subst hd
      obtain ⟨more, hmore⟩ := exists_withLineFeeds_return t
      simp [hmore, hreturn.symm, hfeed.symm]
    · simp [withLineFeeds_cons hd]

/-- A word without line ends at the front of a text. -/
theorem isPrefixOf_withLineFeeds {word : Text} (hreturn : Character.scalar '\r' ∉ word)
    (hfeed : Character.scalar '\n' ∉ word) (t : Text) :
    word.isPrefixOf (withLineFeeds t) = word.isPrefixOf t := by
  induction word generalizing t with
  | nil => simp
  | cons c word ih =>
    simp only [List.mem_cons, not_or] at hreturn hfeed
    cases t with
    | nil => rfl
    | cons d t =>
      by_cases hd : d = '\r'
      · subst hd
        obtain ⟨more, hmore⟩ := exists_withLineFeeds_return t
        rw [hmore, List.isPrefixOf_cons_cons, List.isPrefixOf_cons_cons,
          beq_eq_false_iff_ne.mpr (Ne.symm hfeed.1), beq_eq_false_iff_ne.mpr (Ne.symm hreturn.1),
          Bool.false_and, Bool.false_and]
      · rw [withLineFeeds_cons hd, List.isPrefixOf_cons_cons, List.isPrefixOf_cons_cons,
          ih hreturn.2 hfeed.2]

end Text

end SourceEditor

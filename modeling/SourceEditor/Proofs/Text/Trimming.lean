import SourceEditor.Text.Basic
import Mathlib.Data.List.DropRight

/-!
# Blanks at the ends of a text

Trimming takes blanks away and nothing else, so that a text is blank exactly if nothing is left of
it, and a trimmed text has nothing more to lose.
-/

namespace SourceEditor.Text

variable {p : Character → Bool} {t : Text}

theorem all_dropWhile (p : Character → Bool) (t : Text) : (t.dropWhile p).all p = t.all p := by
  induction t with
  | nil => rfl
  | cons c rest ih =>
    cases hc : p c with
    | true => rw [List.dropWhile_cons_of_pos hc, ih, List.all_cons, hc, Bool.true_and]
    | false => rw [List.dropWhile_cons_of_neg (by simp [hc])]

theorem all_trimWhile (p : Character → Bool) (t : Text) : (trimWhile p t).all p = t.all p := by
  unfold trimWhile trimEndWhile
  rw [List.all_reverse, all_dropWhile, List.all_reverse, all_dropWhile]

@[simp]
theorem isBlank_trim (t : Text) : isBlank (trim t) = isBlank t :=
  all_trimWhile Character.isBlank t

theorem isBlank_append (s t : Text) : isBlank (s ++ t) = (isBlank s && isBlank t) :=
  List.all_append

theorem trimEndWhile_eq_rdropWhile (p : Character → Bool) (t : Text) :
    trimEndWhile p t = t.rdropWhile p := rfl

/-- A text without a character of the class has nothing to lose. -/
theorem trimWhile_eq_self (h : ∀ c ∈ t, p c = false) : trimWhile p t = t := by
  have hnot (c : Character) (hc : c ∈ t) : ¬ p c = true := by rw [h c hc]; exact Bool.false_ne_true
  have hdrop : t.dropWhile p = t :=
    List.dropWhile_eq_self_iff.mpr fun hpos => hnot _ (List.getElem_mem hpos)
  rw [trimWhile, hdrop, trimEndWhile_eq_rdropWhile]
  exact List.rdropWhile_eq_self_iff.mpr fun hne => hnot _ (List.getLast_mem hne)

/-- What is left begins with a character of another class. -/
theorem dropWhile_trimWhile (p : Character → Bool) (t : Text) :
    (trimWhile p t).dropWhile p = trimWhile p t := by
  have hprefix : trimWhile p t <+: t.dropWhile p := List.rdropWhile_prefix p _
  cases htrim : trimWhile p t with
  | nil => rfl
  | cons c rest =>
    -- Trimming the end leaves the first character in its place.
    obtain ⟨after, hafter⟩ := hprefix
    rw [htrim, List.cons_append] at hafter
    have hne : t.dropWhile p ≠ [] := by simp [← hafter]
    have hhead := List.head_dropWhile_not p hne
    simp only [← hafter, List.head_cons] at hhead
    exact List.dropWhile_cons_of_neg (by simp [hhead])

@[simp]
theorem trim_trim (t : Text) : trim (trim t) = trim t := by
  unfold trim
  rw [trimWhile, dropWhile_trimWhile, trimEndWhile_eq_rdropWhile]
  exact List.rdropWhile_idempotent Character.isBlank (t.dropWhile Character.isBlank)

theorem trim_eq_nil_iff : trim t = [] ↔ isBlank t = true := by
  constructor
  · intro h
    rw [← isBlank_trim, h]
    rfl
  · intro h
    have hdrop : t.dropWhile Character.isBlank = [] :=
      List.dropWhile_eq_nil_iff.mpr (List.all_eq_true.mp h)
    rw [trim, trimWhile, hdrop]
    rfl

end SourceEditor.Text

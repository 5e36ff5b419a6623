import SourceEditor.Proofs.Search.Leftmost

/-!
# Going round the matches

Searching from the end of one match finds the next one, and searching from the end of the last one
finds the first: from one match to the next, a search goes round the text.

* `LeftmostMatches.behind`: the matches behind one of them are its leftmost matches again.
* `Matcher.first?_eq_head?`: the leftmost match from an offset on is the first of all matches there.
* `Pattern.findNext_stop`: the match that follows another one, round the text.
-/

namespace SourceEditor

namespace LeftmostMatches

variable {here : Nat → Nat → Prop} {low : Nat} {l : List Match}

/-- Behind one of the matches, the matches that follow it are the leftmost ones. -/
theorem behind (h : LeftmostMatches here low l) {i : Nat} (hi : i < l.length) :
    LeftmostMatches here l[i].2 (l.drop (i + 1)) := by
  induction h generalizing i with
  | done => exact absurd hi (Nat.not_lt_zero i)
  | next _ _ hrest ih =>
    cases i with
    | zero => exact hrest
    | succ i => exact ih (Nat.lt_of_succ_lt_succ hi)

end LeftmostMatches

namespace Matcher

variable {m : Matcher} {t : Text} {l : List Match}

/-- The leftmost match from a place on is the first of the matches that are found there. -/
theorem firstFrom?_eq_head? (m : Matcher) (offset : Nat) (before : Option Character) (t : Text) :
    firstFrom? m offset before t = (allFrom m offset 0 before t).head? := by
  induction t generalizing offset before with
  | nil => rfl
  | cons c t ih =>
    rw [firstFrom?, allFrom]
    split
    · rfl
    · exact ih _ _

theorem first?_eq_head? {start : Nat} (hstart : start ≤ t.length)
    (h : LeftmostMatches (m.MatchesAt t) start l) : m.first? t start = l.head? := by
  have hfound := leftmostMatches_allFrom m (t.take start) (t.drop start) 0
  rw [List.take_append_drop, List.length_take, Nat.min_eq_left hstart, Nat.add_zero] at hfound
  have hl := h.unique (fun _ _ _ hn hk => hn.unique hk) hfound
  rw [first?, firstFrom?_eq_head?, hl]

end Matcher

namespace Pattern

variable {p : Pattern} {t : Text} {found : List Match}

/-- Going on from an offset within the text leads to the first match behind it, or else to the first
one of the text. -/
theorem findNext_eq_head?_or {start : Nat} {behind : List Match} (hstart : start ≤ t.length)
    (hbehind : LeftmostMatches (p.Occurs t) start behind)
    (hfound : LeftmostMatches (p.Occurs t) 0 found) :
    p.findNext t start = behind.head?.or found.head? := by
  rw [← matchesAt_eq_occurs] at hbehind hfound
  have hmin : (min (start : Int) t.length).toNat = start := by omega
  rw [findNext, hmin, Matcher.first?_eq_head? hstart hbehind,
    Matcher.first?_eq_head? (Nat.zero_le _) hfound]

/-- Going on from the end of a match leads to the next one, and from the last one to the first. -/
theorem findNext_stop (hfound : LeftmostMatches (p.Occurs t) 0 found) {i : Nat}
    (hi : i < found.length) : p.findNext t found[i].2 = found[(i + 1) % found.length]? := by
  have hstop : found[i].2 ≤ t.length := by
    obtain ⟨start, n, hm, rfl, hstands⟩ := hfound.exists_of_mem (List.getElem_mem hi)
    rw [hm]
    exact hstands.add_length_le
  rw [findNext_eq_head?_or hstop (hfound.behind hi) hfound, List.head?_drop]
  rcases Nat.lt_or_ge (i + 1) found.length with hnext | hlast
  · rw [List.getElem?_eq_getElem hnext, Option.some_or, Nat.mod_eq_of_lt hnext,
      List.getElem?_eq_getElem hnext]
  · -- Nothing matches behind the last match.
    have hround : i + 1 = found.length := by omega
    rw [List.getElem?_eq_none hlast, Option.none_or, hround, Nat.mod_self, List.head?_eq_getElem?]

end Pattern

end SourceEditor

import SourceEditor.Proofs.Search.Leftmost
import SourceEditor.Text.Utf8

/-!
# Replacing every match

Replacing goes through a text once and never looks at what it put in. So it is enough to know where
the matches are: the new text has the replacement in the place of each of them, and everything
between them is unchanged.

* `Text.replaced`: a text with another one in the place of some stretches.
* `Pattern.replaceAll_eq`: replacing every match puts the replacement in the place of the leftmost
  matches, and counts them.
-/

namespace SourceEditor

/-- A text from an offset on, with another text in the place of some stretches of it. Between two of
them everything stays as it is. -/
def Text.replacedFrom (t replacement : Text) (low : Nat) : List Match → Text
  | [] => t.drop low
  | m :: rest => (t.drop low).take (m.1 - low) ++ replacement ++ replacedFrom t replacement m.2 rest

/-- A text with another text in the place of some stretches of it. -/
def Text.replaced (t replacement : Text) (stretches : List Match) : Text :=
  replacedFrom t replacement 0 stretches

/-- The replacement itself in the middle, and no stretch is looked at twice. -/
example : Text.replaced "a-b-c" "--" [(1, 2), (3, 4)] = ("a--b--c" : Text) := by decide

namespace Text

variable {front rest replacement : Text} {c : Character} {l : List Match}

/-- A character before the first stretch stays. -/
theorem replacedFrom_of_lt (h : ∀ m ∈ l, front.length < m.1) :
    replacedFrom (front ++ c :: rest) replacement front.length l =
      c :: replacedFrom (front ++ c :: rest) replacement (front.length + 1) l := by
  have hdrop : (front ++ c :: rest).drop front.length =
      c :: (front ++ c :: rest).drop (front.length + 1) := by simp
  cases l with
  | nil => exact hdrop
  | cons m l =>
    have hlt := h m List.mem_cons_self
    have hlength : m.1 - front.length = m.1 - (front.length + 1) + 1 := by omega
    rw [replacedFrom, replacedFrom, hdrop, hlength, List.take_succ_cons]
    rfl

/-- A stretch that begins at once is replaced. -/
theorem replacedFrom_cons_self (t : Text) (low stop : Nat) :
    replacedFrom t replacement low ((low, stop) :: l) =
      replacement ++ replacedFrom t replacement stop l := by
  simp [replacedFrom]

/-- As soon as anything is replaced, the replacement decides whether the new text can be encoded. -/
theorem isEncodable_replacedFrom {t : Text} (ht : Utf8.isEncodable t = true) (replacement : Text)
    (low : Nat) (l : List Match) :
    Utf8.isEncodable (replacedFrom t replacement low l) =
      (l.isEmpty || Utf8.isEncodable replacement) := by
  induction l generalizing low with
  | nil => exact Utf8.isEncodable_drop ht low
  | cons m l ih =>
    have htaken : Utf8.isEncodable ((t.drop low).take (m.1 - low)) = true :=
      Utf8.isEncodable_take (Utf8.isEncodable_drop ht low) _
    rw [replacedFrom, Utf8.isEncodable_append, Utf8.isEncodable_append, htaken, ih]
    cases l <;> simp

end Text

namespace Matcher

/-- Replacing from a place on finds the same matches as looking for them, and replaces just
these. -/
theorem replaceFrom_eq (m : Matcher) (replacement front rest : Text) (skip : Nat) :
    m.replaceFrom replacement skip front.getLast? rest =
      let found := m.allFrom front.length skip front.getLast? rest
      (Text.replacedFrom (front ++ rest) replacement (front.length + skip) found,
        found.length) := by
  -- The induction is on what is left; one character goes over to the front at each step.
  induction rest generalizing front skip with
  | nil => simp [replaceFrom, allFrom, Text.replacedFrom]
  | cons c rest ih =>
    have step (skip : Nat) := ih (front ++ [c]) skip
    simp only [List.append_assoc, List.singleton_append, List.length_append, List.length_singleton,
      List.getLast?_concat] at step
    cases skip with
    | succ skip =>
      rw [replaceFrom, allFrom, step, Nat.add_comm skip, ← Nat.add_assoc]
    | zero =>
      rw [replaceFrom, allFrom]
      split
      · next n hn =>
        rw [step, Nat.add_assoc, Nat.add_comm 1 n]
        exact congrArg (·, _) (Text.replacedFrom_cons_self _ _ _).symm
      · next hnone =>
        -- All matches that are still to come begin behind this character.
        have hfound := m.leftmostMatches_allFrom (front ++ [c]) rest 0
        simp only [List.append_assoc, List.singleton_append, List.length_append,
          List.length_singleton, List.getLast?_concat] at hfound
        rw [step]
        exact congrArg (·, _) (Text.replacedFrom_of_lt fun m hm => hfound.low_le_of_mem m hm).symm

end Matcher

/-- Replacing every match puts the replacement in the place of the leftmost matches, and counts
them. -/
theorem Pattern.replaceAll_eq {p : Pattern} {t : Text} {found : List Match}
    (hfound : LeftmostMatches (p.Occurs t) 0 found) (replacement : Text) :
    p.replaceAll t replacement = (t.replaced replacement found, found.length) := by
  have hall := hfound.unique (fun _ _ _ hm hn => hm.1.trans hn.1.symm) (p.leftmostMatches_allIn t)
  rw [hall]
  exact p.matcher.replaceFrom_eq replacement [] t 0

end SourceEditor

import SourceEditor.Proofs.Highlight.RulePasses
import Mathlib.Algebra.Ring.Parity
import Mathlib.Data.List.DropRight
import Mathlib.Order.Nat

/-!
# Comments and strings of rule passes

Which characters the passes of a rule set for comments and strings cover, by what stands in the text
and without going through it: a comment to the end of a line by the mark before it in this line, a
string by counting the quotes of its line, and the comments between two marks one after the other.

* `Matcher.covers_toLineEnd_iff`: a line comment.
* `Text.InString`: a string, by the quotes on either side in the line.
* `Matcher.StringState`: what going through a line knows of its quotes.
* `Matcher.covers_string_iff`: the matches of strings cover what lies in a string.
* `Text.BlockComments`: the comments between two marks.
* `RuleSet.covered_regions`: what the passes of a rule set cover.
-/

namespace SourceEditor

/-! ## Lines -/

namespace Text

variable {t front rest : Text} {c : Character}

/-- What stands before the first line feed. -/
def firstLine (t : Text) : Text :=
  t.takeWhile fun (c : Character) => c != '\n'

/-- What stands behind the last line feed. -/
def lastLine (t : Text) : Text :=
  t.rtakeWhile fun (c : Character) => c != '\n'

/-- The rest of a line, from an offset on. -/
def lineFrom (t : Text) (o : Nat) : Text :=
  firstLine (t.drop o)

/-- The beginning of a line, up to an offset. -/
def lineBefore (t : Text) (o : Nat) : Text :=
  lastLine (t.take o)

theorem firstLine_cons_of_ne (hc : c ≠ '\n') : firstLine (c :: rest) = c :: firstLine rest :=
  List.takeWhile_cons_of_pos (by simpa using hc)

theorem firstLine_newline : firstLine (('\n' : Character) :: rest) = [] :=
  List.takeWhile_cons_of_neg (by simp)

theorem lastLine_concat_of_ne (hc : c ≠ '\n') : lastLine (front ++ [c]) = lastLine front ++ [c] :=
  List.rtakeWhile_concat_pos _ _ _ (by simpa using hc)

theorem lastLine_concat_newline : lastLine (front ++ [('\n' : Character)]) = [] :=
  List.rtakeWhile_concat_neg _ _ _ (by simp)

/-- The first characters of a text lie in one line as far as its first line goes. -/
theorem newline_notMem_take_iff {n : Nat} (hn : n ≤ t.length) :
    ('\n' : Character) ∉ t.take n ↔ n ≤ (firstLine t).length := by
  induction t generalizing n with
  | nil =>
    obtain rfl := Nat.le_zero.mp hn
    simp
  | cons c t ih =>
    cases n with
    | zero => simp
    | succ n =>
      by_cases hc : c = '\n'
      · subst hc
        simp [firstLine_newline]
      · rw [firstLine_cons_of_ne hc, List.length_cons, Nat.succ_le_succ_iff,
          ← ih (Nat.le_of_succ_le_succ hn)]
        simp [Ne.symm hc]

/-- The first line goes on behind its first characters. -/
theorem firstLine_drop {n : Nat} (hn : n ≤ (firstLine t).length) :
    firstLine (t.drop n) = (firstLine t).drop n := by
  induction t generalizing n with
  | nil =>
    obtain rfl := Nat.le_zero.mp hn
    rfl
  | cons c t ih =>
    cases n with
    | zero => rfl
    | succ n =>
      by_cases hc : c = '\n'
      · subst hc
        rw [firstLine_newline] at hn
        exact absurd hn (Nat.not_succ_le_zero n)
      · rw [firstLine_cons_of_ne hc, List.length_cons] at hn
        rw [firstLine_cons_of_ne hc, List.drop_succ_cons, List.drop_succ_cons,
          ih (Nat.le_of_succ_le_succ hn)]

/-- A line goes on behind some of its characters. -/
theorem lineFrom_add {i n : Nat} (hn : n ≤ (t.lineFrom i).length) :
    t.lineFrom (i + n) = (t.lineFrom i).drop n := by
  rw [lineFrom, ← List.drop_drop, firstLine_drop hn, lineFrom]

/-- A character of a line is one that is left of it. -/
theorem mem_lineFrom {o : Nat} (h : t[o]? = some c) (hc : c ≠ '\n') : c ∈ t.lineFrom o := by
  obtain ⟨rest, hrest⟩ : ∃ rest, t.drop o = c :: rest := by
    rw [← List.head?_drop] at h
    exact List.head?_eq_some_iff.mp h
  rw [lineFrom, hrest, firstLine_cons_of_ne hc]
  exact List.mem_cons_self

end Text

/-! ## Line comments -/

/-- Whatever could match from an offset on is overlapped by a leftmost match. -/
theorem LeftmostMatches.exists_covers {here : Nat → Nat → Prop} {low : Nat} {l : List Match}
    (h : LeftmostMatches here low l) {i n : Nat} (hlow : low ≤ i)
    (hin : here i n) : ∃ x ∈ l, x.1 ≤ i ∧ i < x.2 := by
  induction h with
  | done hnone => exact absurd hin (hnone i n hlow)
  | @next low j m rest hleast hj _ ih =>
    have hle : j ≤ i := hleast.2 ⟨hlow, n, hin⟩
    by_cases hi : i < j + m
    · exact ⟨_, List.mem_cons_self, hle, hi⟩
    · obtain ⟨x, hx, hcovers⟩ := ih (Nat.le_of_not_lt hi)
      exact ⟨x, List.mem_cons_of_mem _ hx, hcovers⟩

/-- Nothing before the offset that a search begins at is covered. -/
theorem LeftmostMatches.not_covers_of_lt {here : Nat → Nat → Prop} {low o : Nat} {l : List Match}
    (h : LeftmostMatches here low l) (ho : o < low) : ¬ ∃ x ∈ l, x.1 ≤ o ∧ o < x.2 := by
  rintro ⟨x, hx, hle, -⟩
  exact Nat.not_lt.mpr ((h.low_le_of_mem x hx).trans hle) ho

namespace Matcher

variable {t : Text} {i n o : Nat}

section LineComments

variable {mark : Text}

/-- A line comment is the rest of the line that its mark stands in. -/
theorem matchesAt_toLineEnd_iff (hne : mark ≠ []) (hline : ('\n' : Character) ∉ mark) :
    (toLineEnd mark).MatchesAt t i n ↔
      mark <+: t.drop i ∧ n = (t.lineFrom i).length := by
  have hpos := List.length_pos_iff.mpr hne
  have hlength (rest : Text) : (Text.firstLine (mark ++ rest)).length =
      mark.length + (Text.firstLine rest).length := by
    rw [Text.firstLine, List.takeWhile_append_of_pos, List.length_append]
    · rfl
    · intro c hc
      simpa using ne_of_mem_of_not_mem hc hline
  simp only [MatchesAt, toLineEnd, List.isPrefixOf_iff_prefix, Option.ite_none_right_eq_some,
    Option.some.injEq]
  constructor
  · rintro ⟨-, -, ⟨rest, hrest⟩, hn⟩
    refine ⟨⟨rest, hrest⟩, ?_⟩
    rw [← hrest, List.drop_left] at hn
    rw [Text.lineFrom, ← hrest, hlength, ← hn]
    rfl
  · rintro ⟨⟨rest, hrest⟩, rfl⟩
    have hi := congrArg List.length hrest
    rw [List.length_append, List.length_drop] at hi
    rw [Text.lineFrom, ← hrest, hlength, List.drop_left]
    exact ⟨by omega, by omega, List.prefix_append mark rest, rfl⟩

/-- A line comment covers what stands in a line behind its mark, the mark included. -/
theorem covers_toLineEnd_iff (hne : mark ≠ []) (hline : ('\n' : Character) ∉ mark)
    (ho : o < t.length) :
    (toLineEnd mark).Covers t o ↔
      ∃ i ≤ o, mark <+: t.drop i ∧ ('\n' : Character) ∉ (t.drop i).take (o + 1 - i) := by
  -- Up to an offset there is no line feed if the line reaches as far.
  have hreach {i : Nat} (hi : i ≤ o) :
      ('\n' : Character) ∉ (t.drop i).take (o + 1 - i) ↔ o < i + (t.lineFrom i).length := by
    rw [Text.newline_notMem_take_iff (by rw [List.length_drop]; omega), ← Text.lineFrom]
    omega
  have hleftmost := (toLineEnd mark).leftmostMatches_all t
  rw [covers_iff]
  constructor
  · rintro ⟨x, hx, hlow, hhigh⟩
    obtain ⟨i, n, rfl, hin⟩ := hleftmost.exists_of_mem hx
    obtain ⟨hmark, rfl⟩ := (matchesAt_toLineEnd_iff hne hline).mp hin
    exact ⟨i, hlow, hmark, (hreach hlow).mpr hhigh⟩
  · rintro ⟨i, hi, hmark, hfree⟩
    have hin := (matchesAt_toLineEnd_iff hne hline).mpr ⟨hmark, rfl⟩
    obtain ⟨x, hx, hlow, hhigh⟩ :=
      hleftmost.exists_covers (Nat.zero_le i) hin
    -- The match over the mark ends with the line that the mark stands in.
    obtain ⟨j, m, rfl, hjm⟩ := hleftmost.exists_of_mem hx
    obtain ⟨-, rfl⟩ := (matchesAt_toLineEnd_iff hne hline).mp hjm
    have hsame : (t.lineFrom (j + (i - j))).length = (t.lineFrom j).length - (i - j) := by
      rw [Text.lineFrom_add (by omega), List.length_drop]
    rw [Nat.add_sub_cancel' hlow] at hsame
    have hend := (hreach hi).mp hfree
    exact ⟨_, hx, Nat.le_trans hlow hi, by omega⟩

end LineComments

end Matcher

/-! ## Strings -/

/-- A character of a line lies in a string: it is no line feed, and either an odd number of quotes
stand before it in its line and there is one at it or behind it, or their number is even, it is a
quote itself and there is another one behind it. -/
def Text.InString (t : Text) (q : Character) (o : Nat) : Prop :=
  t[o]? ≠ some ('\n' : Character) ∧
    (Odd ((t.lineBefore o).count q) ∧ q ∈ t.lineFrom o ∨
      Even ((t.lineBefore o).count q) ∧ t[o]? = some q ∧ q ∈ t.lineFrom (o + 1))

namespace Text

variable {q c : Character} {front rest : Text}

theorem inString_length_iff : InString (front ++ c :: rest) q front.length ↔ c ≠ '\n' ∧
    (Odd ((lastLine front).count q) ∧ q ∈ firstLine (c :: rest) ∨
      Even ((lastLine front).count q) ∧ c = q ∧ q ∈ firstLine rest) := by
  simp [InString, lineBefore, lineFrom]

/-- Nothing behind the end of a text lies in a string. -/
theorem not_inString_of_length_le {t : Text} {o : Nat} (ho : t.length ≤ o) : ¬ t.InString q o := by
  have hline : t.lineFrom o = [] := by
    rw [lineFrom, List.drop_eq_nil_of_le ho]
    rfl
  simp [InString, hline, ho]

/-- Within a line, nothing lies in a string from an unpaired quote on. -/
theorem not_inString_of_unpaired {t : Text} {o n : Nat} (hq : q ≠ '\n')
    (heven : Even ((t.lineBefore o).count q)) (hnone : q ∉ t.lineFrom (o + 1))
    (hn : n ≤ (t.lineFrom o).length) : ¬ t.InString q (o + n) := by
  cases n with
  | zero =>
    rintro ⟨-, ⟨hodd, -⟩ | ⟨-, -, hmem⟩⟩
    · exact Nat.not_even_iff_odd.mpr hodd heven
    · exact hnone hmem
  | succ n =>
    have hbehind : q ∉ t.lineFrom (o + (n + 1)) := by
      have hone : t.lineFrom (o + 1) = (t.lineFrom o).drop 1 := lineFrom_add (by omega)
      rw [lineFrom_add hn, Nat.add_comm n, ← List.drop_drop, ← hone]
      exact fun hmem => hnone (List.mem_of_mem_drop hmem)
    rintro ⟨-, ⟨-, hmem⟩ | ⟨-, hquote, -⟩⟩
    · exact hbehind hmem
    · exact hbehind (mem_lineFrom hquote hq)

/-- Whether a character lies in a string is a matter of its line. -/
theorem inString_iff_line {t : Text} {o : Nat} : t.InString q o ↔
    Odd ((t.lineBefore o).count q) ∧ q ∈ t.lineFrom o ∨
      Even ((t.lineBefore o).count q) ∧ (t.lineFrom o).head? = some q ∧
        q ∈ (t.lineFrom o).tail := by
  have hhead : t[o]? = (t.drop o).head? := List.head?_drop.symm
  have hnext : t.lineFrom (o + 1) = firstLine (t.drop o).tail := by
    rw [lineFrom, List.tail_drop]
  rw [InString, hnext, hhead, lineFrom]
  cases t.drop o with
  | nil => simp [firstLine]
  | cons c rest =>
    by_cases hc : c = '\n'
    · subst hc
      simp [firstLine_newline]
    · simp [firstLine_cons_of_ne hc, hc]

/-- The quotes of the last line, one character later. -/
theorem count_lastLine_concat_of_ne (hc : c ≠ '\n') : (lastLine (front ++ [c])).count q =
    (lastLine front).count q + if c = q then 1 else 0 := by
  rw [lastLine_concat_of_ne hc, List.count_append, List.count_singleton]
  simp only [beq_iff_eq]

end Text

namespace Matcher

section Strings

variable {q c : Character} {front rest : Text} {skip : Nat}

/-- What going through a text knows of the quotes in the line that it has come to. `skip` is what is
left of a match. -/
inductive StringState (q : Character) (front rest : Text) : Nat → Prop
  /-- The quotes of the line so far are in pairs. -/
  | paired (heven : Even ((Text.lastLine front).count q)) : StringState q front rest 0
  /-- No quote follows in the line. -/
  | unpaired (hnone : q ∉ Text.firstLine rest) : StringState q front rest 0
  /-- A string has begun, which is closed behind `k` more characters of the line. -/
  | inside {k : Nat} (hodd : Odd ((Text.lastLine front).count q))
      (hclose : (Text.firstLine rest).idxOf? q = some k) : StringState q front rest (k + 1)

/-- A closing quote is the first one in the line. -/
theorem closing?_quote (hq : q ≠ '\n') (t : Text) :
    closing? false [q] t = (Text.firstLine t).idxOf? q := by
  induction t with
  | nil => rfl
  | cons c t ih =>
    rw [closing?]
    by_cases hc : c = '\n'
    · subst hc
      simp [Text.firstLine_newline, hq]
    · rw [Text.firstLine_cons_of_ne hc, List.idxOf?_cons, ih]
      simp [hc, eq_comm (a := q), beq_iff_eq]

/-- A string is a quote and what follows it up to the next quote of its line. -/
theorem string_cons (hq : q ≠ '\n') (before : Option Character) :
    region false [q] [q] before (c :: rest) =
      if c = q then ((Text.firstLine rest).idxOf? q).map (· + 2) else none := by
  have hnext : closing? false [q] (List.drop 1 (c :: rest)) = (Text.firstLine rest).idxOf? q :=
    closing?_quote hq rest
  have hlength : (fun n => 1 + n + 1) = (· + 2) := by
    ext n
    omega
  rw [region, List.length_singleton, hnext, hlength]
  simp [eq_comm (a := q)]

namespace StringState

/-- Within a string, the character is one of it, and the string goes on or is closed. -/
theorem step_inside (hq : q ≠ '\n') (h : StringState q front (c :: rest) (skip + 1)) :
    Text.InString (front ++ c :: rest) q front.length ∧ StringState q (front ++ [c]) rest skip := by
  obtain _ | _ | ⟨hodd, hclose⟩ := h
  have hmem : q ∈ Text.firstLine (c :: rest) := by
    rw [← List.isSome_idxOf?, hclose]
    rfl
  have hc : c ≠ '\n' := by
    rintro rfl
    rw [Text.firstLine_newline] at hmem
    exact List.not_mem_nil hmem
  refine ⟨Text.inString_length_iff.mpr ⟨hc, Or.inl ⟨hodd, hmem⟩⟩, ?_⟩
  rw [Text.firstLine_cons_of_ne hc, List.idxOf?_cons] at hclose
  -- The character is the closing quote, which makes a pair, or the string goes on behind it.
  split at hclose
  · next heq =>
    obtain rfl : c = q := beq_iff_eq.mp heq
    obtain rfl := Option.some.inj hclose
    refine .paired ?_
    rw [Text.count_lastLine_concat_of_ne hc, if_pos rfl]
    exact hodd.add_one
  · next hne =>
    obtain ⟨k, hk, rfl⟩ := Option.map_eq_some_iff.mp hclose
    refine .inside ?_ hk
    rwa [Text.count_lastLine_concat_of_ne hc, if_neg (fun e => hne (beq_iff_eq.mpr e))]

/-- Outside the strings, a quote begins a string if another one follows in its line. -/
theorem step_begin (hq : q ≠ '\n') (h : StringState q front (c :: rest) 0) {n : Nat}
    (hn : region false [q] [q] front.getLast? (c :: rest) = some (n + 1)) :
    Text.InString (front ++ c :: rest) q front.length ∧ StringState q (front ++ [c]) rest n := by
  rw [string_cons hq, Option.ite_none_right_eq_some] at hn
  obtain ⟨rfl, hn⟩ := hn
  obtain ⟨k, hclose, hk⟩ := Option.map_eq_some_iff.mp hn
  obtain rfl : k + 1 = n := by omega
  have hmem : c ∈ Text.firstLine rest := by
    rw [← List.isSome_idxOf?, hclose]
    rfl
  -- Behind an unpaired quote there is none, so that this one cannot stand there.
  have heven : Even ((Text.lastLine front).count c) := by
    cases h with
    | paired heven => exact heven
    | unpaired hnone =>
      rw [Text.firstLine_cons_of_ne hq] at hnone
      exact absurd List.mem_cons_self hnone
  refine ⟨Text.inString_length_iff.mpr ⟨hq, Or.inr ⟨heven, rfl, hmem⟩⟩, .inside ?_ hclose⟩
  rw [Text.count_lastLine_concat_of_ne hq, if_pos rfl]
  exact heven.add_one

/-- Outside the strings, any other character is outside them, and so is what follows. -/
theorem step_outside (hq : q ≠ '\n') (h : StringState q front (c :: rest) 0)
    (hnone : ∀ n, region false [q] [q] front.getLast? (c :: rest) ≠ some (n + 1)) :
    ¬ Text.InString (front ++ c :: rest) q front.length ∧ StringState q (front ++ [c]) rest 0 := by
  -- A quote that opens nothing has no partner on its line.
  have hlone : c = q → q ∉ Text.firstLine rest := by
    intro hc hmem
    obtain ⟨k, hk⟩ := Option.isSome_iff_exists.mp (List.isSome_idxOf?.mpr hmem)
    refine hnone (k + 1) ?_
    rw [string_cons hq, if_pos hc, hk]
    rfl
  rw [Text.inString_length_iff]
  by_cases hc : c = '\n'
  · -- A new line begins, and with it the count of its quotes.
    subst hc
    refine ⟨fun hin => hin.1 rfl, .paired ?_⟩
    rw [Text.lastLine_concat_newline]
    exact Even.zero
  · cases h with
    | paired heven =>
      refine ⟨?_, ?_⟩
      · rintro ⟨-, ⟨hodd, -⟩ | ⟨-, heq, hmem⟩⟩
        · exact Nat.not_even_iff_odd.mpr hodd heven
        · exact hlone heq hmem
      · by_cases heq : c = q
        · exact .unpaired (hlone heq)
        · refine .paired ?_
          rwa [Text.count_lastLine_concat_of_ne hc, if_neg heq]
    | unpaired hline =>
      rw [Text.firstLine_cons_of_ne hc, List.mem_cons, not_or] at hline
      -- What lies behind a quote without a partner stays outside up to the end of the line.
      refine ⟨?_, .unpaired hline.2⟩
      rintro ⟨-, ⟨-, hmem⟩ | ⟨-, -, hmem⟩⟩
      · rw [Text.firstLine_cons_of_ne hc, List.mem_cons] at hmem
        exact hmem.elim hline.1 hline.2
      · exact hline.2 hmem

/-- Going on through a text covers the characters that lie in a string. -/
theorem covers_allFrom_iff (hq : q ≠ '\n') (h : StringState q front rest skip) (k : Nat) :
    (k < skip ∨ ∃ x ∈ (region false [q] [q]).allFrom front.length skip front.getLast? rest,
      x.1 ≤ front.length + k ∧ front.length + k < x.2) ↔
      Text.InString (front ++ rest) q (front.length + k) := by
  -- The induction is on what is left; each character is that of one of the steps.
  induction rest generalizing front skip k with
  | nil =>
    have hskip : skip = 0 := by
      cases h with
      | paired | unpaired => rfl
      | inside hodd hclose => cases hclose
    have hnot : ¬ Text.InString (front ++ []) q (front.length + k) :=
      Text.not_inString_of_length_le (by simp)
    refine iff_of_false ?_ hnot
    simp [hskip, allFrom]
  | cons c rest ih =>
    -- What comes later begins behind this character.
    have hlater : ¬ ∃ x ∈ (region false [q] [q]).allFrom (front.length + 1) 0 (some c) rest,
        x.1 ≤ front.length + 0 ∧ front.length + 0 < x.2 := by
      have hleftmost := (region false [q] [q]).leftmostMatches_allFrom (front ++ [c]) rest 0
      rw [List.length_append, List.getLast?_concat] at hleftmost
      exact hleftmost.not_covers_of_lt (Nat.lt_succ_self _)
    have later {skip : Nat} (hnext : StringState q (front ++ [c]) rest skip) (k : Nat) :
        (k < skip ∨ ∃ x ∈ (region false [q] [q]).allFrom (front.length + 1) skip (some c) rest,
          x.1 ≤ front.length + (k + 1) ∧ front.length + (k + 1) < x.2) ↔
          Text.InString (front ++ c :: rest) q (front.length + (k + 1)) := by
      have hih := ih hnext k
      rwa [List.length_append, List.getLast?_concat, List.length_singleton, List.append_assoc,
        List.singleton_append, Nat.add_assoc front.length 1 k, Nat.add_comm 1 k] at hih
    cases skip with
    | succ skip =>
      obtain ⟨hin, hnext⟩ := h.step_inside hq
      rw [allFrom]
      cases k with
      | zero => exact iff_of_true (Or.inl (Nat.succ_pos skip)) hin
      | succ k => rw [Nat.succ_lt_succ_iff, later hnext k]
    | zero =>
      rw [allFrom]
      split
      · next n hn =>
        obtain ⟨hin, hnext⟩ := h.step_begin hq hn
        cases k with
        | zero => exact iff_of_true (Or.inr ⟨_, List.mem_cons_self, by simp⟩) hin
        | succ k =>
          rw [← later hnext k, List.exists_mem_cons_iff]
          simp
      · next hnone =>
        obtain ⟨hnot, hnext⟩ := h.step_outside hq hnone
        cases k with
        | zero => exact iff_of_false (fun hk => hk.elim (Nat.not_lt_zero 0) hlater) hnot
        | succ k => rw [← later hnext k, or_iff_right (Nat.not_lt_zero _),
            or_iff_right (Nat.not_lt_zero _)]

end StringState

/-- The matches of strings cover the characters that lie in a string. -/
theorem covers_string_iff (hq : q ≠ '\n') {t : Text} {o : Nat} :
    (region false [q] [q]).Covers t o ↔ t.InString q o := by
  -- Before the first character no quote was met.
  have hstart : StringState q [] t 0 := .paired Even.zero
  have hall := hstart.covers_allFrom_iff hq o
  simp only [Nat.not_lt_zero, false_or, List.length_nil, Nat.zero_add, List.nil_append,
    List.getLast?_nil] at hall
  rw [covers_iff]
  exact hall

end Strings

end Matcher

/-! ## Block comments -/

/-- The block comments of a text from an offset on. Each begins with the first opening mark behind
the one before it and ends with the first closing mark behind this opening mark, in whatever line;
there are no more of them once a mark is missing. -/
inductive Text.BlockComments (t opening closing : Text) : Nat → List Match → Prop
  /-- No opening mark follows. -/
  | noOpening {low : Nat} (hnone : ∀ i, low ≤ i → ¬ opening <+: t.drop i) :
      BlockComments t opening closing low []
  /-- No closing mark follows the first opening mark. -/
  | noClosing {low i : Nat} (hopening : IsLeast {i | low ≤ i ∧ opening <+: t.drop i} i)
      (hnone : ∀ j, i + opening.length ≤ j → ¬ closing <+: t.drop j) :
      BlockComments t opening closing low []
  /-- The first comment, and then the comments behind it. -/
  | next {low i j : Nat} {rest : List Match}
      (hopening : IsLeast {i | low ≤ i ∧ opening <+: t.drop i} i)
      (hclosing : IsLeast {j | i + opening.length ≤ j ∧ closing <+: t.drop j} j)
      (hrest : BlockComments t opening closing (j + closing.length) rest) :
      BlockComments t opening closing low ((i, j + closing.length) :: rest)

section BlockComments

variable {t opening closing : Text} {low i n : Nat} {l l' : List Match}

/-- There is only one way to go from mark to mark. -/
theorem Text.BlockComments.unique (h : t.BlockComments opening closing low l)
    (h' : t.BlockComments opening closing low l') : l = l' := by
  -- Both lists begin at the leftmost opening and end at the first closing behind it.
  induction h generalizing l' with
  | noOpening hnone =>
    cases h' with
    | noOpening | noClosing => rfl
    | next hopening => exact absurd hopening.1.2 (hnone _ hopening.1.1)
  | noClosing hopening hnone =>
    cases h' with
    | noOpening | noClosing => rfl
    | next hopening' hclosing =>
      obtain rfl := hopening.unique hopening'
      exact absurd hclosing.1.2 (hnone _ hclosing.1.1)
  | next hopening hclosing _ ih =>
    cases h' with
    | noOpening hnone => exact absurd hopening.1.2 (hnone _ hopening.1.1)
    | noClosing hopening' hnone =>
      obtain rfl := hopening.unique hopening'
      exact absurd hclosing.1.2 (hnone _ hclosing.1.1)
    | next hopening' hclosing' hrest' =>
      obtain rfl := hopening.unique hopening'
      obtain rfl := hclosing.unique hclosing'
      rw [ih hrest']

/-- A closing mark stands behind every opening mark. -/
theorem Text.BlockComments.exists_closing (h : t.BlockComments opening closing low l) :
    ∀ x ∈ l, ∃ j, x.1 + opening.length ≤ j ∧ closing <+: t.drop j := by
  induction h with
  | noOpening | noClosing => simp
  | next _ hclosing _ ih =>
    intro x hx
    rcases List.mem_cons.mp hx with rfl | hx
    · exact ⟨_, hclosing.1⟩
    · exact ih x hx

namespace Matcher

/-- Looking for a closing mark finds the first one, or there is none. -/
theorem closing?_spec (hne : closing ≠ []) (t : Text) :
    (∃ k, closing? true closing t = some k ∧ IsLeast {k | closing <+: t.drop k} k) ∨
      closing? true closing t = none ∧ ∀ k, ¬ closing <+: t.drop k := by
  induction t with
  | nil => exact Or.inr ⟨rfl, fun k h => hne (by simpa using h)⟩
  | cons c t ih =>
    rw [closing?]
    by_cases hhere : closing <+: c :: t
    · rw [if_pos (List.isPrefixOf_iff_prefix.mpr hhere)]
      exact Or.inl ⟨0, rfl, hhere, fun k _ => Nat.zero_le k⟩
    · rw [if_neg (fun h => hhere (List.isPrefixOf_iff_prefix.mp h)), if_neg (by simp)]
      rcases ih with ⟨k, hk, hleast⟩ | ⟨hk, hnone⟩
      · refine Or.inl ⟨k + 1, by rw [hk]; rfl, hleast.1, fun m hm => ?_⟩
        cases m with
        | zero => exact absurd hm hhere
        | succ m => exact Nat.succ_le_succ (hleast.2 hm)
      · refine Or.inr ⟨by rw [hk]; rfl, fun m => ?_⟩
        cases m with
        | zero => exact hhere
        | succ m => exact hnone m

/-- A block comment matches where its opening mark stands, up to the first closing mark behind
it. -/
theorem matchesAt_block_iff (hopening : opening ≠ []) (hclosing : closing ≠ []) :
    (region true opening closing).MatchesAt t i n ↔ opening <+: t.drop i ∧
      ∃ j, IsLeast {j | i + opening.length ≤ j ∧ closing <+: t.drop j} j ∧
        i + n = j + closing.length := by
  have hpos := List.length_pos_iff.mpr hopening
  have hlt (h : opening <+: t.drop i) : i < t.length := by
    have := h.length_le
    rw [List.length_drop] at this
    omega
  -- Offsets behind the opening mark, counted from its end.
  have hleast {k : Nat} : IsLeast {j | i + opening.length ≤ j ∧ closing <+: t.drop j}
      (i + opening.length + k) ↔
      IsLeast {k | closing <+: ((t.drop i).drop opening.length).drop k} k := by
    simp only [List.drop_drop]
    constructor
    · rintro ⟨hk, hfirst⟩
      exact ⟨hk.2, fun m hm => Nat.le_of_add_le_add_left (hfirst ⟨Nat.le_add_right _ m, hm⟩)⟩
    · rintro ⟨hk, hfirst⟩
      refine ⟨⟨Nat.le_add_right _ k, hk⟩, fun j hj => ?_⟩
      obtain ⟨m, rfl⟩ := Nat.exists_eq_add_of_le hj.1
      exact Nat.add_le_add_left (hfirst hj.2) _
  simp only [MatchesAt, region, List.isPrefixOf_iff_prefix, Option.ite_none_right_eq_some]
  rcases closing?_spec hclosing ((t.drop i).drop opening.length) with ⟨k, hk, hfirst⟩ | ⟨hk, hnone⟩
  · rw [hk, Option.map_some, Option.some.injEq]
    constructor
    · rintro ⟨-, -, hmark, rfl⟩
      exact ⟨hmark, _, hleast.mpr hfirst, by omega⟩
    · rintro ⟨hmark, j, hj, hn⟩
      obtain rfl := hj.unique (hleast.mpr hfirst)
      exact ⟨hlt hmark, by omega, hmark, by omega⟩
  · rw [hk]
    constructor
    · rintro ⟨-, -, -, hn⟩
      cases hn
    · rintro ⟨-, j, hj, -⟩
      obtain ⟨m, rfl⟩ := Nat.exists_eq_add_of_le hj.1.1
      exact absurd hj.1.2 (by simpa [List.drop_drop, Nat.add_assoc] using hnone m)

/-- The matches from an offset on are the block comments from there on. -/
theorem blockComments_of_leftmostMatches (hopening : opening ≠ []) (hclosing : closing ≠ [])
    (h : LeftmostMatches ((region true opening closing).MatchesAt t) low l) :
    t.BlockComments opening closing low l := by
  classical
  -- An opening mark matches as soon as any closing mark follows it.
  have hmatches {i j : Nat} (hi : opening <+: t.drop i) (hj : i + opening.length ≤ j)
      (hclose : closing <+: t.drop j) : ∃ n, (region true opening closing).MatchesAt t i n := by
    have hleast := Nat.isLeast_find (⟨j, hj, hclose⟩ :
      ∃ j, i + opening.length ≤ j ∧ closing <+: t.drop j)
    have hle := hleast.1.1
    exact ⟨_, (matchesAt_block_iff hopening hclosing).mpr
      ⟨hi, _, hleast, Nat.add_sub_cancel' (by omega)⟩⟩
  induction h with
  | @done low hnone =>
    by_cases hex : ∃ i, low ≤ i ∧ opening <+: t.drop i
    · have hleast := Nat.isLeast_find hex
      refine .noClosing hleast fun j hj hclose => ?_
      obtain ⟨n, hn⟩ := hmatches hleast.1.2 hj hclose
      exact hnone _ n hleast.1.1 hn
    · exact .noOpening fun i hi hmark => hex ⟨i, hi, hmark⟩
  | @next low i n rest hleast hn _ ih =>
    obtain ⟨hmark, j, hj, hend⟩ := (matchesAt_block_iff hopening hclosing).mp hn
    rw [hend] at ih ⊢
    refine .next ⟨⟨hleast.1.1, hmark⟩, fun k hk => ?_⟩ hj ih
    -- An earlier opening mark would match up to the same closing mark at the latest.
    by_contra hlt
    have hle := hj.1.1
    exact hlt (hleast.2 ⟨hk.1, hmatches hk.2 (by omega) hj.1.2⟩)

end Matcher

end BlockComments

/-! ## Rule sets -/

namespace RuleSet

/-- What the passes of a rule set for comments and strings cover. A line comment goes from its mark
to the end of the line. A string goes from a quote with an even number of quotes before it in its
line to the next quote of this line; a last quote without another one covers nothing, and only its
line decides whether a character lies in a string. The block comments lie between an opening mark
and the next closing mark, one after the other, and none begins where no closing mark follows. -/
theorem covered_regions (r : RuleSet) (t : Text) :
    (∀ mark, r.lineComment = some mark → mark ≠ [] → ('\n' : Character) ∉ mark → ∀ o < t.length,
      (r.LineCommentAt t o ↔
        ∃ i ≤ o, mark <+: t.drop i ∧ ('\n' : Character) ∉ (t.drop i).take (o + 1 - i))) ∧
    (∀ q : Character, r.stringQuote = some [q] → q ≠ '\n' →
      (∀ o, r.StringAt t o ↔ t.InString q o) ∧
      (∀ o n, Even ((t.lineBefore o).count q) → q ∉ t.lineFrom (o + 1) →
        n ≤ (t.lineFrom o).length → ¬ r.StringAt t (o + n)) ∧
      ∀ (t' : Text) (o o' : Nat), t'.lineBefore o' = t.lineBefore o →
        t'.lineFrom o' = t.lineFrom o → (r.StringAt t' o' ↔ r.StringAt t o)) ∧
    (∀ opening closing, r.blockComment = some (opening, closing) → opening ≠ [] → closing ≠ [] →
      (∀ found, t.BlockComments opening closing 0 found ↔
        found = (Matcher.region true opening closing).all t) ∧
      ∀ found, t.BlockComments opening closing 0 found →
        (∀ o, r.BlockCommentAt t o ↔ ∃ x ∈ found, x.1 ≤ o ∧ o < x.2) ∧
        ∀ i, (∀ j, i + opening.length ≤ j → ¬ closing <+: t.drop j) → ∀ x ∈ found, x.1 < i) := by
  refine ⟨?_, ?_, ?_⟩
  · -- Line comments.
    intro mark hmark hne hline o ho
    have hmark? : r.lineMark? = some mark := by simp [lineMark?, hmark, hne]
    rw [← Matcher.covers_toLineEnd_iff hne hline ho]
    simp [LineCommentAt, hmark?]
  · -- Strings.
    intro q hq hline
    have hmark? : r.quoteMark? = some [q] := by simp [quoteMark?, hq]
    have hiff (t : Text) (o : Nat) : r.StringAt t o ↔ t.InString q o := by
      rw [← Matcher.covers_string_iff hline]
      simp [StringAt, hmark?]
    refine ⟨hiff t, ?_, ?_⟩
    · intro o n heven hnone hn
      rw [hiff]
      exact Text.not_inString_of_unpaired hline heven hnone hn
    · intro t' o o' hbefore hfrom
      rw [hiff, hiff, Text.inString_iff_line, Text.inString_iff_line, hbefore, hfrom]
  · -- Block comments.
    intro opening closing hblock hopening hclosing
    have hmarks? : r.blockMarks? = some (opening, closing) := by
      simp [blockMarks?, hblock, hopening, hclosing]
    have hall : t.BlockComments opening closing 0 ((Matcher.region true opening closing).all t) :=
      Matcher.blockComments_of_leftmostMatches hopening hclosing (Matcher.leftmostMatches_all _ t)
    refine ⟨fun found => ⟨fun h => h.unique hall, fun h => h ▸ hall⟩, ?_⟩
    intro found hfound
    obtain rfl := hfound.unique hall
    refine ⟨fun o => ?_, ?_⟩
    · rw [← Matcher.covers_iff]
      simp [BlockCommentAt, hmarks?]
    · intro i hnone x hx
      obtain ⟨j, hj, hclose⟩ := hfound.exists_closing x hx
      by_contra hle
      exact hnone j (by omega) hclose

/-- A string and an unpaired quote in the first line; a comment over its end, and an opening mark in
the second line that no closing mark follows. -/
theorem covered_regions_lines :
    let t : Text := "\"a\" \" /*\n*/ /* // b"
    (kotlinRules.StringAt t 1 ∧ ¬ kotlinRules.StringAt t 4) ∧
      (t.BlockComments "/*" "*/" 0 [(6, 11)] ∧ ¬ kotlinRules.BlockCommentAt t 12) ∧
      kotlinRules.LineCommentAt t 18 ∧ ¬ kotlinRules.LineCommentAt t 13 := by
  intro t
  obtain ⟨hline, hstring, hblock⟩ := covered_regions kotlinRules t
  obtain ⟨hquoted, hunpaired, -⟩ := hstring '"' rfl (by decide)
  obtain ⟨hall, hcovers⟩ := hblock "/*" "*/" rfl (by decide) (by decide)
  replace hline := hline "//" rfl (by decide) (by decide)
  have hfound : t.BlockComments "/*" "*/" 0 [(6, 11)] := (hall _).mpr (by decide +kernel)
  refine ⟨⟨(hquoted 1).mpr ?_, ?_⟩, ⟨hfound, ?_⟩, ?_, ?_⟩
  · unfold Text.InString
    decide +kernel
  · exact hunpaired 4 0 (by decide +kernel) (by decide +kernel) (Nat.zero_le _)
  · rw [(hcovers _ hfound).1]
    decide
  · exact (hline 18 (by decide)).mpr ⟨15, by decide, by decide, by decide⟩
  · rw [hline 13 (by decide)]
    decide +kernel

end RuleSet

end SourceEditor

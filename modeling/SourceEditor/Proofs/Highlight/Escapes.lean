import SourceEditor.Proofs.Highlight.Tokenization
import Mathlib.Algebra.Group.Nat.Even
import Mathlib.Data.List.DropRight

/-!
# Escapes in strings

A backslash hides the character after it from the search for a closing quote, another backslash
included. Looking back from a quote, this is a matter of parity: the quote closes its string if an
even number of backslashes stand just before it, the opening quote being the farthest to look back
to.

* `Text.backslashesBefore`: how many backslashes stand just before an offset.
* `Token.isRead_iff_even`: the offsets that are read from left to right are those with an even
  number of backslashes before them.
* `RuleSet.scan_string`: where the strings of a scanned text begin and end.
-/

namespace SourceEditor

namespace Text

variable {t : Text} {low o : Nat}

/-- The number of backslashes in a row just before an offset, none of them before `low`. -/
def backslashesBefore (t : Text) (low o : Nat) : Nat :=
  (((t.take o).drop low).rtakeWhile fun (c : Character) => c == '\\').length

/-- Nothing stands between an offset and itself. -/
theorem backslashesBefore_self : t.backslashesBefore low low = 0 := by
  have hnone : (t.take low).drop low = [] :=
    List.drop_eq_nil_iff.mpr (List.length_take_le low t)
  rw [backslashesBefore, hnone]
  rfl

/-- One more character makes the row longer if it is a backslash, and else ends it. -/
theorem backslashesBefore_succ {c : Character} (hlow : low ≤ o) (hc : t[o]? = some c) :
    t.backslashesBefore low (o + 1) =
      if c = '\\' then t.backslashesBefore low o + 1 else 0 := by
  have ho : o < t.length := (List.getElem?_eq_some_iff.mp hc).1
  have hone : (t.take (o + 1)).drop low = (t.take o).drop low ++ [c] := by
    rw [List.take_add_one, hc, List.drop_append_of_le_length]
    · rfl
    · rw [List.length_take_of_le (Nat.le_of_lt ho)]
      exact hlow
  rw [backslashesBefore, hone]
  split
  · next h =>
    rw [List.rtakeWhile_concat_pos _ _ _ (by simp [h]), List.length_append]
    rfl
  · next h =>
    rw [List.rtakeWhile_concat_neg _ _ _ (by simp [h])]
    rfl

/-- A quote that closes a string which begins at `start`: an even number of backslashes stand
between them just before it. -/
def ClosesString (t : Text) (quote : Character) (start o : Nat) : Prop :=
  start < o ∧ t[o]? = some quote ∧ Even (t.backslashesBefore (start + 1) o)

end Text

/-! ## Reading and parity -/

namespace Token

variable {q : Character} {s : Text} {k : Nat}

/-- A quote of one character stands at an offset if this character does. -/
theorem singleton_prefix_drop_iff : [q] <+: s.drop k ↔ s[k]? = some q := by
  rw [← List.head?_drop]
  cases s.drop k with
  | nil => simp
  | cons c rest => simp [eq_comm]

/-- Every offset is read but the one behind a backslash that is read itself. -/
theorem isRead_succ_iff_or (hq : q ≠ '\\') {c : Character} (hc : s[k]? = some c) :
    IsRead [q] s (k + 1) ↔ c ≠ '\\' ∨ ¬ IsRead [q] s k := by
  have hnot (rest : Text) : ¬ [q] <+: '\\' :: rest := by simp [hq]
  -- Reading takes one or two characters at a time, and so does the induction.
  induction k using Nat.strongRecOn generalizing s with
  | _ k ih =>
    match s, k, hc with
    | d :: s, 0, hc =>
      obtain rfl := Option.some.inj hc
      by_cases hd : d = '\\'
      · subst hd
        simp [not_isRead_one (hnot s), IsRead.first]
      · simp [isRead_succ_iff hd, IsRead.first, hd]
    | d :: s, k + 1, hc =>
      rw [List.getElem?_cons_succ] at hc
      by_cases hd : d = '\\'
      · subst hd
        match s, k, hc with
        | e :: s, 0, hc => simp [isRead_escape_iff (hnot _), not_isRead_one (hnot _), IsRead.first]
        | e :: s, k + 1, hc =>
          rw [List.getElem?_cons_succ] at hc
          rw [isRead_escape_iff (hnot _), isRead_escape_iff (hnot _)]
          exact ih k (by omega) hc
      · rw [isRead_succ_iff hd, isRead_succ_iff hd]
        exact ih k (Nat.lt_succ_self k) hc

/-- The offsets that are read behind an opening quote are those with an even number of backslashes
before them. -/
theorem isRead_iff_even (hq : q ≠ '\\') (t : Text) (low : Nat) (hk : low + k ≤ t.length) :
    IsRead [q] (t.drop low) k ↔ Even (t.backslashesBefore low (low + k)) := by
  induction k with
  | zero => simp [Text.backslashesBefore_self, IsRead.first]
  | succ k ih =>
    have hlt : low + k < t.length := by omega
    have hc : t[low + k]? = some t[low + k] := List.getElem?_eq_getElem hlt
    have hdrop : (t.drop low)[k]? = some t[low + k] := by rw [List.getElem?_drop, hc]
    rw [isRead_succ_iff_or hq hdrop, ih (Nat.le_of_lt hlt), ← Nat.add_assoc,
      Text.backslashesBefore_succ (Nat.le_add_right low k) hc]
    split
    · next h => simp [h, Nat.even_add_one]
    · next h => simp [h]

/-- A quote that is read behind an opening quote closes the string. -/
theorem isRead_and_prefix_iff (hq : q ≠ '\\') (t : Text) (start : Nat) :
    IsRead [q] (t.drop (start + 1)) k ∧ [q] <+: (t.drop (start + 1)).drop k ↔
      t.ClosesString q start (start + 1 + k) := by
  rw [singleton_prefix_drop_iff, List.getElem?_drop, and_comm, Text.ClosesString]
  constructor
  · rintro ⟨hquote, hread⟩
    have hlt := (List.getElem?_eq_some_iff.mp hquote).1
    exact ⟨by omega, hquote, (isRead_iff_even hq t _ (Nat.le_of_lt hlt)).mp hread⟩
  · rintro ⟨-, hquote, heven⟩
    have hlt := (List.getElem?_eq_some_iff.mp hquote).1
    exact ⟨hquote, (isRead_iff_even hq t _ (Nat.le_of_lt hlt)).mpr heven⟩

/-- What is closed behind an opening quote is closed by the least quote with an even number of
backslashes before it, if there is one. -/
theorem closesString_of_closedAfter (hq : q ≠ '\\') {t : Text} {start n : Nat}
    (h : ClosedAfter (IsRead [q] (t.drop (start + 1))) [q] (t.drop (start + 1)) n) :
    (∃ close, IsLeast {o | t.ClosesString q start o} close ∧ start + 1 + n = close + 1) ∨
      (∀ o, ¬ t.ClosesString q start o) ∧ n = (t.drop (start + 1)).length := by
  -- Offsets behind the opening quote are counted from its end on one side, from the front of the
  -- text on the other.
  rcases h with ⟨k, hk, rfl⟩ | ⟨hnone, rfl⟩
  · refine Or.inl ⟨start + 1 + k, ⟨(isRead_and_prefix_iff hq t start).mp hk.1, ?_⟩, rfl⟩
    intro o ho
    obtain ⟨m, rfl⟩ := Nat.exists_eq_add_of_le ho.1
    exact Nat.add_le_add_left (hk.2 ((isRead_and_prefix_iff hq t start).mpr ho)) _
  · refine Or.inr ⟨fun o ho => ?_, rfl⟩
    obtain ⟨m, rfl⟩ := Nat.exists_eq_add_of_le ho.1
    obtain ⟨hread, hquote⟩ := (isRead_and_prefix_iff hq t start).mpr ho
    exact hnone m hread hquote

end Token

/-! ## Strings of a scanned text -/

namespace RuleSet

variable {r : RuleSet} {t : Text}

/-- A joined token that is not plain is a token by itself. -/
theorem exists_eq_cons_of_joinPlain {tokens more : List Token} {token : Token}
    (h : Token.joinPlain tokens = token :: more) (hc : token.category ≠ .plain) :
    ∃ rest, tokens = token :: rest := by
  cases tokens with
  | nil => exact absurd h (List.cons_ne_nil token more).symm
  | cons first rest =>
    rw [Token.joinPlain] at h
    cases hj : Token.joinPlain rest with
    | nil =>
      simp only [hj, List.cons.injEq] at h
      exact ⟨rest, by rw [h.1]⟩
    | cons next tail =>
      simp only [hj] at h
      -- Two tokens are joined into a plain one, if at all.
      split at h
      · exact absurd (congrArg Token.category (List.cons.inj h).1).symm hc
      · exact ⟨rest, by rw [(List.cons.inj h).1]⟩

/-- A span of a scanned text that is not plain is that of a token, which the text begins with at
the offset of the span. -/
theorem exists_token_of_mem_scan {span : Span} (h : span ∈ (r.scan t).base)
    (hc : span.category ≠ .plain) : ∃ a token b, Token.list r t = a ++ token :: b ∧
      Token.IsFirst r (t.drop (Token.extent a)) token ∧
      span = ⟨Token.extent a, (Token.extent a + token.length : Nat), token.category⟩ := by
  obtain ⟨x, token, y, hxy, rfl⟩ := Token.exists_append_of_mem_spansFrom h
  obtain ⟨a, tokens, hlist, rfl, hjoin⟩ := Token.exists_append_of_joinPlain hxy
  obtain ⟨b, rfl⟩ := exists_eq_cons_of_joinPlain hjoin hc
  refine ⟨a, token, b, hlist, ?_, ?_⟩
  · have hrest := Token.list_drop_extent hlist
    cases hs : t.drop (Token.extent a) with
    | nil =>
      rw [hs] at hrest
      exact absurd hrest.symm (List.cons_ne_nil token b)
    | cons c s =>
      rw [hs, Token.list_cons] at hrest
      exact (List.cons.inj hrest).1 ▸ Token.isFirst_first r c s
  · rw [Token.extent_joinPlain, Nat.zero_add]

/-- A string of a scanned text begins with the quote, where the quote is one character and no
backslash. It ends behind the least quote that has an even number of backslashes before it, counted
from the opening quote on. If there is none, it is the last span and ends with the text. -/
theorem scan_string {q : Character} (hr : r.stringQuote = some [q]) (hq : q ≠ '\\') {span : Span}
    (hspan : span ∈ (r.scan t).base) (hc : span.category = .string) :
    ∃ i j : Nat, span = ⟨i, j, .string⟩ ∧ t[i]? = some q ∧
      ((∃ close, IsLeast {k | t.ClosesString q i k} close ∧ j = close + 1) ∨
        (∀ k, ¬ t.ClosesString q i k) ∧ j = t.length ∧ (r.scan t).base.getLast? = some span) := by
  obtain ⟨a, token, b, hlist, hfirst, rfl⟩ :=
    exists_token_of_mem_scan hspan (hc ▸ Category.noConfusion)
  -- Of the ways in which a token can begin, only one makes a string.
  cases hfirst with
  | block | line | number | other => cases hc
  | word =>
    dsimp only at hc
    split at hc
    · cases hc
    · split at hc <;> cases hc
  | @string quote n _ _ hstarts hn =>
    obtain ⟨hquote, -, hopen⟩ := hstarts
    obtain rfl : quote = [q] := Option.some.inj (hquote.symm.trans hr)
    rw [Token.singleton_prefix_drop_iff] at hopen
    rw [List.drop_drop] at hn
    refine ⟨Token.extent a, _, rfl, hopen, ?_⟩
    rw [← Nat.add_assoc, List.length_singleton]
    refine (Token.closesString_of_closedAfter hq hn).imp_right fun ⟨hnone, hlength⟩ => ?_
    -- Nothing is left behind a string that nothing closes.
    have hlt : Token.extent a < t.length := (List.getElem?_eq_some_iff.mp hopen).1
    have hend : Token.extent a + (1 + n) = t.length := by
      rw [hlength, List.length_drop]
      omega
    refine ⟨hnone, (Nat.add_assoc _ _ _).trans hend, ?_⟩
    rw [getLast?_scan hlist (by simp) hend, Nat.add_assoc, hend]

/-- Two backslashes before a quote leave it to close a string, and a single one does not. -/
theorem scan_string_backslashes :
    let t : Text := "\"a\\\\\" \"b\\\""
    (⟨0, 5, .string⟩ ∈ (kotlinRules.scan t).base ∧ IsLeast {o | t.ClosesString '"' 0 o} 4) ∧
      ⟨6, 10, .string⟩ ∈ (kotlinRules.scan t).base ∧ ∀ o, ¬ t.ClosesString '"' 6 o := by
  intro t
  have hclosed : ⟨0, 5, .string⟩ ∈ (kotlinRules.scan t).base := by decide +kernel
  have hopen : ⟨6, 10, .string⟩ ∈ (kotlinRules.scan t).base := by decide +kernel
  refine ⟨⟨hclosed, ?_⟩, hopen, ?_⟩
  · -- The first span is closed by the quote behind two backslashes.
    obtain ⟨i, j, hspan, -, h⟩ := scan_string rfl (by decide) hclosed rfl
    obtain ⟨hi, hj, -⟩ := Span.mk.inj hspan
    obtain rfl : i = 0 := by omega
    rcases h with ⟨close, hleast, hclose⟩ | ⟨-, hend, -⟩
    · obtain rfl : close = 4 := by omega
      exact hleast
    · have : t.length = 10 := rfl
      omega
  · obtain ⟨i, j, hspan, -, h⟩ := scan_string rfl (by decide) hopen rfl
    obtain ⟨hi, hj, -⟩ := Span.mk.inj hspan
    obtain rfl : i = 6 := by omega
    rcases h with ⟨close, hleast, hclose⟩ | ⟨hnone, -⟩
    · -- The last character is a quote behind one backslash.
      obtain rfl : close = 9 := by omega
      exact absurd hleast.1.2.2 (by decide)
    · exact hnone

end RuleSet

end SourceEditor

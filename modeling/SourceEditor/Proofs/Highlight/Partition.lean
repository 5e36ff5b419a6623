import SourceEditor.Highlight.Composition
import SourceEditor.Proofs.Highlight.TokenList
import Mathlib.Logic.Relation

/-!
# The scanning loop

The scanner as a loop that adds one span after the other, or makes the last one longer. It ends, and
the spans that it leaves partition the text.

* `Scanner.step`: one turn of the loop.
* `Scanner.reaches_of_list_eq`: after some tokens, the loop has the spans of these tokens, joined.
* `RuleSet.tiles_scan`: the base spans lie side by side over the whole text.
* `RuleSet.scan_partition`: the loop ends with the spans of the scan, and these partition the text.
-/

namespace SourceEditor

/-- The state of the scanning loop. -/
structure Scanner where
  /-- The offset of the next token. -/
  offset : Nat
  /-- The spans of the tokens so far. -/
  spans : List Span
  deriving DecidableEq, Repr

namespace Scanner

/-- The loop begins at the beginning of the text, without spans. -/
def start : Scanner :=
  ⟨0, []⟩

/-- Adds a span. If it is plain and the last one is plain and ends where it begins, it takes the
place of the last one, together with it. -/
def append (spans : List Span) (new : Span) : List Span :=
  match spans.getLast? with
  | some last =>
    if last.category = .plain ∧ new.category = .plain ∧ last.stop = new.start then
      spans.dropLast ++ [⟨last.start, new.stop, .plain⟩]
    else spans ++ [new]
  | none => [new]

/-- One turn of the loop; at the end of the text there is none. -/
def step (r : RuleSet) (t : Text) (s : Scanner) : Option Scanner :=
  match t.drop s.offset with
  | [] => none
  | c :: rest =>
    let token := Token.first r c rest
    let stop := s.offset + token.length
    some ⟨stop, append s.spans ⟨s.offset, stop, token.category⟩⟩

/-- One turn leads from a state to another. -/
def Turn (r : RuleSet) (t : Text) (s s' : Scanner) : Prop :=
  step r t s = some s'

/-- Adding the span of a token to the spans of joined tokens is joining the token to them. -/
theorem append_spansFrom (offset : Nat) (tokens : List Token) (token : Token) :
    append (Token.spansFrom offset tokens)
        ⟨(offset + Token.extent tokens : Nat),
          (offset + Token.extent tokens + token.length : Nat), token.category⟩ =
      Token.spansFrom offset (Token.push tokens token) := by
  rcases List.eq_nil_or_concat tokens with rfl | ⟨tokens, last, rfl⟩
  · rfl
  · -- The last span ends where the new one begins, so that only the categories decide.
    rw [List.concat_eq_append, Token.spansFrom_append]
    simp only [append, Token.push, Token.spansFrom, List.getLast?_concat, List.dropLast_concat,
      Token.extent_append, Token.extent_cons, Token.extent_nil, Nat.add_zero, ← Nat.add_assoc]
    by_cases hplain : last.category = .plain ∧ token.category = .plain
    · rw [if_pos hplain, if_pos ⟨hplain.1, hplain.2, trivial⟩, Token.spansFrom_append]
      simp only [Token.spansFrom, Nat.add_assoc]
    · rw [if_neg hplain, if_neg fun h => hplain ⟨h.1, h.2.1⟩, Token.spansFrom_append,
        Token.spansFrom_append]
      simp only [Token.spansFrom, Token.extent_append, Token.extent_cons, Token.extent_nil,
        Nat.add_zero, Nat.add_assoc]

/-- A turn takes the next token: behind the tokens `a` it leads to the state behind one more. -/
theorem turn_of_list_eq {r : RuleSet} {t : Text} {a b : List Token} {token : Token}
    (h : Token.list r t = a ++ token :: b) :
    Turn r t ⟨Token.extent a, Token.spansFrom 0 (Token.joinPlain a)⟩
      ⟨Token.extent (a ++ [token]), Token.spansFrom 0 (Token.joinPlain (a ++ [token]))⟩ := by
  have hrest := Token.list_drop_extent h
  rw [Turn, step]
  dsimp only
  cases ht : t.drop (Token.extent a) with
  | nil =>
    rw [ht] at hrest
    exact absurd hrest.symm (List.cons_ne_nil token b)
  | cons c rest =>
    -- The token that the turn takes is the first of those that remain.
    rw [ht, Token.list_cons] at hrest
    obtain ⟨rfl, -⟩ := List.cons.inj hrest
    have happend := append_spansFrom 0 (Token.joinPlain a) (Token.first r c rest)
    rw [Token.extent_joinPlain, Nat.zero_add] at happend
    rw [Token.joinPlain_concat, ← happend, Token.extent_append, Token.extent_cons,
      Token.extent_nil, Nat.add_zero]

/-- The loop reaches the state behind any of the first tokens of a text: its offset is where they
end, and its spans are theirs, joined. -/
theorem reaches_of_list_eq {r : RuleSet} {t : Text} {a b : List Token}
    (h : Token.list r t = a ++ b) :
    Relation.ReflTransGen (Turn r t) start
      ⟨Token.extent a, Token.spansFrom 0 (Token.joinPlain a)⟩ := by
  -- The induction is on the turns taken, that is, on the tokens from the right.
  induction a using List.reverseRecOn generalizing b with
  | nil => exact .refl
  | append_singleton a token ih =>
    rw [List.append_assoc, List.singleton_append] at h
    exact .tail (ih h) (turn_of_list_eq h)

end Scanner

namespace RuleSet

/-- The base spans of a scanned text lie side by side over the whole text. -/
theorem tiles_scan (r : RuleSet) (t : Text) :
    Tiles 0 ((r.scan t).base.map Span.bounds) t.length := by
  have hpos := Token.length_pos_of_mem_joinPlain fun token ht =>
    Token.length_pos_of_mem_list (r := r) (t := t) ht
  have htiles := Token.tiles_spansFrom hpos 0
  rwa [Token.extent_joinPlain, Token.extent_list, Nat.zero_add] at htiles

/-- No two neighbouring base spans of a scanned text are both plain. -/
theorem isChain_scan (r : RuleSet) (t : Text) :
    (r.scan t).base.IsChain fun a b => ¬ (a.category = .plain ∧ b.category = .plain) := by
  have h : ((Token.joinPlain (Token.list r t)).map Token.category).IsChain fun a b =>
      ¬ Token.BothPlain a b := (List.isChain_map _).mpr (Token.isChain_joinPlain _)
  rw [← Token.map_category_spansFrom 0] at h
  exact (List.isChain_map _).mp h

/-- Whatever the marks of a rule set are, the scanning loop ends, and its spans, which are those of
the scanned text, partition the text: none is empty, the first begins at its beginning, each begins
where the one before ends, the last ends at its end, and no two neighbours are both plain. Nothing
is painted over them. -/
theorem scan_partition (rules : Option RuleSet) (t : Text) :
    let r := rules.getD kotlinRules
    (Relation.ReflTransGen (Scanner.Turn r t) Scanner.start ⟨t.length, (r.scan t).base⟩ ∧
      Scanner.step r t ⟨t.length, (r.scan t).base⟩ = none) ∧
    Tiles 0 ((r.scan t).base.map Span.bounds) t.length ∧
    ((r.scan t).base.IsChain fun a b => ¬ (a.category = .plain ∧ b.category = .plain)) ∧
    (r.scan t).layers = [] := by
  intro r
  refine ⟨⟨?_, ?_⟩, tiles_scan r t, isChain_scan r t, rfl⟩
  · have hreach := Scanner.reaches_of_list_eq (List.append_nil (Token.list r t)).symm
    rwa [Token.extent_list] at hreach
  · rw [Scanner.step]
    dsimp only
    rw [List.drop_length]

end RuleSet

end SourceEditor

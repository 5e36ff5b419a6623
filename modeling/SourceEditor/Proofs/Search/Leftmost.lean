import SourceEditor.Search.Pattern
import Mathlib.Order.Bounds.Basic
import Mathlib.Data.List.Forall2

/-!
# Leftmost matches

What it means to be the matches of a text from left to right without overlap, and where a query
stands in a text, both without a word on how they are found.

* `LeftmostMatches`: each match is the leftmost one behind the match before it.
* `Matcher.leftmostMatches_all`: these are the matches that a matcher finds.
* `Pattern.StandsAt`: the query stands at an offset of a text, as a whole word if that is asked for.
* `Pattern.leftmostMatches_allIn`: the matches of a pattern are the leftmost places of its query.
-/

namespace SourceEditor

/-- Matches from an offset on, each of them the leftmost one behind the one before it. `here i n`
says that a match of `n` characters begins at the offset `i`. -/
inductive LeftmostMatches (here : Nat → Nat → Prop) : Nat → List Match → Prop
  /-- Nothing matches any more. -/
  | done {low : Nat} (hnone : ∀ i n, low ≤ i → ¬ here i n) : LeftmostMatches here low []
  /-- The leftmost match, and then the matches behind it. -/
  | next {low i n : Nat} {rest : List Match}
      (hleast : IsLeast {i | low ≤ i ∧ ∃ n, here i n} i) (hn : here i n)
      (hrest : LeftmostMatches here (i + n) rest) :
      LeftmostMatches here low ((i, i + n) :: rest)

namespace LeftmostMatches

variable {here : Nat → Nat → Prop} {low : Nat} {l l' : List Match}

/-- There is only one way to match from left to right. -/
theorem unique (hfun : ∀ i m n, here i m → here i n → m = n) (h : LeftmostMatches here low l)
    (h' : LeftmostMatches here low l') : l = l' := by
  induction h generalizing l' with
  | done hnone =>
    cases h' with
    | done => rfl
    | next hleast hn => exact absurd hn (hnone _ _ hleast.1.1)
  | next hleast hn _ ih =>
    cases h' with
    | done hnone => exact absurd hn (hnone _ _ hleast.1.1)
    | next hleast' hn' hrest' =>
      obtain rfl := hleast.unique hleast'
      obtain rfl := hfun _ _ _ hn hn'
      rw [ih hrest']

/-- An offset without a match may be left out at the front. -/
theorem of_succ (hlow : ∀ n, ¬ here low n) (h : LeftmostMatches here (low + 1) l) :
    LeftmostMatches here low l := by
  -- A match from `low` on begins behind `low`.
  have hbehind {i n : Nat} (hi : low ≤ i) (hn : here i n) : low + 1 ≤ i :=
    Nat.lt_of_le_of_ne hi fun e => hlow n (e ▸ hn)
  cases h with
  | done hnone => exact .done fun i n hi hn => hnone i n (hbehind hi hn) hn
  | next hleast hn hrest =>
    refine .next ⟨⟨Nat.le_of_succ_le hleast.1.1, hleast.1.2⟩, ?_⟩ hn hrest
    rintro j ⟨hj, m, hm⟩
    exact hleast.2 ⟨hbehind hj hm, m, hm⟩

/-- Every match is one of what is matched. -/
theorem exists_of_mem (h : LeftmostMatches here low l) {m : Match} (hm : m ∈ l) :
    ∃ i n, m = (i, i + n) ∧ here i n := by
  induction h with
  | done => exact absurd hm List.not_mem_nil
  | next _ hn _ ih =>
    rcases List.mem_cons.mp hm with rfl | hm
    · exact ⟨_, _, rfl, hn⟩
    · exact ih hm

/-- Every match begins at or behind the offset. -/
theorem low_le_of_mem (h : LeftmostMatches here low l) : ∀ m ∈ l, low ≤ m.1 := by
  induction h with
  | done => simp
  | next hleast _ _ ih =>
    intro m hm
    rcases List.mem_cons.mp hm with rfl | hm
    · exact hleast.1.1
    · exact Nat.le_trans hleast.1.1 (Nat.le_trans (Nat.le_add_right _ _) (ih m hm))

/-- Every match ends before the next one begins. -/
theorem pairwise (h : LeftmostMatches here low l) : l.Pairwise fun a b => a.2 ≤ b.1 := by
  induction h with
  | done => exact .nil
  | next _ _ hrest ih => exact List.pairwise_cons.mpr ⟨hrest.low_le_of_mem, ih⟩

end LeftmostMatches

/-! ## What a matcher finds -/

namespace Matcher

/-- A matcher matches `n` characters at an offset of a text, the character before it in view. -/
def MatchesAt (m : Matcher) (t : Text) (i n : Nat) : Prop :=
  i < t.length ∧ 0 < n ∧ m (t.take i).getLast? (t.drop i) = some n

theorem MatchesAt.unique {m : Matcher} {t : Text} {i a b : Nat} (ha : m.MatchesAt t i a)
    (hb : m.MatchesAt t i b) : a = b :=
  Option.some.inj (ha.2.2.symm.trans hb.2.2)

/-- Behind some characters, a matcher matches where it matches in what follows them. -/
theorem matchesAt_append_cons {m : Matcher} {front rest : Text} {c : Character} {n : Nat} :
    m.MatchesAt (front ++ c :: rest) front.length n ↔
      0 < n ∧ m front.getLast? (c :: rest) = some n := by
  simp [MatchesAt]

/-- Going through a text finds its leftmost matches, once the first `skip` characters of what is
left belong to a match. -/
theorem leftmostMatches_allFrom (m : Matcher) (front rest : Text) (skip : Nat) :
    LeftmostMatches (m.MatchesAt (front ++ rest)) (front.length + skip)
      (allFrom m front.length skip front.getLast? rest) := by
  -- The induction is on what is left; one character goes over to the front at each step.
  induction rest generalizing front skip with
  | nil =>
    refine .done fun i n hi hn => ?_
    have := hn.1
    simp only [List.append_nil] at this
    omega
  | cons c rest ih =>
    have step (skip : Nat) := ih (front ++ [c]) skip
    simp only [List.append_assoc, List.singleton_append, List.length_append, List.length_singleton,
      List.getLast?_concat] at step
    cases skip with
    | succ skip =>
      rw [allFrom, Nat.add_comm skip, ← Nat.add_assoc]
      exact step skip
    | zero =>
      rw [allFrom]
      split
      · next n hn =>
        have hmatch := matchesAt_append_cons.mpr ⟨Nat.succ_pos n, hn⟩
        refine .next ⟨⟨Nat.le_refl _, _, hmatch⟩, fun j hj => hj.1⟩ hmatch ?_
        rw [Nat.add_comm n, ← Nat.add_assoc]
        exact step n
      · next hnone =>
        refine .of_succ (fun n hn => ?_) (step 0)
        obtain ⟨hpos, hn⟩ := matchesAt_append_cons.mp hn
        obtain ⟨k, rfl⟩ := Nat.exists_eq_add_one_of_ne_zero (Nat.ne_of_gt hpos)
        exact hnone k hn

/-- The matches that a matcher finds are the leftmost ones. -/
theorem leftmostMatches_all (m : Matcher) (t : Text) :
    LeftmostMatches (m.MatchesAt t) 0 (m.all t) :=
  leftmostMatches_allFrom m [] t 0

end Matcher

/-! ## Where a query stands -/

/-- Whether a word begins or ends at an offset of a text. -/
def Text.IsWordBoundary (t : Text) (i : Nat) : Prop :=
  Matcher.isWordBoundary (t.take i).getLast? t[i]? = true

namespace Pattern

variable {p : Pattern} {t : Text} {i n : Nat}

/-- The query of a pattern stands at an offset of a text, character by character; a whole word has a
word boundary at both its ends. -/
def StandsAt (p : Pattern) (t : Text) (i : Nat) : Prop :=
  List.Forall₂ (fun q c => p.same q c = true) p.query ((t.drop i).take p.query.length) ∧
    (p.wholeWord = true → t.IsWordBoundary i ∧ t.IsWordBoundary (i + p.query.length))

/-- The matches of a pattern: the query itself, where it stands. -/
def Occurs (p : Pattern) (t : Text) (i n : Nat) : Prop :=
  n = p.query.length ∧ p.StandsAt t i

/-- Agreeing is standing there, character by character. -/
theorem agrees_iff {same : Character → Character → Bool} {query t : Text} :
    Matcher.agrees same query t = true ↔
      List.Forall₂ (fun q c => same q c = true) query (t.take query.length) := by
  induction query generalizing t with
  | nil => simp [Matcher.agrees]
  | cons q query ih =>
    cases t with
    | nil => simp [Matcher.agrees]
    | cons c t => simp [Matcher.agrees, ih]

/-- Where characters agree one by one, there are as many of them. -/
theorem StandsAt.add_length_le (h : p.StandsAt t i) : i + p.query.length ≤ t.length := by
  have hlength := h.1.length_eq
  have hpos := List.length_pos_iff.mpr p.query_ne_nil
  rw [List.length_take, List.length_drop] at hlength
  omega

/-- A pattern matches just the places of its query. -/
theorem matchesAt_matcher : p.matcher.MatchesAt t i n ↔ p.Occurs t i n := by
  have hpos := List.length_pos_iff.mpr p.query_ne_nil
  -- What the matcher sees at both ends is what stands there in the whole text.
  have hmatch : p.matcher (t.take i).getLast? (t.drop i) = some n ↔ p.Occurs t i n := by
    simp only [matcher, Matcher.literal, Occurs, StandsAt, Text.IsWordBoundary, List.head?_drop,
      List.drop_drop, ← List.getLast?_append, ← List.take_add, ← agrees_iff,
      Option.ite_none_right_eq_some, Option.some.injEq, Bool.and_eq_true]
    rw [and_comm, eq_comm]
    cases p.wholeWord <;> simp
  constructor
  · exact fun h => hmatch.mp h.2.2
  · intro h
    have hle := h.2.add_length_le
    obtain rfl := h.1
    exact ⟨by omega, hpos, hmatch.mpr h⟩

theorem matchesAt_eq_occurs (p : Pattern) (t : Text) : p.matcher.MatchesAt t = p.Occurs t := by
  ext i n
  exact matchesAt_matcher

/-- The matches of a pattern are the leftmost places of its query. -/
theorem leftmostMatches_allIn (p : Pattern) (t : Text) :
    LeftmostMatches (p.Occurs t) 0 (p.allIn t) := by
  rw [← matchesAt_eq_occurs]
  exact p.matcher.leftmostMatches_all t

end Pattern

end SourceEditor

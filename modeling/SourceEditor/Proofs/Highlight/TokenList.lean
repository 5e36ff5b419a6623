import SourceEditor.Proofs.Highlight.FirstToken
import SourceEditor.Proofs.Style.Tiling
import Mathlib.Data.List.Chain

/-!
# Lists of tokens

The tokens of a text one after the other, where they lie, and what joining plain neighbours does to
them.

* `Token.list_cons`: the tokens of a text are its first token and the tokens of the rest.
* `Token.tiles_spansFrom`: tokens that are not empty lie side by side.
* `Token.joinPlain_concat`: joining can be done from the left, one token at a time.
* `Token.exists_append_of_joinPlain`: where joined tokens can be cut, the tokens themselves can.
-/

namespace SourceEditor.Token

/-! ## The tokens of a text -/

theorem listFrom_eq (r : RuleSet) (skip : Nat) (t : Text) :
    listFrom r skip t = list r (t.drop skip) := by
  induction t generalizing skip with
  | nil => rw [List.drop_nil]; rfl
  | cons c t ih =>
    cases skip with
    | zero => rfl
    | succ skip => rw [List.drop_succ_cons, ← ih, listFrom]

/-- The tokens of a text are its first token and the tokens of what follows it. -/
theorem list_cons (r : RuleSet) (c : Character) (t : Text) :
    list r (c :: t) = first r c t :: list r ((c :: t).drop (first r c t).length) := by
  -- The first character is taken with the token, and the others are skipped.
  obtain ⟨n, hn⟩ := Nat.exists_eq_add_of_lt (isFirst_first r c t).length_pos
  rw [Nat.zero_add] at hn
  change first r c t :: listFrom r ((first r c t).length - 1) t = _
  rw [listFrom_eq, hn, Nat.add_sub_cancel, List.drop_succ_cons]

/-- What holds of the empty text, and of a text if it holds of what follows its first token, holds
of every text. -/
theorem tokenwise_induction (r : RuleSet) {P : Text → Prop} (nil : P [])
    (step : ∀ c t, P ((c :: t).drop (first r c t).length) → P (c :: t)) (t : Text) : P t := by
  -- The text behind the first token is shorter, because the token is not empty.
  induction hn : t.length using Nat.strongRecOn generalizing t with
  | _ n ih =>
    cases t with
    | nil => exact nil
    | cons c t =>
      have hpos := (isFirst_first r c t).length_pos
      refine step c t (ih _ ?_ _ rfl)
      rw [← hn, List.length_drop, List.length_cons]
      omega

/-- The tokens of a text are not empty. -/
theorem length_pos_of_mem_list {r : RuleSet} {t : Text} {token : Token} (h : token ∈ list r t) :
    0 < token.length := by
  induction t using tokenwise_induction r with
  | nil => exact absurd h List.not_mem_nil
  | step c t ih =>
    rw [list_cons] at h
    rcases List.mem_cons.mp h with rfl | h
    · exact (isFirst_first r c t).length_pos
    · exact ih h

/-- The number of characters of some tokens. -/
def extent : List Token → Nat
  | [] => 0
  | token :: tokens => token.length + extent tokens

@[simp]
theorem extent_nil : extent [] = 0 := rfl

@[simp]
theorem extent_cons (token : Token) (tokens : List Token) :
    extent (token :: tokens) = token.length + extent tokens := rfl

@[simp]
theorem extent_append (a b : List Token) : extent (a ++ b) = extent a + extent b := by
  induction a with
  | nil => rw [List.nil_append, extent_nil, Nat.zero_add]
  | cons token a ih => rw [List.cons_append, extent_cons, extent_cons, ih, Nat.add_assoc]

/-- The tokens of a text take up all its characters. -/
theorem extent_list (r : RuleSet) (t : Text) : extent (list r t) = t.length := by
  induction t using tokenwise_induction r with
  | nil => rfl
  | step c t ih =>
    have hle := (isFirst_first r c t).length_le
    rw [list_cons, extent_cons, ih, List.length_drop]
    omega

/-- Behind some of its first tokens, a text has the tokens of the characters that remain. -/
theorem list_drop_extent {r : RuleSet} {t : Text} {a b : List Token} (h : list r t = a ++ b) :
    list r (t.drop (extent a)) = b := by
  induction a generalizing t with
  | nil => exact h
  | cons token a ih =>
    cases t with
    | nil => exact absurd h (by simp [list, listFrom])
    | cons c t =>
      rw [list_cons, List.cons_append, List.cons.injEq] at h
      obtain ⟨rfl, h⟩ := h
      rw [extent_cons, ← List.drop_drop]
      exact ih h

/-! ## Where tokens lie -/

@[simp]
theorem spansFrom_append (offset : Nat) (a b : List Token) :
    spansFrom offset (a ++ b) = spansFrom offset a ++ spansFrom (offset + extent a) b := by
  induction a generalizing offset with
  | nil => rfl
  | cons token a ih =>
    rw [List.cons_append, spansFrom, ih, spansFrom, extent_cons, Nat.add_assoc, List.cons_append]

/-- Spans have the categories of their tokens. -/
theorem map_category_spansFrom (offset : Nat) (tokens : List Token) :
    (spansFrom offset tokens).map Span.category = tokens.map Token.category := by
  induction tokens generalizing offset with
  | nil => rfl
  | cons token tokens ih => rw [spansFrom, List.map_cons, ih, List.map_cons]

/-- Tokens that are not empty lie side by side. -/
theorem tiles_spansFrom {tokens : List Token} (h : ∀ token ∈ tokens, 0 < token.length)
    (offset : Nat) : Tiles offset ((spansFrom offset tokens).map Span.bounds)
      (offset + extent tokens : Nat) := by
  induction tokens generalizing offset with
  | nil => exact rfl
  | cons token tokens ih =>
    have hpos := h token List.mem_cons_self
    refine ⟨rfl, by change (offset : Int) < (offset + token.length : Nat); omega, ?_⟩
    rw [extent_cons, ← Nat.add_assoc]
    exact ih (fun later hl => h later (List.mem_cons_of_mem token hl)) _

/-- A span of some tokens is that of one of them, and the tokens before it say where it begins. -/
theorem exists_append_of_mem_spansFrom {offset : Nat} {tokens : List Token} {span : Span}
    (h : span ∈ spansFrom offset tokens) : ∃ a token b, tokens = a ++ token :: b ∧
      span = ⟨(offset + extent a : Nat), (offset + extent a + token.length : Nat),
        token.category⟩ := by
  induction tokens generalizing offset with
  | nil => exact absurd h List.not_mem_nil
  | cons token tokens ih =>
    rcases List.mem_cons.mp h with rfl | h
    · exact ⟨[], token, tokens, rfl, rfl⟩
    · obtain ⟨a, later, b, rfl, rfl⟩ := ih h
      refine ⟨token :: a, later, b, rfl, ?_⟩
      rw [extent_cons, Nat.add_assoc offset]

/-! ## Joining plain tokens -/

/-- Both of two categories are plain. -/
def BothPlain (a b : Category) : Prop :=
  a = .plain ∧ b = .plain

/-- Joining keeps the number of characters. -/
theorem extent_joinPlain (tokens : List Token) : extent (joinPlain tokens) = extent tokens := by
  induction tokens with
  | nil => rfl
  | cons token tokens ih =>
    rw [joinPlain, extent_cons, ← ih]
    cases joinPlain tokens with
    | nil => rfl
    | cons next more =>
      dsimp only
      split
      · simp only [extent_cons, Nat.add_assoc]
      · rw [extent_cons]

/-- Joining tokens that are not empty gives tokens that are not empty. -/
theorem length_pos_of_mem_joinPlain {tokens : List Token} (h : ∀ token ∈ tokens, 0 < token.length) :
    ∀ token ∈ joinPlain tokens, 0 < token.length := by
  induction tokens with
  | nil => exact h
  | cons first tokens ih =>
    have hfirst := h first List.mem_cons_self
    have hrest := ih fun token ht => h token (List.mem_cons_of_mem first ht)
    rw [joinPlain]
    cases hj : joinPlain tokens with
    | nil =>
      intro token ht
      exact List.mem_singleton.mp ht ▸ hfirst
    | cons next more =>
      rw [hj] at hrest
      dsimp only
      split
      · intro token ht
        rcases List.mem_cons.mp ht with rfl | ht
        · exact Nat.add_pos_left hfirst next.length
        · exact hrest token (List.mem_cons_of_mem next ht)
      · intro token ht
        rcases List.mem_cons.mp ht with rfl | ht
        · exact hfirst
        · exact hrest token ht

/-- Joining leaves no plain neighbours. -/
theorem isChain_joinPlain (tokens : List Token) :
    (joinPlain tokens).IsChain fun a b => ¬ BothPlain a.category b.category := by
  induction tokens with
  | nil => exact List.IsChain.nil
  | cons token tokens ih =>
    rw [joinPlain]
    cases hj : joinPlain tokens with
    | nil => exact List.IsChain.singleton token
    | cons next more =>
      rw [hj] at ih
      dsimp only
      split
      · next hplain =>
        -- The joined token is plain like the one it takes in, and so has the same neighbour.
        obtain ⟨hnext, hmore⟩ := List.isChain_cons.mp ih
        exact List.isChain_cons.mpr ⟨fun later hl => hplain.2 ▸ hnext later hl, hmore⟩
      · next hplain => exact List.isChain_cons_cons.mpr ⟨hplain, ih⟩

/-- The first of joined tokens has the category of the first token. -/
theorem exists_joinPlain_cons (token : Token) (tokens : List Token) :
    ∃ n more, joinPlain (token :: tokens) = ⟨n, token.category⟩ :: more := by
  rw [joinPlain]
  cases joinPlain tokens with
  | nil => exact ⟨token.length, [], rfl⟩
  | cons next more =>
    dsimp only
    split
    · next hplain => exact ⟨token.length + next.length, more, by rw [hplain.1]⟩
    · exact ⟨token.length, next :: more, rfl⟩

/-- One more token behind joined ones: a plain one makes a plain last one longer. -/
def push (tokens : List Token) (token : Token) : List Token :=
  match tokens.getLast? with
  | some last =>
    if last.category = .plain ∧ token.category = .plain then
      tokens.dropLast ++ [⟨last.length + token.length, .plain⟩]
    else tokens ++ [token]
  | none => [token]

theorem push_singleton (last token : Token) :
    push [last] token = if last.category = .plain ∧ token.category = .plain then
      [⟨last.length + token.length, .plain⟩] else [last, token] := rfl

theorem push_cons_cons (a b : Token) (tokens : List Token) (token : Token) :
    push (a :: b :: tokens) token = a :: push (b :: tokens) token := by
  rw [push, push, List.getLast?_cons_cons,
    List.getLast?_eq_some_getLast (List.cons_ne_nil b tokens)]
  dsimp only
  split
  · rw [List.dropLast_cons_cons, List.cons_append]
  · rw [List.cons_append]

theorem push_of_ne_plain (tokens : List Token) {token : Token} (h : token.category ≠ .plain) :
    push tokens token = tokens ++ [token] := by
  rcases List.eq_nil_or_concat tokens with rfl | ⟨tokens, last, rfl⟩
  · rfl
  · rw [push, List.concat_eq_append, List.getLast?_concat]
    exact if_neg fun hplain => h hplain.2

/-- Joining can be done from the left, one token at a time. -/
theorem joinPlain_concat (tokens : List Token) (token : Token) :
    joinPlain (tokens ++ [token]) = push (joinPlain tokens) token := by
  induction tokens with
  | nil => rfl
  | cons first tokens ih =>
    -- Joining at the front and pushing at the back meet only where one token is between them.
    rw [List.cons_append, joinPlain, joinPlain, ih]
    match joinPlain tokens with
    | [] => simp only [push, List.getLast?_nil, List.getLast?_singleton]; rfl
    | [next] =>
      rw [push_singleton]
      by_cases hf : first.category = .plain <;> by_cases hn : next.category = .plain <;>
        by_cases ht : token.category = .plain <;>
        simp [hf, hn, ht, push_singleton, push_cons_cons, Nat.add_assoc]
    | next :: second :: more =>
      rw [push_cons_cons]
      dsimp only
      split <;> rw [push_cons_cons]
      rw [push_cons_cons]

/-- Wherever joined tokens can be cut, the tokens themselves can be cut into parts that join to
theirs. -/
theorem exists_append_of_joinPlain {tokens x y : List Token} (h : joinPlain tokens = x ++ y) :
    ∃ a b, tokens = a ++ b ∧ joinPlain a = x ∧ joinPlain b = y := by
  induction tokens generalizing x with
  | nil =>
    obtain ⟨rfl, rfl⟩ := List.nil_eq_append_iff.mp h
    exact ⟨[], [], rfl, rfl, rfl⟩
  | cons first tokens ih =>
    cases x with
    | nil => exact ⟨[], first :: tokens, rfl, rfl, h⟩
    | cons head x =>
      rw [joinPlain] at h
      cases hj : joinPlain tokens with
      | nil =>
        simp only [hj, List.cons_append, List.cons.injEq, List.nil_eq_append_iff] at h
        obtain ⟨rfl, rfl, rfl⟩ := h
        exact ⟨[first], tokens, rfl, rfl, hj⟩
      | cons next more =>
        simp only [hj] at h
        split at h
        · next hplain =>
          -- The first token is joined to the head of the rest, which is cut behind that head.
          rw [List.cons_append, List.cons.injEq] at h
          obtain ⟨rfl, rfl⟩ := h
          obtain ⟨a, b, rfl, ha, hb⟩ := ih (x := next :: x) hj
          exact ⟨first :: a, b, rfl, by rw [joinPlain, ha]; exact if_pos hplain, hb⟩
        · next hplain =>
          rw [List.cons_append, List.cons.injEq] at h
          obtain ⟨rfl, h⟩ := h
          obtain ⟨a, b, rfl, ha, hb⟩ := ih (hj.trans h)
          refine ⟨first :: a, b, rfl, ?_, hb⟩
          rw [joinPlain, ha]
          cases x with
          | nil => rfl
          | cons second x =>
            rw [List.cons_append, List.cons.injEq] at h
            exact if_neg (h.1 ▸ hplain)

end SourceEditor.Token

import SourceEditor.Proofs.Highlight.Partition
import Mathlib.Data.List.SplitBy

/-!
# The scan as a tokenization

The base spans of a scanned text, described without the scanner: each token is what the first kind
that applies says, and neighbouring plain tokens are taken together.

* `RuleSet.Tokenization`: the spans of the tokens of a text, one after the other.
* `mergePlain`: neighbouring plain spans taken together.
* `RuleSet.scan_tokenization`: a text has one tokenization, and the scan is this one with plain
  neighbours taken together. A block comment or a string without an end is its last span.
-/

namespace SourceEditor

/-! ## Taking plain spans together -/

/-- Both of two spans are plain. -/
def bothPlain (a b : Span) : Bool :=
  a.category == .plain && b.category == .plain

/-- The span from the beginning of the first of some spans to the end of the last. -/
def hull (spans : List Span) : Option Span := do
  let first ← spans.head?
  let last ← spans.getLast?
  return ⟨first.start, last.stop, first.category⟩

/-- Neighbouring plain spans taken together. -/
def mergePlain (spans : List Span) : List Span :=
  (spans.splitBy bothPlain).filterMap hull

/-- An element that belongs together with the next one belongs to the group of the next one. -/
theorem splitBy_cons_of_rel {α : Type} {r : α → α → Bool} {a b : α} {l : List α}
    (h : r a b = true) : ∃ g gs, (b :: l).splitBy r = (b :: g) :: gs ∧
      (a :: b :: l).splitBy r = (a :: b :: g) :: gs := by
  cases hs : (b :: l).splitBy r with
  | nil => exact absurd (List.splitBy_eq_nil.mp hs) (List.cons_ne_nil b l)
  | cons g gs =>
    obtain ⟨hflat, hnil, hchain, hends⟩ := List.splitBy_eq_iff.mp hs
    rw [List.flatten_cons] at hflat
    cases g with
    | nil => exact absurd List.mem_cons_self hnil
    | cons first g =>
      obtain rfl := (List.cons.inj hflat).1
      refine ⟨g, gs, rfl, List.splitBy_eq_iff.mpr ⟨?_, ?_, ?_, ?_⟩⟩
      · exact congrArg (List.cons a) hflat
      · intro hmem
        rcases List.mem_cons.mp hmem with hmem | hmem
        · exact absurd hmem.symm (List.cons_ne_nil a _)
        · exact hnil (List.mem_cons_of_mem _ hmem)
      · intro m hm
        rcases List.mem_cons.mp hm with rfl | hm
        · exact List.isChain_cons_cons.mpr ⟨h, hchain _ List.mem_cons_self⟩
        · exact hchain m (List.mem_cons_of_mem _ hm)
      · -- The last element of the group stays the same, and so does what it has to do with the
        -- next group.
        obtain ⟨hnext, hgs⟩ := List.isChain_cons.mp hends
        refine List.isChain_cons.mpr ⟨fun next hn => ?_, hgs⟩
        obtain ⟨_, hne, hlast⟩ := hnext next hn
        exact ⟨List.cons_ne_nil a _, hne, by rwa [List.getLast_cons_cons]⟩

/-- A plain span takes in the first of the merged spans behind it if the next span is plain. -/
theorem mergePlain_cons_of_bothPlain {a b : Span} (spans : List Span) (h : bothPlain a b = true) :
    ∃ stop more, mergePlain (b :: spans) = ⟨b.start, stop, .plain⟩ :: more ∧
      mergePlain (a :: b :: spans) = ⟨a.start, stop, .plain⟩ :: more := by
  obtain ⟨g, gs, hb, ha⟩ := splitBy_cons_of_rel (l := spans) h
  obtain ⟨haplain, hbplain⟩ : a.category = .plain ∧ b.category = .plain := by
    simpa [bothPlain] using h
  refine ⟨((b :: g).getLast (List.cons_ne_nil b g)).stop, gs.filterMap hull, ?_, ?_⟩
  -- The group of `b` and the same group with `a` in front end with the same span.
  · rw [mergePlain, hb, List.filterMap_cons_some]
    rw [hull, List.getLast?_eq_some_getLast (List.cons_ne_nil b g), ← hbplain]
    rfl
  · rw [mergePlain, ha, List.filterMap_cons_some]
    rw [hull, List.getLast?_cons_cons, List.getLast?_eq_some_getLast (List.cons_ne_nil b g),
      ← haplain]
    rfl

/-- A span stays as it is if it and the next one are not both plain. -/
theorem mergePlain_cons_of_not_bothPlain {a b : Span} {spans : List Span}
    (h : bothPlain a b = false) : mergePlain (a :: b :: spans) = a :: mergePlain (b :: spans) := by
  have hsplit : ([a] ++ b :: spans).splitBy bothPlain =
      [a].splitBy bothPlain ++ (b :: spans).splitBy bothPlain :=
    List.splitBy_append_cons spans (by simpa using h)
  rw [List.singleton_append] at hsplit
  rw [mergePlain, hsplit]
  rfl

/-- Taking plain spans together is joining the plain tokens that they are the spans of. -/
theorem mergePlain_spansFrom (offset : Nat) (tokens : List Token) :
    mergePlain (Token.spansFrom offset tokens) =
      Token.spansFrom offset (Token.joinPlain tokens) := by
  induction tokens generalizing offset with
  | nil => rfl
  | cons token tokens ih =>
    cases tokens with
    | nil => rfl
    | cons next tokens =>
      have ih := ih (offset + token.length)
      obtain ⟨n, more, hjoin⟩ := Token.exists_joinPlain_cons next tokens
      rw [hjoin] at ih
      rw [Token.joinPlain, hjoin]
      dsimp only
      -- The spans behind the first token begin with one of the category of the next token.
      split
      · next hplain =>
        obtain ⟨stop, spans, hnext, htoken⟩ := mergePlain_cons_of_bothPlain
          (a := ⟨offset, (offset + token.length : Nat), token.category⟩)
          (b := ⟨(offset + token.length : Nat), (offset + token.length + next.length : Nat),
            next.category⟩)
          (Token.spansFrom (offset + token.length + next.length) tokens)
          (by simp [bothPlain, hplain])
        rw [Token.spansFrom, Token.spansFrom, htoken]
        rw [Token.spansFrom, hnext, Token.spansFrom] at ih
        obtain ⟨hhead, rfl⟩ := List.cons.inj ih
        rw [Token.spansFrom, ← Nat.add_assoc, (Span.mk.inj hhead).2.1]
      · next hplain =>
        rw [Token.spansFrom, Token.spansFrom, mergePlain_cons_of_not_bothPlain, Token.spansFrom,
          ← ih, Token.spansFrom]
        simpa [bothPlain] using hplain

namespace RuleSet

/-! ## The tokens one after the other -/

/-- The spans of the tokens of a text from an offset on: the token there, and those behind it, until
the end of the text is reached. -/
inductive Tokenization (r : RuleSet) (t : Text) : Nat → List Span → Prop
  /-- No token is at the end of the text. -/
  | done : Tokenization r t t.length []
  /-- A token at an offset is followed by those from its end on. -/
  | token {i : Nat} {token : Token} {spans : List Span} (h : Token.IsFirst r (t.drop i) token)
      (hrest : Tokenization r t (i + token.length) spans) :
      Tokenization r t i (⟨i, (i + token.length : Nat), token.category⟩ :: spans)

variable {r : RuleSet} {t : Text}

/-- From every offset, there is the tokenization that the scanner finds. -/
theorem tokenization_list {i : Nat} (hi : i ≤ t.length) :
    Tokenization r t i (Token.spansFrom i (Token.list r (t.drop i))) := by
  -- The induction is on what is left of the text, one token at a time.
  induction hs : t.drop i using Token.tokenwise_induction r generalizing i with
  | nil =>
    rw [le_antisymm hi (List.drop_eq_nil_iff.mp hs)]
    exact .done
  | step c s ih =>
    have hfirst := Token.isFirst_first r c s
    have hle := hfirst.length_le
    have hlen := congrArg List.length hs
    rw [List.length_drop] at hlen
    rw [Token.list_cons]
    refine .token (hs ▸ hfirst) (ih (by omega) ?_)
    rw [← hs, List.drop_drop]

/-- There is no other. -/
theorem Tokenization.eq_spansFrom {i : Nat} {spans : List Span} (h : Tokenization r t i spans) :
    spans = Token.spansFrom i (Token.list r (t.drop i)) := by
  induction h with
  | done => rw [List.drop_length]; rfl
  | @token i token spans h _ ih =>
    cases hs : t.drop i with
    | nil => exact absurd (hs ▸ h) Token.not_isFirst_nil
    | cons c s =>
      rw [hs] at h
      obtain rfl := h.eq_first
      rw [Token.list_cons, Token.spansFrom, ← hs, List.drop_drop, ← ih]

/-! ## Tokens without an end -/

/-- A text begins with a block comment or a string that nothing closes, of this category. -/
inductive Unclosed (r : RuleSet) (s : Text) : Category → Prop
  /-- No closing mark stands behind the opening mark of a block comment. -/
  | block {opening closing : Text} (h : r.StartsBlock opening closing s)
      (hn : ∀ k, ¬ closing <+: (s.drop opening.length).drop k) : Unclosed r s .comment
  /-- No quote is read behind the opening quote of a string. -/
  | string {quote : Text} (hb : ∀ opening closing, ¬ r.StartsBlock opening closing s)
      (hl : ∀ mark, ¬ r.StartsLine mark s) (h : r.StartsString quote s)
      (hn : ∀ k, Token.IsRead quote (s.drop quote.length) k →
        ¬ quote <+: (s.drop quote.length).drop k) : Unclosed r s .string

/-- What nothing closes is a token that takes up the whole text. -/
theorem Unclosed.isFirst {s : Text} {category : Category} (h : Unclosed r s category) :
    Token.IsFirst r s ⟨s.length, category⟩ := by
  cases h with
  | block h hn =>
    have htoken := Token.IsFirst.block h (Or.inr ⟨fun k _ => hn k, rfl⟩)
    rwa [List.length_drop, Nat.add_sub_cancel' h.2.2.2.length_le] at htoken
  | string hb hl h hn =>
    have htoken := Token.IsFirst.string hb hl h (Or.inr ⟨hn, rfl⟩)
    rwa [List.length_drop, Nat.add_sub_cancel' h.2.2.length_le] at htoken

/-- What nothing closes is not plain. -/
theorem Unclosed.ne_plain {s : Text} {category : Category} (h : Unclosed r s category) :
    category ≠ .plain := by
  cases h <;> exact Category.noConfusion

/-- A token that is not plain and ends with the text is the last span of the scan. -/
theorem getLast?_scan {a b : List Token} {token : Token} (h : Token.list r t = a ++ token :: b)
    (hc : token.category ≠ .plain) (hend : Token.extent a + token.length = t.length) :
    (r.scan t).base.getLast? = some ⟨Token.extent a, t.length, token.category⟩ := by
  have hb : b = [] := by
    rw [List.append_cons] at h
    rw [← Token.list_drop_extent h, Token.extent_append, Token.extent_cons, Token.extent_nil,
      Nat.add_zero, hend, List.drop_length]
    rfl
  subst hb
  show (Token.spansFrom 0 (Token.joinPlain (Token.list r t))).getLast? = _
  rw [h, Token.joinPlain_concat, Token.push_of_ne_plain _ hc, Token.spansFrom_append,
    Token.extent_joinPlain, Nat.zero_add]
  rw [Token.spansFrom, Token.spansFrom, List.getLast?_concat, hend]

/-- Whatever the marks of a rule set are, a text has exactly one tokenization, and the scanned text
has its spans, with plain neighbours taken together. In particular, a block comment or a string that
nothing closes is the last span and ends with the text. -/
theorem scan_tokenization (r : RuleSet) (t : Text) :
    ∃ tokens, (∀ spans, Tokenization r t 0 spans ↔ spans = tokens) ∧
      (r.scan t).base = mergePlain tokens ∧
      ∀ token ∈ tokens, ∀ category, Unclosed r (t.drop token.start.toNat) category →
        (r.scan t).base.getLast? = some ⟨token.start, t.length, category⟩ := by
  refine ⟨Token.spansFrom 0 (Token.list r t), fun spans => ⟨fun h => ?_, ?_⟩, ?_, ?_⟩
  · rw [h.eq_spansFrom, List.drop_zero]
  · rintro rfl
    exact tokenization_list (Nat.zero_le _)
  · rw [mergePlain_spansFrom]
    rfl
  · intro span hspan category hopen
    obtain ⟨a, token, b, htokens, rfl⟩ := Token.exists_append_of_mem_spansFrom hspan
    have hrest := Token.list_drop_extent htokens
    rw [Nat.zero_add] at hopen ⊢
    change Unclosed r (t.drop (Token.extent a)) category at hopen
    cases hs : t.drop (Token.extent a) with
    | nil => exact absurd (hs ▸ hopen.isFirst) Token.not_isFirst_nil
    | cons c s =>
      -- The token there is the one that nothing closes, and so no other token follows it.
      have hfirst := (hs ▸ hopen.isFirst).eq_first
      rw [hs, Token.list_cons, ← hfirst] at hrest
      obtain ⟨rfl, -⟩ := List.cons.inj hrest
      refine getLast?_scan htokens hopen.ne_plain ?_
      show Token.extent a + (c :: s).length = t.length
      have hlen := congrArg List.length hs
      rw [List.length_drop, List.length_cons] at hlen
      rw [List.length_cons]
      omega

/-- A block comment that a small text leaves open. -/
theorem scan_tokenization_open_comment :
    (kotlinRules.scan "a/*").base.getLast? = some ⟨1, 3, .comment⟩ := by
  obtain ⟨tokens, hunique, -, hopen⟩ := scan_tokenization kotlinRules "a/*"
  have htokens := (hunique _).mp (tokenization_list (Nat.zero_le _))
  have hmem : (⟨1, 3, .comment⟩ : Span) ∈ tokens := by
    rw [← htokens]
    decide +kernel
  have hstarts : kotlinRules.StartsBlock "/*" "*/" "/*" :=
    ⟨rfl, List.cons_ne_nil _ _, List.cons_ne_nil _ _, List.prefix_refl _⟩
  exact hopen _ hmem _ (.block hstarts fun k => Token.not_prefix_drop_nil (List.cons_ne_nil _ _) k)

end RuleSet

end SourceEditor

import SourceEditor.Proofs.Highlight.TokenEnd

/-!
# The token at the beginning of a text

The kinds of tokens in the order in which they are tried, each with its end.

* `Token.IsFirst`: what the token at the beginning of a text is.
* `Token.isFirst_first`, `Token.IsFirst.eq_first`: the scanner's first token is this one, and no
  other.
* `Token.IsFirst.length_pos`, `Token.IsFirst.length_le`: it has a character, and ends with the text
  at the latest.
-/

namespace SourceEditor

namespace RuleSet

/-- A block comment with these marks begins a text. -/
def StartsBlock (r : RuleSet) (opening closing s : Text) : Prop :=
  r.blockComment = some (opening, closing) ∧ opening ≠ [] ∧ closing ≠ [] ∧ opening <+: s

/-- A line comment with this mark begins a text. -/
def StartsLine (r : RuleSet) (mark s : Text) : Prop :=
  r.lineComment = some mark ∧ mark ≠ [] ∧ mark <+: s

/-- A string with this quote begins a text. -/
def StartsString (r : RuleSet) (quote s : Text) : Prop :=
  r.stringQuote = some quote ∧ quote ≠ [] ∧ quote <+: s

/-- No mark of a comment or a string begins a text. -/
structure Unmarked (r : RuleSet) (s : Text) : Prop where
  /-- No block comment begins. -/
  not_block : ∀ opening closing, ¬ r.StartsBlock opening closing s
  /-- No line comment begins. -/
  not_line : ∀ mark, ¬ r.StartsLine mark s
  /-- No string begins. -/
  not_string : ∀ quote, ¬ r.StartsString quote s

end RuleSet

namespace Token

/-- The characters that continue a number. -/
def continuesNumber (c : Character) : Bool :=
  Character.isDigit c || c == '.'

/-- The token at the beginning of a text, decided by the first kind that applies. -/
inductive IsFirst (r : RuleSet) (s : Text) : Token → Prop
  /-- A block comment goes through the leftmost closing mark behind its opening mark, or to the end
  of the text. -/
  | block {opening closing : Text} {n : Nat} (h : r.StartsBlock opening closing s)
      (hn : ClosedAfter (fun _ => True) closing (s.drop opening.length) n) :
      IsFirst r s ⟨opening.length + n, .comment⟩
  /-- A line comment goes up to the leftmost line break or the end of the text, but has a character
  even if its mark begins with the line break. -/
  | line {mark : Text} {k : Nat} (hb : ∀ opening closing, ¬ r.StartsBlock opening closing s)
      (h : r.StartsLine mark s) (hk : IsLineEnd s k) : IsFirst r s ⟨max 1 k, .comment⟩
  /-- A string goes through the first quote that is read behind its opening quote, or to the end of
  the text. -/
  | string {quote : Text} {n : Nat} (hb : ∀ opening closing, ¬ r.StartsBlock opening closing s)
      (hl : ∀ mark, ¬ r.StartsLine mark s) (h : r.StartsString quote s)
      (hn : ClosedAfter (IsRead quote (s.drop quote.length)) quote (s.drop quote.length) n) :
      IsFirst r s ⟨quote.length + n, .string⟩
  /-- A number begins with a digit and is the longest run of digits and points. -/
  | number {c : Character} {n : Nat} (hm : r.Unmarked s) (hc : s.head? = some c)
      (hd : Character.isDigit c = true) (hn : IsRun continuesNumber s n) : IsFirst r s ⟨n, .number⟩
  /-- A word begins with a letter or an underscore and is the longest run of letters, numbers and
  underscores. It may be a keyword, or else a name of a type. -/
  | word {c : Character} {n : Nat} (hm : r.Unmarked s) (hc : s.head? = some c)
      (hd : Character.isDigit c = false) (hw : Character.startsIdentifier c = true)
      (hn : IsRun Character.isWord s n) :
      IsFirst r s ⟨n, if s.take n ∈ r.keywords then .keyword else
        if s.take n ∈ r.types then .type else .plain⟩
  /-- Any other character is a plain token. -/
  | other {c : Character} (hm : r.Unmarked s) (hc : s.head? = some c)
      (hd : Character.isDigit c = false) (hw : Character.startsIdentifier c = false) :
      IsFirst r s ⟨1, .plain⟩

/-! ## The scanner tries the kinds in order -/

/-- The marks of a block comment count if neither is empty. -/
theorem blockMarks?_eq_some_iff {r : RuleSet} {opening closing : Text} :
    r.blockMarks? = some (opening, closing) ↔
      r.blockComment = some (opening, closing) ∧ opening ≠ [] ∧ closing ≠ [] := by
  simp [RuleSet.blockMarks?, Option.filter_eq_some_iff]

/-- So does the mark of a line comment. -/
theorem lineMark?_eq_some_iff {r : RuleSet} {mark : Text} :
    r.lineMark? = some mark ↔ r.lineComment = some mark ∧ mark ≠ [] := by
  simp [RuleSet.lineMark?, Option.filter_eq_some_iff]

/-- So does the quote of a string. -/
theorem quoteMark?_eq_some_iff {r : RuleSet} {quote : Text} :
    r.quoteMark? = some quote ↔ r.stringQuote = some quote ∧ quote ≠ [] := by
  simp [RuleSet.quoteMark?, Option.filter_eq_some_iff]

section Kinds

variable {r : RuleSet} {c : Character} {s : Text}

/-- A block comment goes up to its closing mark, or to the end. -/
theorem first_of_startsBlock {opening closing : Text} (h : r.StartsBlock opening closing (c :: s)) :
    first r c s = ⟨opening.length + lengthThrough closing ((c :: s).drop opening.length),
      .comment⟩ := by
  obtain ⟨hr, ho, hc, hp⟩ := h
  rw [first, blockMarks?_eq_some_iff.mpr ⟨hr, ho, hc⟩]
  exact if_pos (List.isPrefixOf_iff_prefix.mpr hp)

/-- Otherwise a line comment is looked for. -/
theorem first_of_not_startsBlock (h : ∀ opening closing, ¬ r.StartsBlock opening closing (c :: s)) :
    first r c s = lineCommentOr r c s := by
  rw [first]
  split
  · next opening closing hr =>
    obtain ⟨hr, ho, hc⟩ := blockMarks?_eq_some_iff.mp hr
    exact if_neg fun hp => h opening closing ⟨hr, ho, hc, List.isPrefixOf_iff_prefix.mp hp⟩
  · rfl

/-- A line comment goes up to the end of the line. -/
theorem lineCommentOr_of_startsLine {mark : Text} (h : r.StartsLine mark (c :: s)) :
    lineCommentOr r c s =
      ⟨max 1 ((c :: s).takeWhile fun (d : Character) => d != '\n').length, .comment⟩ := by
  obtain ⟨hr, hm, hp⟩ := h
  rw [lineCommentOr, lineMark?_eq_some_iff.mpr ⟨hr, hm⟩]
  exact if_pos (List.isPrefixOf_iff_prefix.mpr hp)

/-- Otherwise a string is looked for. -/
theorem lineCommentOr_of_not_startsLine (h : ∀ mark, ¬ r.StartsLine mark (c :: s)) :
    lineCommentOr r c s = stringOr r c s := by
  rw [lineCommentOr]
  split
  · next mark hr =>
    obtain ⟨hr, hm⟩ := lineMark?_eq_some_iff.mp hr
    exact if_neg fun hp => h mark ⟨hr, hm, List.isPrefixOf_iff_prefix.mp hp⟩
  · rfl

/-- A string goes up to its closing quote, or to the end. -/
theorem stringOr_of_startsString {quote : Text} (h : r.StartsString quote (c :: s)) :
    stringOr r c s = ⟨quote.length + stringTail quote ((c :: s).drop quote.length), .string⟩ := by
  obtain ⟨hr, hq, hp⟩ := h
  rw [stringOr, quoteMark?_eq_some_iff.mpr ⟨hr, hq⟩]
  exact if_pos (List.isPrefixOf_iff_prefix.mpr hp)

/-- Otherwise a word, a number or a single character comes. -/
theorem stringOr_of_not_startsString (h : ∀ quote, ¬ r.StartsString quote (c :: s)) :
    stringOr r c s = simple r c s := by
  rw [stringOr]
  split
  · next quote hr =>
    obtain ⟨hr, hq⟩ := quoteMark?_eq_some_iff.mp hr
    exact if_neg fun hp => h quote ⟨hr, hq, List.isPrefixOf_iff_prefix.mp hp⟩
  · rfl

/-- Where no mark begins, the first token is a number, a word or a single character. -/
theorem first_of_unmarked (h : r.Unmarked (c :: s)) : first r c s = simple r c s := by
  rw [first_of_not_startsBlock h.not_block, lineCommentOr_of_not_startsLine h.not_line,
    stringOr_of_not_startsString h.not_string]

/-- A number is as long as its characters go on. -/
theorem isRun_number (hd : Character.isDigit c = true) :
    IsRun continuesNumber (c :: s) (1 + (s.takeWhile continuesNumber).length) := by
  have h := isRun_takeWhile continuesNumber (c :: s)
  rwa [List.takeWhile_cons_of_pos (by rw [continuesNumber, hd]; rfl), List.length_cons,
    Nat.add_comm] at h

/-- A character that begins an identifier belongs to words. -/
theorem isWord_of_startsIdentifier (hw : Character.startsIdentifier c = true) :
    Character.isWord c = true := by
  rw [Character.startsIdentifier, Bool.or_eq_true] at hw
  rw [Character.isWord, Character.isAlphanumeric, Bool.or_eq_true, Bool.or_eq_true]
  exact hw.imp_left Or.inl

/-- So is a word. -/
theorem isRun_word (hw : Character.startsIdentifier c = true) :
    IsRun Character.isWord (c :: s) (1 + (s.takeWhile Character.isWord).length) := by
  have h := isRun_takeWhile Character.isWord (c :: s)
  rwa [List.takeWhile_cons_of_pos (isWord_of_startsIdentifier hw), List.length_cons,
    Nat.add_comm] at h

/-- The category of a word is looked up among the keywords first and among the types then. -/
theorem wordCategory_eq (r : RuleSet) (word : Text) :
    wordCategory r word = if word ∈ r.keywords then .keyword else
      if word ∈ r.types then .type else .plain := by
  simp only [wordCategory, List.contains_iff_mem]

/-- The characters of a word token. -/
theorem take_word (p : Character → Bool) :
    (c :: s).take (1 + (s.takeWhile p).length) = c :: s.takeWhile p := by
  rw [Nat.add_comm, List.take_succ_cons, ← List.prefix_iff_eq_take.mp (List.takeWhile_prefix p)]

/-- The scanner's first token is what the token at the beginning of a text is. -/
theorem isFirst_first (r : RuleSet) (c : Character) (s : Text) :
    IsFirst r (c :: s) (first r c s) := by
  -- The kinds are tried in order, and each is reached only where none before it applies.
  by_cases hb : ∃ opening closing, r.StartsBlock opening closing (c :: s)
  · obtain ⟨opening, closing, hb⟩ := hb
    rw [first_of_startsBlock hb]
    exact .block hb (closedAfter_lengthThrough hb.2.2.1 _)
  have hb : ∀ opening closing, ¬ r.StartsBlock opening closing (c :: s) :=
    fun opening closing h => hb ⟨opening, closing, h⟩
  rw [first_of_not_startsBlock hb]
  by_cases hl : ∃ mark, r.StartsLine mark (c :: s)
  · obtain ⟨mark, hl⟩ := hl
    rw [lineCommentOr_of_startsLine hl]
    exact .line hb hl (isLineEnd_takeWhile _)
  have hl : ∀ mark, ¬ r.StartsLine mark (c :: s) := fun mark h => hl ⟨mark, h⟩
  rw [lineCommentOr_of_not_startsLine hl]
  by_cases hq : ∃ quote, r.StartsString quote (c :: s)
  · obtain ⟨quote, hq⟩ := hq
    rw [stringOr_of_startsString hq]
    exact .string hb hl hq (closedAfter_stringTail hq.2.1 _)
  have hm : r.Unmarked (c :: s) := ⟨hb, hl, fun quote h => hq ⟨quote, h⟩⟩
  rw [stringOr_of_not_startsString hm.not_string, simple]
  split
  · next hd => exact .number hm rfl hd (isRun_number hd)
  · next hd =>
    have hd := eq_false_of_ne_true hd
    split
    · next hw =>
      have h := IsFirst.word hm rfl hd hw (isRun_word hw)
      rwa [take_word, ← wordCategory_eq] at h
    · next hw => exact .other hm rfl hd (eq_false_of_ne_true hw)

/-- No other token is at the beginning of a text. -/
theorem IsFirst.eq_first {token : Token} (h : IsFirst r (c :: s) token) : token = first r c s := by
  -- The scanner tries the same kind, and finds the same end since there is only one.
  cases h with
  | block h hn =>
    rw [first_of_startsBlock h, hn.unique (closedAfter_lengthThrough h.2.2.1 _)]
  | line hb h hk =>
    rw [first_of_not_startsBlock hb, lineCommentOr_of_startsLine h,
      hk.unique (isLineEnd_takeWhile _)]
  | string hb hl h hn =>
    rw [first_of_not_startsBlock hb, lineCommentOr_of_not_startsLine hl, stringOr_of_startsString h,
      hn.unique (closedAfter_stringTail h.2.1 _)]
  | number hm hc hd hn =>
    obtain rfl := Option.some.inj hc
    rw [first_of_unmarked hm, simple, if_pos hd, hn.unique (isRun_number hd)]
    rfl
  | word hm hc hd hw hn =>
    obtain rfl := Option.some.inj hc
    rw [hn.unique (isRun_word hw), take_word, ← wordCategory_eq, first_of_unmarked hm, simple,
      if_neg (ne_true_of_eq_false hd), if_pos hw]
  | other hm hc hd hw =>
    obtain rfl := Option.some.inj hc
    rw [first_of_unmarked hm, simple, if_neg (ne_true_of_eq_false hd),
      if_neg (ne_true_of_eq_false hw)]

/-- No token is at the beginning of an empty text. -/
theorem not_isFirst_nil {token : Token} : ¬ IsFirst r [] token := by
  intro h
  cases h with
  | block h _ => exact h.2.1 (List.prefix_nil.mp h.2.2.2)
  | line _ h _ => exact h.2.1 (List.prefix_nil.mp h.2.2)
  | string _ _ h _ => exact h.2.1 (List.prefix_nil.mp h.2.2)
  | number _ hc => exact absurd hc (by simp)
  | word _ hc => exact absurd hc (by simp)
  | other _ hc => exact absurd hc (by simp)

end Kinds

/-! ## The first token lies within the text -/

/-- The first token of a text has a character. -/
theorem IsFirst.length_pos {r : RuleSet} {s : Text} {token : Token} (h : IsFirst r s token) :
    0 < token.length := by
  cases s with
  | nil => exact absurd h not_isFirst_nil
  | cons c s =>
    cases h with
    | block h _ => exact Nat.add_pos_left (List.length_pos_iff.mpr h.2.1) _
    | line _ _ _ => exact Nat.le_max_left 1 _
    | string _ _ h _ => exact Nat.add_pos_left (List.length_pos_iff.mpr h.2.1) _
    | number _ hc hd hn =>
      obtain rfl := Option.some.inj hc
      exact hn.pos (by rw [continuesNumber, hd]; rfl)
    | word _ hc _ hw hn =>
      obtain rfl := Option.some.inj hc
      exact hn.pos (isWord_of_startsIdentifier hw)
    | other _ _ _ _ => exact Nat.one_pos

/-- The first token of a text ends with the text at the latest. -/
theorem IsFirst.length_le {r : RuleSet} {s : Text} {token : Token} (h : IsFirst r s token) :
    token.length ≤ s.length := by
  cases s with
  | nil => exact absurd h not_isFirst_nil
  | cons c s =>
    cases h with
    | block h hn =>
      have hle := hn.le_length h.2.2.1
      have hopen := h.2.2.2.length_le
      rw [List.length_drop] at hle
      exact Nat.add_le_of_le_sub' hopen hle
    | line _ _ hk => exact Nat.max_le.mpr ⟨Nat.succ_pos _, hk.le_length⟩
    | string _ _ h hn =>
      have hle := hn.le_length h.2.1
      have hopen := h.2.2.length_le
      rw [List.length_drop] at hle
      exact Nat.add_le_of_le_sub' hopen hle
    | number _ _ _ hn => exact hn.1.1
    | word _ _ _ _ hn => exact hn.1.1
    | other _ _ _ _ => exact Nat.succ_pos _

end Token

end SourceEditor

import SourceEditor.Proofs.Highlight.Partition

/-!
# Cutting a scanned text

A text may be cut where a base span of its scan begins: the scan is then that of the part before the
cut, followed by that of the part behind it, moved to its place. What the scanner looks at ahead of
a token does not reach over its end, with one exception: the mark of a line comment does if it has a
line break in it.

* `Token.IsFirst.take`: the first token of a text is that of any beginning that holds it.
* `Token.list_take_extent`: some of the first tokens of a text are the tokens of their characters.
* `RuleSet.scan_cut`: the scans of both parts of a text.
-/

namespace SourceEditor

namespace Token

/-! ## The first token of a beginning -/

/-- Reading for a closing quote is the same in a beginning of the text, up to its end and as long as
no quote is found. -/
theorem isRead_take_iff {quote : Text} (s : Text) {j k : Nat} (hk : k ≤ j)
    (hnone : ∀ i < k, IsRead quote s i → ¬ quote <+: s.drop i) :
    IsRead quote (s.take j) k ↔ IsRead quote s k := by
  -- Reading takes one or two characters at a time, and so does the induction.
  induction k using Nat.strongRecOn generalizing s j with
  | _ k ih =>
    match s, j, k, hk with
    | s, j, 0, _ => exact ⟨fun _ => .first _, fun _ => .first _⟩
    | [], j, k + 1, _ => rw [List.take_nil]
    | c :: s, j + 1, k + 1, hk =>
      have hs : ¬ quote <+: c :: s := hnone 0 (Nat.succ_pos k) (.first _)
      have htake : ¬ quote <+: c :: s.take j := fun h =>
        hs (h.trans (List.take_prefix (j + 1) (c :: s)))
      rw [List.take_succ_cons]
      by_cases hc : c = '\\'
      · -- The backslash begins no quote in either text, and hides the next character in both.
        subst hc
        match s, j, k, hk with
        | s, j, 0, _ =>
          exact ⟨fun h => absurd h (not_isRead_one htake), fun h => absurd h (not_isRead_one hs)⟩
        | [], j, k + 1, _ => rw [List.take_nil]
        | d :: s, j + 1, k + 1, hk =>
          rw [List.take_succ_cons] at htake ⊢
          rw [isRead_escape_iff htake, isRead_escape_iff hs]
          refine ih k (by omega) s (by omega) fun i hi hread => ?_
          exact hnone (i + 2) (by omega) ((isRead_escape_iff hs).mpr hread)
      · rw [isRead_succ_iff hc, isRead_succ_iff hc]
        refine ih k (Nat.lt_succ_self k) s (Nat.le_of_succ_le_succ hk) fun i hi hread => ?_
        exact hnone (i + 1) (Nat.succ_lt_succ hi) ((isRead_succ_iff hc).mpr hread)

/-- What is closed after some characters is so in a beginning of the text that holds them, if the
same offsets are read there until a closing mark is found. -/
theorem ClosedAfter.take {read read' : Nat → Prop} {mark s : Text} {n j : Nat} (hm : mark ≠ [])
    (h : ClosedAfter read mark s n) (hn : n ≤ j)
    (hread : ∀ k ≤ j, (∀ i < k, read i → ¬ mark <+: s.drop i) → (read' k ↔ read k)) :
    ClosedAfter read' mark (s.take j) n := by
  rcases h with ⟨k, hk, rfl⟩ | ⟨hnone, rfl⟩
  · have hbefore : ∀ i < k, read i → ¬ mark <+: s.drop i := fun i hi hr hmark =>
      absurd (hk.2 ⟨hr, hmark⟩) (Nat.not_le.mpr hi)
    refine Or.inl ⟨k, ⟨⟨?_, ?_⟩, fun i hi => ?_⟩, rfl⟩
    · exact (hread k (by omega) hbefore).mpr hk.1.1
    · rw [List.drop_take, List.prefix_take_iff]
      exact ⟨hk.1.2, by omega⟩
    · -- A mark in front of the leftmost one would stand in the whole text, too.
      obtain ⟨hr, hmark⟩ := hi
      rw [List.drop_take] at hmark
      by_contra hlt
      have hlt : i < k := Nat.not_le.mp hlt
      have hr := (hread i (by omega) fun l hl => hbefore l (by omega)).mp hr
      exact hbefore i hlt hr (hmark.trans (List.take_prefix _ _))
  · -- Nothing is cut off, since the token reaches the end of the text.
    rw [List.take_of_length_le hn]
    refine Or.inr ⟨fun k hr hmark => ?_, rfl⟩
    have hk := add_length_le_of_prefix_drop hm hmark
    exact hnone k ((hread k (by omega) fun i _ => hnone i).mp hr) hmark

/-- A line ends where it does in any part of the text that holds it. -/
theorem IsLineEnd.take {s : Text} {k n : Nat} (h : IsLineEnd s k) (hk : k ≤ n) :
    IsLineEnd (s.take n) k := by
  rcases h with ⟨hbreak, hleast⟩ | ⟨hnone, rfl⟩
  · rcases Nat.lt_or_eq_of_le hk with hlt | rfl
    · refine Or.inl ⟨?_, fun i hi => ?_⟩
      · show (s.take n)[k]? = _
        rw [List.getElem?_take_of_lt hlt]
        exact hbreak
      · change (s.take n)[i]? = _ at hi
        rw [List.getElem?_take, Option.ite_none_right_eq_some] at hi
        exact hleast hi.2
    · -- The line break is the first character behind the beginning, which has none itself.
      refine Or.inr ⟨fun hmem => ?_, ?_⟩
      · obtain ⟨i, hi⟩ := List.mem_iff_getElem?.mp hmem
        rw [List.getElem?_take, Option.ite_none_right_eq_some] at hi
        exact absurd (hleast hi.2) (Nat.not_le.mpr hi.1)
      · rw [List.length_take_of_le (Nat.le_of_lt (List.getElem?_eq_some_iff.mp hbreak).1)]
  · rw [List.take_of_length_le hk]
    exact Or.inr ⟨hnone, rfl⟩

/-- A mark without line breaks at the beginning of a text is part of the first line. -/
theorem IsLineEnd.length_le_of_prefix {mark s : Text} {k : Nat} (h : IsLineEnd s k)
    (hmark : mark <+: s) (hbreak : ('\n' : Character) ∉ mark) : mark.length ≤ k := by
  rcases h with h | ⟨-, rfl⟩
  · by_contra hlt
    have hk : s[k]? = some ('\n' : Character) := h.1
    rw [List.prefix_iff_eq_take.mp hmark] at hbreak
    refine hbreak (List.mem_iff_getElem?.mpr ⟨k, ?_⟩)
    rw [List.getElem?_take_of_lt (Nat.not_le.mp hlt), hk]
  · exact hmark.length_le

/-- So does a run of characters. -/
theorem IsRun.take {p : Character → Bool} {s : Text} {m n : Nat} (h : IsRun p s m) (hm : m ≤ n) :
    IsRun p (s.take n) m := by
  refine ⟨⟨?_, ?_⟩, fun i hi => h.2 ⟨?_, ?_⟩⟩
  · rw [List.length_take]
    exact Nat.le_min.mpr ⟨hm, h.1.1⟩
  -- The characters of a run are the same in the text and in its beginning.
  · rw [List.take_take, Nat.min_eq_left hm]
    exact h.1.2
  · exact hi.1.trans (List.length_take_le' n s)
  · have hin : i ≤ n := hi.1.trans (List.length_take_le n s)
    have hall := hi.2
    rwa [List.take_take, Nat.min_eq_left hin] at hall

section Beginning

variable {r : RuleSet} {s : Text} {n : Nat}

/-- No block comment begins in a part where none begins in the whole. -/
theorem not_startsBlock_take (h : ∀ opening closing, ¬ r.StartsBlock opening closing s) :
    ∀ opening closing, ¬ r.StartsBlock opening closing (s.take n) :=
  fun opening closing ⟨hr, ho, hc, hp⟩ =>
    h opening closing ⟨hr, ho, hc, hp.trans (List.take_prefix n s)⟩

/-- No line comment does. -/
theorem not_startsLine_take (h : ∀ mark, ¬ r.StartsLine mark s) :
    ∀ mark, ¬ r.StartsLine mark (s.take n) :=
  fun mark ⟨hr, hm, hp⟩ => h mark ⟨hr, hm, hp.trans (List.take_prefix n s)⟩

/-- No string does. -/
theorem not_startsString_take (h : ∀ quote, ¬ r.StartsString quote s) :
    ∀ quote, ¬ r.StartsString quote (s.take n) :=
  fun quote ⟨hr, hq, hp⟩ => h quote ⟨hr, hq, hp.trans (List.take_prefix n s)⟩

/-- Where no mark begins a text, none begins a beginning of it. -/
theorem unmarked_take (h : r.Unmarked s) : r.Unmarked (s.take n) :=
  ⟨not_startsBlock_take h.not_block, not_startsLine_take h.not_line,
    not_startsString_take h.not_string⟩

/-- The first token of a text is that of any beginning that holds it, unless a mark of line comments
has a line break. -/
theorem IsFirst.take {token : Token} (h : IsFirst r s token) (hn : token.length ≤ n)
    (hbreak : ∀ mark, r.lineComment = some mark → ('\n' : Character) ∉ mark) :
    IsFirst r (s.take n) token := by
  have hpos : 0 < n := Nat.lt_of_lt_of_le h.length_pos hn
  have hhead : (s.take n).head? = s.head? := by
    rw [List.head?_take, if_neg (Nat.ne_of_gt hpos)]
  cases h with
  | @block opening closing m h hm =>
    obtain ⟨hr, ho, hc, hp⟩ := h
    dsimp only at hn
    have hclosed : ClosedAfter (fun _ => True) closing
        ((s.drop opening.length).take (n - opening.length)) m :=
      hm.take hc (by omega) fun _ _ _ => Iff.rfl
    rw [← List.drop_take] at hclosed
    exact .block ⟨hr, ho, hc, List.prefix_take_iff.mpr ⟨hp, by omega⟩⟩ hclosed
  | @line mark k hb h hk =>
    obtain ⟨hr, hm, hp⟩ := h
    have hkn : k ≤ n := (Nat.le_max_right 1 k).trans hn
    -- The mark lies before the end of the line, and so in the beginning: only here could a mark
    -- reach over the end of its token.
    have hmark := hk.length_le_of_prefix hp (hbreak mark hr)
    exact .line (not_startsBlock_take hb) ⟨hr, hm, List.prefix_take_iff.mpr ⟨hp, hmark.trans hkn⟩⟩
      (hk.take hkn)
  | @string quote m hb hl h hm =>
    obtain ⟨hr, hq, hp⟩ := h
    dsimp only at hn
    have hclosed := hm.take hq (Nat.le_sub_of_add_le' hn)
      fun _ hk hnone => isRead_take_iff _ hk hnone
    rw [← List.drop_take] at hclosed
    exact .string (not_startsBlock_take hb) (not_startsLine_take hl)
      ⟨hr, hq, List.prefix_take_iff.mpr ⟨hp, by omega⟩⟩ hclosed
  | number hm hc hd hrun =>
    exact .number (unmarked_take hm) (hhead.trans hc) hd (hrun.take hn)
  | @word c m hm hc hd hw hrun =>
    have hword := IsFirst.word (unmarked_take hm) (hhead.trans hc) hd hw (hrun.take hn)
    rwa [List.take_take, Nat.min_eq_left hn] at hword
  | other hm hc hd hw => exact .other (unmarked_take hm) (hhead.trans hc) hd hw

/-- Some of the first tokens of a text are the tokens of the characters that they take up. -/
theorem list_take_extent {t : Text} {a b : List Token} (h : list r t = a ++ b)
    (hbreak : ∀ mark, r.lineComment = some mark → ('\n' : Character) ∉ mark) :
    list r (t.take (extent a)) = a := by
  induction a generalizing t with
  | nil => rfl
  | cons token a ih =>
    cases t with
    | nil => exact absurd h (List.cons_ne_nil token (a ++ b)).symm
    | cons c t =>
      rw [list_cons, List.cons_append, List.cons.injEq] at h
      obtain ⟨rfl, h⟩ := h
      -- The first token is kept, and what follows it is a shorter text with fewer tokens.
      have hfirst := isFirst_first r c t
      rw [extent_cons]
      have htake := hfirst.take (Nat.le_add_right _ (extent a)) hbreak
      have hpos := hfirst.length_pos
      obtain ⟨m, hm⟩ : ∃ m, (first r c t).length + extent a = m + 1 :=
        Nat.exists_eq_succ_of_ne_zero (by omega)
      rw [hm, List.take_succ_cons] at htake ⊢
      rw [list_cons, ← htake.eq_first, ← List.take_succ_cons, ← hm, List.drop_take,
        Nat.add_sub_cancel_left, ih h]

end Beginning

/-- The spans of tokens from an offset on begin there or later. -/
theorem le_start_of_mem_spansFrom {offset : Nat} {tokens : List Token} {span : Span}
    (h : span ∈ spansFrom offset tokens) : (offset : Int) ≤ span.start := by
  obtain ⟨a, token, b, -, rfl⟩ := exists_append_of_mem_spansFrom h
  exact Int.ofNat_le.mpr (Nat.le_add_right offset (extent a))

/-- The spans of tokens that are not empty begin before the end of all of them. -/
theorem start_lt_of_mem_spansFrom {offset : Nat} {tokens : List Token}
    (hpos : ∀ token ∈ tokens, 0 < token.length) {span : Span}
    (h : span ∈ spansFrom offset tokens) : span.start < (offset + extent tokens : Nat) := by
  obtain ⟨a, token, b, rfl, rfl⟩ := exists_append_of_mem_spansFrom h
  have htoken := hpos token (List.mem_append_right a List.mem_cons_self)
  rw [extent_append, extent_cons]
  refine Int.ofNat_lt.mpr ?_
  omega

end Token

/-! ## Cutting -/

/-- A span moved to the right. -/
def Span.shift (n : Nat) (span : Span) : Span :=
  { span with start := span.start + n, stop := span.stop + n }

/-- Spans from another offset are shifted. -/
theorem Token.spansFrom_add (offset n : Nat) (tokens : List Token) :
    spansFrom (offset + n) tokens = (spansFrom offset tokens).map (Span.shift n) := by
  induction tokens generalizing offset with
  | nil => rfl
  | cons token tokens ih =>
    rw [spansFrom, spansFrom, List.map_cons, ← ih, Nat.add_right_comm offset n token.length]
    rfl

/-- A text may be cut at its end and where a base span begins. -/
def StyledText.IsCut (s : StyledText) (p : Nat) : Prop :=
  (∃ span ∈ s.base, span.start = p) ∨ p = s.text.length

namespace RuleSet

variable {r : RuleSet} {t : Text} {p : Nat}

/-- A cut of a scanned text lies between two of its tokens, and also after joining them. -/
theorem exists_tokens_of_isCut (hp : (r.scan t).IsCut p) :
    ∃ a b, Token.list r t = a ++ b ∧ Token.extent a = p ∧
      Token.scan r t = Token.joinPlain a ++ Token.joinPlain b := by
  obtain ⟨x, y, hxy, hx⟩ : ∃ x y, Token.scan r t = x ++ y ∧ Token.extent x = p := by
    rcases hp with ⟨span, hspan, hstart⟩ | rfl
    · obtain ⟨x, token, y, hxy, rfl⟩ := Token.exists_append_of_mem_spansFrom hspan
      refine ⟨x, token :: y, hxy, ?_⟩
      rw [← Int.ofNat_inj.mp hstart, Nat.zero_add]
    · refine ⟨Token.scan r t, [], (List.append_nil _).symm, ?_⟩
      rw [Token.scan, Token.extent_joinPlain, Token.extent_list]
      rfl
  -- A cut between joined tokens is one between the tokens themselves: no plain token is cut off
  -- from another.
  obtain ⟨a, b, hab, rfl, rfl⟩ := Token.exists_append_of_joinPlain hxy
  exact ⟨a, b, hab, by rw [← hx, Token.extent_joinPlain], hxy⟩

/-- Spans that begin before an offset can be told apart from those that begin there or later. -/
theorem filter_start_append {before behind : List Span} {p : Int}
    (hbefore : ∀ span ∈ before, span.start < p) (hbehind : ∀ span ∈ behind, p ≤ span.start) :
    (before ++ behind).filter (fun span => p ≤ span.start) = behind ∧
      (before ++ behind).filter (fun span => span.start < p) = before := by
  rw [List.filter_append, List.filter_append]
  constructor
  · rw [List.filter_eq_nil_iff.mpr, List.filter_eq_self.mpr, List.nil_append]
    · exact fun span hspan => decide_eq_true (hbehind span hspan)
    · intro span hspan h
      exact absurd (of_decide_eq_true h) (Int.not_le.mpr (hbefore span hspan))
  · rw [List.filter_eq_self.mpr, List.filter_eq_nil_iff.mpr, List.append_nil]
    · intro span hspan h
      exact absurd (of_decide_eq_true h) (Int.not_lt.mpr (hbehind span hspan))
    · exact fun span hspan => decide_eq_true (hbefore span hspan)

/-- Where a scanned text may be cut, its spans behind the cut are those of the text behind the cut,
moved there. If no mark of line comments has a line break, its spans before the cut are those of the
text before the cut, so that both scans together make the scan of the whole text. -/
theorem scan_cut (hp : (r.scan t).IsCut p) :
    (r.scan t).base.filter (fun span => (p : Int) ≤ span.start) =
        (r.scan (t.drop p)).base.map (Span.shift p) ∧
      ((∀ mark, r.lineComment = some mark → ('\n' : Character) ∉ mark) →
        (r.scan t).base.filter (fun span => span.start < (p : Int)) = (r.scan (t.take p)).base ∧
        (r.scan t).base =
          (r.scan (t.take p)).base ++ (r.scan (t.drop p)).base.map (Span.shift p)) := by
  obtain ⟨a, b, hab, rfl, hscan⟩ := exists_tokens_of_isCut hp
  have hpos : ∀ token ∈ Token.joinPlain a, 0 < token.length := fun token ht =>
    Token.length_pos_of_mem_joinPlain (fun token => Token.length_pos_of_mem_list) token
      (hscan ▸ List.mem_append_left _ ht)
  have hbase : (r.scan t).base = Token.spansFrom 0 (Token.joinPlain a) ++
      Token.spansFrom (Token.extent a) (Token.joinPlain b) := by
    rw [scan, hscan, Token.spansFrom_append, Token.extent_joinPlain, Nat.zero_add]
  have hbehind : (r.scan (t.drop (Token.extent a))).base.map (Span.shift (Token.extent a)) =
      Token.spansFrom (Token.extent a) (Token.joinPlain b) := by
    rw [scan, Token.scan, Token.list_drop_extent hab, ← Token.spansFrom_add, Nat.zero_add]
  have hlow : ∀ span ∈ Token.spansFrom 0 (Token.joinPlain a), span.start < Token.extent a := by
    intro span hspan
    have hlt := Token.start_lt_of_mem_spansFrom hpos hspan
    rwa [Token.extent_joinPlain, Nat.zero_add] at hlt
  have hhigh : ∀ span ∈ Token.spansFrom (Token.extent a) (Token.joinPlain b),
      (Token.extent a : Int) ≤ span.start := fun span => Token.le_start_of_mem_spansFrom
  obtain ⟨hfrom, hto⟩ := filter_start_append hlow hhigh
  rw [hbehind, hbase]
  refine ⟨hfrom, fun hbreak => ?_⟩
  -- Only the part before the cut is scanned with less text ahead than in the whole text.
  have hbefore : (r.scan (t.take (Token.extent a))).base =
      Token.spansFrom 0 (Token.joinPlain a) := by
    rw [scan, Token.scan, Token.list_take_extent hab hbreak]
  rw [hbefore]
  exact ⟨hto, rfl⟩

/-- A cut in front of a string, with a comment after it. -/
theorem scan_cut_string :
    (kotlinRules.scan "a \"//\" // b").IsCut 2 ∧
      (kotlinRules.scan "a \"//\" // b").base =
        (kotlinRules.scan "a ").base ++
          (kotlinRules.scan "\"//\" // b").base.map (Span.shift 2) := by
  have hcut : (kotlinRules.scan "a \"//\" // b").IsCut 2 :=
    Or.inl ⟨⟨2, 6, .string⟩, by decide +kernel, rfl⟩
  refine ⟨hcut, ((scan_cut hcut).2 ?_).2⟩
  intro mark hmark
  obtain rfl := Option.some.inj hmark
  decide

/-- Before the cut, a mark with a line break may not be there any more: the comment ends before its
mark does. -/
example :
    let r : RuleSet := { lineComment := some "\n#" }
    (r.scan "\n#").base = [⟨0, 1, .comment⟩, ⟨1, 2, .plain⟩] ∧
      (r.scan "\n").base = [⟨0, 1, .plain⟩] := by
  decide +kernel

end RuleSet

end SourceEditor

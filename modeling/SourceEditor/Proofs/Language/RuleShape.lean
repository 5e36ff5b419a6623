import SourceEditor.Language.RuleDocument
import SourceEditor.Proofs.Json.Soundness
import SourceEditor.Proofs.Order.Sorted

/-!
# The shape of rule documents

A rule document is an object with some members, each of which may be missing or `null`. Which
documents are taken and what they say is told here member by member, without a word on the order in
which they are looked at. A member that is missing counts as `null` (`Json.Value.field`).

* `RuleDocument.HasShape`: the documents that are rule sets.
* `RuleDocument.Describes`: what such a document says.
* `RuleSet.IsNormal`: what every rule set that was read keeps to.
* `RuleDocument.parse_of_hasShape`, `RuleDocument.exists_parse_eq_error`: a document is read if and
  only if it has the shape.
* `RuleDocument.AgreesWith.parse_eq`: no other member has a part in it.
* `RuleDocument.parse_shape`: all this, and that a rule set is read from its own document.
-/

namespace SourceEditor

namespace Json.Value

/-- A text, or nothing. -/
inductive IsOptionalText : Value → Prop
  | null : IsOptionalText .null
  | text (s : Text) : IsOptionalText (.string s)

/-- A list of texts, or nothing. -/
inductive IsOptionalTexts : Value → Prop
  | null : IsOptionalTexts .null
  | texts (ts : List Text) : IsOptionalTexts (.array (ts.map .string))

/-- An object, or nothing. -/
inductive IsOptionalObject : Value → Prop
  | null : IsOptionalObject .null
  | object (entries : Entries) : IsOptionalObject (.object entries)

/-- A value is a text with characters. -/
def IsMark (v : Value) (s : Text) : Prop :=
  s ≠ [] ∧ v = .string s

/-- A text with characters is among the items of a value. -/
def HasWord (v : Value) (w : Text) : Prop :=
  w ≠ [] ∧ ∃ items, v = .array items ∧ .string w ∈ items

/-- Two values have the same under some keys. -/
def AgreesOn (keys : List Text) (v v' : Value) : Prop :=
  ∀ key ∈ keys, v.field key = v'.field key

end Json.Value

open Json (Value Entries)

/-- The words of a rule set are in order, each of them once, and nothing in it is empty. -/
structure RuleSet.IsNormal (r : RuleSet) : Prop where
  keywords_table : Text.IsTable r.keywords
  types_table : Text.IsTable r.types
  nil_notMem_keywords : [] ∉ r.keywords
  nil_notMem_types : [] ∉ r.types
  line_ne_nil : r.lineComment ≠ some []
  block_ne_nil : ∀ a b, r.blockComment = some (a, b) → a ≠ [] ∧ b ≠ []
  quote_ne_nil : r.stringQuote ≠ some []

namespace RuleDocument

/-- The documents that are rule sets: each member is missing, `null`, or of its own kind. -/
structure HasShape (doc : Value) : Prop where
  isObject : ∃ entries, doc = .object entries
  keywords : (doc.field "keywords").IsOptionalTexts
  types : (doc.field "types").IsOptionalTexts
  comments : (doc.field "comments").IsOptionalObject
  line : ((doc.field "comments").field "line").IsOptionalText
  blockStart : ((doc.field "comments").field "blockStart").IsOptionalText
  blockEnd : ((doc.field "comments").field "blockEnd").IsOptionalText
  quote : (doc.field "strings").IsOptionalText

/-- What a document says of a language. Empty words and marks are as good as none, and one mark of
block comments is as good as none without the other. -/
structure Describes (doc : Value) (r : RuleSet) : Prop where
  keywords : ∀ w, w ∈ r.keywords ↔ (doc.field "keywords").HasWord w
  types : ∀ w, w ∈ r.types ↔ (doc.field "types").HasWord w
  line : ∀ s, r.lineComment = some s ↔ ((doc.field "comments").field "line").IsMark s
  block : ∀ a b, r.blockComment = some (a, b) ↔
    ((doc.field "comments").field "blockStart").IsMark a ∧
      ((doc.field "comments").field "blockEnd").IsMark b
  quote : ∀ s, r.stringQuote = some s ↔ (doc.field "strings").IsMark s

/-- Two documents differ in nothing but members that rule documents do not know. -/
structure AgreesWith (entries entries' : Entries) : Prop where
  members : (Value.object entries).AgreesOn (Text.ofStrings ["keywords", "types", "strings"])
    (.object entries')
  comments : (Value.object entries).field "comments" = (Value.object entries').field "comments" ∨
    ∃ comments comments', (Value.object entries).field "comments" = .object comments ∧
      (Value.object entries').field "comments" = .object comments' ∧
      (Value.object comments).AgreesOn (Text.ofStrings ["line", "blockStart", "blockEnd"])
        (.object comments')

/-- The value that stands for a mark, or for none. -/
def markValue : Option Text → Value
  | none => .null
  | some s => .string s

/-- The document of a rule set, its words listed in any order and as often as one likes. -/
def ofRules (r : RuleSet) (keywords types : List Text) : Value :=
  .object [("keywords", .array (keywords.map .string)), ("types", .array (types.map .string)),
    ("comments", .object [("line", markValue r.lineComment),
      ("blockStart", markValue (r.blockComment.map Prod.fst)),
      ("blockEnd", markValue (r.blockComment.map Prod.snd))]),
    ("strings", markValue r.stringQuote)]

/-! ## One member -/

section Member

variable {entries entries' : Entries} {place key : Text} {v : Value}

/-- A member that is missing is looked up as `null`. -/
theorem get?_eq_field_or (entries : Entries) (key : Text) :
    Entries.get? key entries = some ((Value.object entries).field key) ∨
      Entries.get? key entries = none ∧ (Value.object entries).field key = .null := by
  cases h : Entries.get? key entries with
  | none => exact .inr ⟨rfl, by rw [Value.field, h]; rfl⟩
  | some v => exact .inl (by rw [Value.field, h]; rfl)

/-- A key alone has its value. -/
theorem get?_singleton (key : Text) (v : Value) : Entries.get? key [(key, v)] = some v :=
  if_pos rfl

/-- Nothing but the member itself is looked at. -/
theorem mark_eq (entries : Entries) (place key : Text) :
    mark entries place key = mark [(key, (Value.object entries).field key)] place key := by
  rcases get?_eq_field_or entries key with hget | ⟨hget, hnull⟩
  · rw [mark, hget, mark, get?_singleton]
  · rw [mark, hget, hnull, mark, get?_singleton]

/-- A mark that is left out is none. -/
theorem mark_of_null (h : (Value.object entries).field key = .null) :
    mark entries place key = .ok none := by
  rw [mark_eq, h, mark, get?_singleton]

/-- A text is a mark unless it is empty. -/
theorem mark_of_string {s : Text} (h : (Value.object entries).field key = .string s) :
    mark entries place key = .ok (if s.isEmpty then none else some s) := by
  rw [mark_eq, h, mark, get?_singleton]

/-- Anything else is an error at the place of the mark. -/
theorem mark_of_not_isOptionalText (h : ¬ ((Value.object entries).field key).IsOptionalText) :
    mark entries place key = .error (.notText (place ++ key)) := by
  rw [mark_eq, mark, get?_singleton]
  cases hv : (Value.object entries).field key with
  | null => exact absurd (hv ▸ .null) h
  | string s => exact absurd (hv ▸ .text s) h
  | _ => rfl

/-- A mark that is read is the one that is given. -/
theorem exists_mark_eq_ok (place : Text)
    (h : ((Value.object entries).field key).IsOptionalText) :
    ∃ m, mark entries place key = .ok m ∧
      ∀ s, m = some s ↔ ((Value.object entries).field key).IsMark s := by
  generalize hv : (Value.object entries).field key = v at h
  cases h with
  | null => exact ⟨none, mark_of_null hv, by simp [Value.IsMark]⟩
  | text s =>
    refine ⟨_, mark_of_string hv, fun t => ?_⟩
    cases s with
    | nil => simp +contextual [Value.IsMark, eq_comm]
    | cons c s =>
      simp only [List.isEmpty_cons, Bool.false_eq_true, if_false, Option.some.injEq, Value.IsMark,
        Value.string.injEq]
      exact ⟨fun h => ⟨h ▸ List.cons_ne_nil c s, h⟩, And.right⟩

/-- Texts are texts. -/
theorem textsOf?_map_string (ts : List Text) : textsOf? (ts.map .string) = some ts := by
  induction ts with
  | nil => rfl
  | cons t ts ih => rw [List.map_cons, textsOf?, ih, Option.map_some]

/-- What counts as texts is made of them. -/
theorem eq_map_of_textsOf? {items : List Value} {ts : List Text} (h : textsOf? items = some ts) :
    items = ts.map .string := by
  fun_induction textsOf? items generalizing ts with
  | case1 => cases h; rfl
  | case2 s rest ih =>
    obtain ⟨more, hmore, rfl⟩ := Option.map_eq_some_iff.mp h
    rw [List.map_cons, ih hmore]
  | case3 => cases h

/-- The words of some texts are those that are not empty. -/
theorem hasWord_map_string_iff {ts : List Text} {w : Text} :
    (Value.array (ts.map .string)).HasWord w ↔ w ≠ [] ∧ w ∈ ts := by
  simp [Value.HasWord]

/-- The words of a key depend on its value alone. -/
theorem words_eq (entries : Entries) (key : Text) :
    words entries key = words [(key, (Value.object entries).field key)] key := by
  rcases get?_eq_field_or entries key with hget | ⟨hget, hnull⟩
  · rw [words, hget, words, get?_singleton]
  · rw [words, hget, hnull, words, get?_singleton]

/-- Words that are left out are none. -/
theorem words_of_null (h : (Value.object entries).field key = .null) :
    words entries key = .ok [] := by
  rw [words_eq, h, words, get?_singleton]

/-- Texts are words unless they are empty. -/
theorem words_of_texts {ts : List Text}
    (h : (Value.object entries).field key = .array (ts.map .string)) :
    words entries key = .ok (ts.filter fun t => !t.isEmpty) := by
  rw [words_eq, h, words, get?_singleton]
  dsimp only
  rw [textsOf?_map_string]

/-- Anything else is an error at the key. -/
theorem words_of_not_isOptionalTexts (h : ¬ ((Value.object entries).field key).IsOptionalTexts) :
    words entries key = .error (.notWords key) := by
  rw [words_eq, words, get?_singleton]
  cases hv : (Value.object entries).field key with
  | null => exact absurd (hv ▸ .null) h
  | array items =>
    cases hitems : textsOf? items with
    | none =>
      dsimp only
      rw [hitems]
    | some ts => exact absurd (hv ▸ eq_map_of_textsOf? hitems ▸ .texts ts) h
  | _ => rfl

/-- The words that are read are those that are given, the empty ones left out. -/
theorem exists_words_eq_ok (h : ((Value.object entries).field key).IsOptionalTexts) :
    ∃ ws, words entries key = .ok ws ∧
      ∀ w, w ∈ ws ↔ ((Value.object entries).field key).HasWord w := by
  generalize hv : (Value.object entries).field key = v at h
  cases h with
  | null => exact ⟨[], words_of_null hv, by simp [Value.HasWord]⟩
  | texts ts =>
    refine ⟨_, words_of_texts hv, fun w => ?_⟩
    rw [hasWord_map_string_iff, List.mem_filter, and_comm]
    simp

end Member

/-! ## Comments -/

section Comments

variable {entries entries' comments : Entries}

/-- The marks of comments depend on one value alone. -/
theorem commentMarks_eq (entries : Entries) :
    commentMarks entries =
      commentMarks [("comments", (Value.object entries).field "comments")] := by
  rcases get?_eq_field_or entries "comments" with hget | ⟨hget, hnull⟩
  · rw [commentMarks, hget, commentMarks, get?_singleton]
  · rw [commentMarks, hget, hnull, commentMarks, get?_singleton]

/-- Marks that are left out are none. -/
theorem commentMarks_of_null (h : (Value.object entries).field "comments" = .null) :
    commentMarks entries = .ok {} := by
  rw [commentMarks_eq, h, commentMarks, get?_singleton]

/-- An object gives each mark under its own key. -/
theorem commentMarks_of_object (h : (Value.object entries).field "comments" = .object comments) :
    commentMarks entries = (do
      let line ← mark comments "comments." "line"
      let blockStart ← mark comments "comments." "blockStart"
      let blockEnd ← mark comments "comments." "blockEnd"
      return ⟨line, blockStart, blockEnd⟩) := by
  rw [commentMarks_eq, h, commentMarks, get?_singleton]

/-- Anything else is an error. -/
theorem commentMarks_of_not_isOptionalObject
    (h : ¬ ((Value.object entries).field "comments").IsOptionalObject) :
    commentMarks entries = .error .commentsNotObject := by
  rw [commentMarks_eq, commentMarks, get?_singleton]
  cases hv : (Value.object entries).field "comments" with
  | null => exact absurd (hv ▸ .null) h
  | object comments => exact absurd (hv ▸ .object comments) h
  | _ => rfl

/-- The marks of comments that are read are those that are given. -/
theorem exists_commentMarks_eq_ok (h : HasShape (.object entries)) :
    ∃ m, commentMarks entries = .ok m ∧
      (∀ s, m.line = some s ↔ (((Value.object entries).field "comments").field "line").IsMark s) ∧
      (∀ s, m.blockStart = some s ↔
        (((Value.object entries).field "comments").field "blockStart").IsMark s) ∧
      ∀ s, m.blockEnd = some s ↔
        (((Value.object entries).field "comments").field "blockEnd").IsMark s := by
  obtain ⟨-, -, -, hcomments, hline, hstart, hend, -⟩ := h
  generalize hv : (Value.object entries).field "comments" = v at hcomments hline hstart hend ⊢
  cases hcomments with
  | null =>
    have hnone (key s : Text) : ¬ (Value.null.field key).IsMark s := fun h => nomatch h.2
    exact ⟨{}, commentMarks_of_null hv, by simp [hnone], by simp [hnone], by simp [hnone]⟩
  | object comments =>
    obtain ⟨line, hreadLine, hline⟩ := exists_mark_eq_ok "comments." hline
    obtain ⟨start, hreadStart, hstart⟩ := exists_mark_eq_ok "comments." hstart
    obtain ⟨stop, hreadEnd, hend⟩ := exists_mark_eq_ok "comments." hend
    refine ⟨⟨line, start, stop⟩, ?_, hline, hstart, hend⟩
    rw [commentMarks_of_object hv, hreadLine, hreadStart, hreadEnd]
    rfl

/-- Documents that agree give the same marks. -/
theorem commentMarks_congr (h : AgreesWith entries entries') :
    commentMarks entries = commentMarks entries' := by
  rcases h.comments with hsame | ⟨comments, comments', hv, hv', hagrees⟩
  · rw [commentMarks_eq, hsame, ← commentMarks_eq]
  · have hmark (key : Text) (hkey : key ∈ Text.ofStrings ["line", "blockStart", "blockEnd"]) :
        mark comments "comments." key = mark comments' "comments." key := by
      rw [mark_eq, hagrees key hkey, ← mark_eq]
    rw [commentMarks_of_object hv, commentMarks_of_object hv', hmark "line" (by decide),
      hmark "blockStart" (by decide), hmark "blockEnd" (by decide)]

end Comments

/-! ## Documents -/

section Document

variable {doc : Value} {entries entries' : Entries} {r r' : RuleSet}

/-- Comments over several lines need both their marks. -/
theorem CommentMarks.block_eq_some_iff {m : CommentMarks} {a b : Text} :
    m.block = some (a, b) ↔ m.blockStart = some a ∧ m.blockEnd = some b := by
  obtain ⟨line, start, stop⟩ := m
  cases start <;> cases stop <;> simp [block]

/-- A document of the right shape is read, and the rule set is the one that it describes. -/
theorem parse_of_hasShape (h : HasShape doc) :
    ∃ r, parse doc = .ok r ∧ Text.IsTable r.keywords ∧ Text.IsTable r.types ∧ Describes doc r := by
  obtain ⟨entries, rfl⟩ := h.isObject
  obtain ⟨m, hreadComments, hline, hstart, hend⟩ := exists_commentMarks_eq_ok h
  obtain ⟨keywords, hreadKeywords, hkeywords⟩ := exists_words_eq_ok h.keywords
  obtain ⟨types, hreadTypes, htypes⟩ := exists_words_eq_ok h.types
  obtain ⟨quote, hreadQuote, hquote⟩ := exists_mark_eq_ok [] h.quote
  refine ⟨RuleSet.ofWords keywords types m.line m.block quote, ?_,
    Text.isTable_sortedUnique keywords, Text.isTable_sortedUnique types, ?_⟩
  · rw [parse, hreadComments, hreadKeywords, hreadTypes, hreadQuote]
    rfl
  · refine ⟨fun w => ?_, fun w => ?_, hline, fun a b => ?_, hquote⟩
    · exact Text.mem_sortedUnique.trans (hkeywords w)
    · exact Text.mem_sortedUnique.trans (htypes w)
    · exact CommentMarks.block_eq_some_iff.trans (and_congr (hstart a) (hend b))

/-- What gives a mark is a text or left out. -/
theorem isOptionalText_of_mark {place key : Text} {m : Option Text}
    (h : mark entries place key = .ok m) : ((Value.object entries).field key).IsOptionalText := by
  by_contra hshape
  cases (mark_of_not_isOptionalText hshape).symm.trans h

/-- What gives words is texts or left out. -/
theorem isOptionalTexts_of_words {key : Text} {ws : List Text} (h : words entries key = .ok ws) :
    ((Value.object entries).field key).IsOptionalTexts := by
  by_contra hshape
  cases (words_of_not_isOptionalTexts hshape).symm.trans h

/-- What gives the marks of comments is an object of texts, as far as it is not left out. -/
theorem isOptionalText_of_commentMarks {m : CommentMarks} (h : commentMarks entries = .ok m) :
    ((Value.object entries).field "comments").IsOptionalObject ∧
      (((Value.object entries).field "comments").field "line").IsOptionalText ∧
      (((Value.object entries).field "comments").field "blockStart").IsOptionalText ∧
      (((Value.object entries).field "comments").field "blockEnd").IsOptionalText := by
  have hobject : ((Value.object entries).field "comments").IsOptionalObject := by
    by_contra hshape
    cases (commentMarks_of_not_isOptionalObject hshape).symm.trans h
  generalize hv : (Value.object entries).field "comments" = v at hobject ⊢
  cases hobject with
  | null => exact ⟨.null, .null, .null, .null⟩
  | object comments =>
    rw [commentMarks_of_object hv] at h
    obtain ⟨line, hline, h⟩ := Json.exists_of_bind_eq_ok h
    obtain ⟨start, hstart, h⟩ := Json.exists_of_bind_eq_ok h
    obtain ⟨stop, hend, -⟩ := Json.exists_of_bind_eq_ok h
    exact ⟨.object comments, isOptionalText_of_mark hline, isOptionalText_of_mark hstart,
      isOptionalText_of_mark hend⟩

/-- Nothing else is read. -/
theorem hasShape_of_parse (h : parse doc = .ok r) : HasShape doc := by
  cases doc with
  | object entries =>
    obtain ⟨m, hcomments, h⟩ := Json.exists_of_bind_eq_ok h
    obtain ⟨keywords, hkeywords, h⟩ := Json.exists_of_bind_eq_ok h
    obtain ⟨types, htypes, h⟩ := Json.exists_of_bind_eq_ok h
    obtain ⟨quote, hquote, -⟩ := Json.exists_of_bind_eq_ok h
    obtain ⟨hobject, hline, hstart, hend⟩ := isOptionalText_of_commentMarks hcomments
    exact ⟨⟨entries, rfl⟩, isOptionalTexts_of_words hkeywords, isOptionalTexts_of_words htypes,
      hobject, hline, hstart, hend, isOptionalText_of_mark hquote⟩
  | _ => cases h

/-- Members that rule documents do not know have no part in what becomes of a document, not even in
its error. -/
theorem AgreesWith.parse_eq (h : AgreesWith entries entries') :
    parse (.object entries) = parse (.object entries') := by
  have hwords (key : Text) (hkey : key ∈ Text.ofStrings ["keywords", "types", "strings"]) :
      words entries key = words entries' key := by
    rw [words_eq, h.members key hkey, ← words_eq]
  have hquote : mark entries [] "strings" = mark entries' [] "strings" := by
    rw [mark_eq, h.members "strings" (by decide), ← mark_eq]
  rw [parse, parse, commentMarks_congr h, hwords "keywords" (by decide),
    hwords "types" (by decide), hquote]

/-- What a document describes has nothing empty in it. -/
theorem Describes.isNormal (h : Describes doc r) (hkeywords : Text.IsTable r.keywords)
    (htypes : Text.IsTable r.types) : r.IsNormal where
  keywords_table := hkeywords
  types_table := htypes
  nil_notMem_keywords hnil := ((h.keywords []).mp hnil).1 rfl
  nil_notMem_types hnil := ((h.types []).mp hnil).1 rfl
  line_ne_nil hnil := ((h.line []).mp hnil).1 rfl
  block_ne_nil a b hblock := ⟨((h.block a b).mp hblock).1.1, ((h.block a b).mp hblock).2.1⟩
  quote_ne_nil hnil := ((h.quote []).mp hnil).1 rfl

/-- A document describes one rule set. -/
theorem Describes.unique (h : Describes doc r) (h' : Describes doc r') (hr : r.IsNormal)
    (hr' : r'.IsNormal) : r = r' := by
  have hkeywords := hr.keywords_table.eq_of_mem_iff hr'.keywords_table fun w =>
    (h.keywords w).trans (h'.keywords w).symm
  have htypes := hr.types_table.eq_of_mem_iff hr'.types_table fun w =>
    (h.types w).trans (h'.types w).symm
  have hline : r.lineComment = r'.lineComment :=
    Option.ext fun s => (h.line s).trans (h'.line s).symm
  have hblock : r.blockComment = r'.blockComment :=
    Option.ext fun marks => (h.block marks.1 marks.2).trans (h'.block marks.1 marks.2).symm
  have hquote : r.stringQuote = r'.stringQuote :=
    Option.ext fun s => (h.quote s).trans (h'.quote s).symm
  obtain ⟨keywords, types, line, block, quote⟩ := r
  obtain ⟨keywords', types', line', block', quote'⟩ := r'
  dsimp only at hkeywords htypes hline hblock hquote
  rw [hkeywords, htypes, hline, hblock, hquote]

end Document

/-! ## The document of a rule set -/

section Written

variable {r : RuleSet} {keywords types : List Text}

/-- A mark is written as a text or left out. -/
theorem isOptionalText_markValue (m : Option Text) : (markValue m).IsOptionalText := by
  cases m with
  | none => exact .null
  | some s => exact .text s

/-- It is written as the mark that it is. -/
theorem isMark_markValue_iff {m : Option Text} {s : Text} (hm : m ≠ some []) :
    (markValue m).IsMark s ↔ m = some s := by
  cases m with
  | none => simp [markValue, Value.IsMark]
  | some t =>
    simp only [markValue, Value.IsMark, Value.string.injEq, Option.some.injEq]
    exact ⟨And.right, fun h => ⟨fun hnil => hm (congrArg some (h.trans hnil)), h⟩⟩

/-- Texts written for words are those words. -/
theorem hasWord_texts_iff {ts ws : List Text} {w : Text} (hws : [] ∉ ws)
    (hsame : ∀ w, w ∈ ts ↔ w ∈ ws) : (Value.array (ts.map .string)).HasWord w ↔ w ∈ ws := by
  rw [hasWord_map_string_iff, hsame]
  exact ⟨And.right, fun h => ⟨fun hnil => hws (hnil ▸ h), h⟩⟩

/-- The document of a rule set has the shape of one. -/
theorem hasShape_ofRules (r : RuleSet) (keywords types : List Text) :
    HasShape (ofRules r keywords types) where
  isObject := ⟨_, rfl⟩
  keywords := .texts keywords
  types := .texts types
  comments := .object _
  line := isOptionalText_markValue _
  blockStart := isOptionalText_markValue _
  blockEnd := isOptionalText_markValue _
  quote := isOptionalText_markValue _

/-- A rule set in normal form is what its document describes. -/
theorem describes_ofRules (h : r.IsNormal) (hkeywords : ∀ w, w ∈ keywords ↔ w ∈ r.keywords)
    (htypes : ∀ w, w ∈ types ↔ w ∈ r.types) : Describes (ofRules r keywords types) r where
  keywords w := (hasWord_texts_iff h.nil_notMem_keywords hkeywords).symm
  types w := (hasWord_texts_iff h.nil_notMem_types htypes).symm
  line s := (isMark_markValue_iff h.line_ne_nil).symm
  block a b := by
    have hstart : r.blockComment.map Prod.fst ≠ some [] := by
      intro hnil
      obtain ⟨marks, hmarks, hfst⟩ := Option.map_eq_some_iff.mp hnil
      exact (h.block_ne_nil marks.1 marks.2 hmarks).1 hfst
    have hend : r.blockComment.map Prod.snd ≠ some [] := by
      intro hnil
      obtain ⟨marks, hmarks, hsnd⟩ := Option.map_eq_some_iff.mp hnil
      exact (h.block_ne_nil marks.1 marks.2 hmarks).2 hsnd
    refine Iff.trans ?_ (and_congr (isMark_markValue_iff hstart) (isMark_markValue_iff hend)).symm
    cases r.blockComment with
    | none => simp
    | some marks => simp [Prod.ext_iff]
  quote s := (isMark_markValue_iff h.quote_ne_nil).symm

end Written

/-- A document is read exactly if it has the shape of a rule document, and any other one is refused.
What is read is the rule set that the document describes, with nothing empty in it; members that
rule documents do not know make no difference. And a rule set with nothing empty in it is read from
its document, in whatever order and however often that lists the words. -/
theorem parse_shape :
    (∀ doc, (∃ r, parse doc = .ok r) ↔ HasShape doc) ∧
    (∀ doc, ¬ HasShape doc → ∃ e, parse doc = .error e) ∧
    (∀ doc r, parse doc = .ok r → r.IsNormal ∧ Describes doc r) ∧
    (∀ entries entries', AgreesWith entries entries' →
      parse (.object entries) = parse (.object entries')) ∧
    ∀ r : RuleSet, r.IsNormal → ∀ keywords types : List Text,
      (∀ w, w ∈ keywords ↔ w ∈ r.keywords) → (∀ w, w ∈ types ↔ w ∈ r.types) →
        parse (ofRules r keywords types) = .ok r := by
  have hread {doc : Value} (h : HasShape doc) :
      ∃ r, parse doc = .ok r ∧ r.IsNormal ∧ Describes doc r := by
    obtain ⟨r, hr, hkeywords, htypes, hdescribes⟩ := parse_of_hasShape h
    exact ⟨r, hr, hdescribes.isNormal hkeywords htypes, hdescribes⟩
  refine ⟨fun doc => ⟨?_, fun h => ?_⟩, fun doc h => ?_, fun doc r hr => ?_,
    fun _ _ h => h.parse_eq, fun r hnormal keywords types hkeywords htypes => ?_⟩
  · rintro ⟨r, hr⟩
    exact hasShape_of_parse hr
  · obtain ⟨r, hr, -⟩ := hread h
    exact ⟨r, hr⟩
  · cases hparse : parse doc with
    | ok r => exact absurd (hasShape_of_parse hparse) h
    | error e => exact ⟨e, rfl⟩
  · obtain ⟨r', hr', hnormal, hdescribes⟩ := hread (hasShape_of_parse hr)
    obtain rfl := Except.ok.inj (hr'.symm.trans hr)
    exact ⟨hnormal, hdescribes⟩
  · obtain ⟨r', hr', hnormal', hdescribes⟩ := hread (hasShape_ofRules r keywords types)
    rw [hr', hdescribes.unique (describes_ofRules hnormal hkeywords htypes) hnormal' hnormal]

/-- Half a pair of marks, an empty mark, words that are empty or come twice, a `null` and a member
that nobody knows. -/
theorem parse_shape_half_pair :
    let doc : Value := .object [("types", .null), ("version", .integer 2),
      ("comments", .object [("line", .string []), ("blockStart", .string "/*")]),
      ("keywords", .array ((Text.ofStrings ["val", "", "if", "val"]).map .string))]
    HasShape doc ∧ ∃ r, parse doc = .ok r ∧ r.keywords = Text.ofStrings ["if", "val"] ∧
      r.blockComment = none ∧ r.IsNormal ∧
      parse (ofRules r (Text.ofStrings ["val", "if", "val"]) []) = .ok r := by
  intro doc
  have hshape : HasShape doc :=
    ⟨⟨_, rfl⟩, .texts _, .null, .object _, .text _, .text _, .null, .null⟩
  obtain ⟨r, hr⟩ := (parse_shape.1 doc).mpr hshape
  obtain ⟨hnormal, hdescribes⟩ := parse_shape.2.2.1 doc r hr
  -- Of the four words that are listed, two are left.
  have hleft {a b w : Text} (ha : a ≠ []) (hb : b ≠ []) :
      (w ≠ [] ∧ w ∈ [a, [], b, a]) ↔ w ∈ [b, a] := by grind
  have hkeywords (w : Text) : w ∈ r.keywords ↔ w ∈ Text.ofStrings ["if", "val"] := by
    have hlisted : (doc.field "keywords").HasWord w ↔
        w ≠ [] ∧ w ∈ Text.ofStrings ["val", "", "if", "val"] := hasWord_map_string_iff
    exact ((hdescribes.keywords w).trans hlisted).trans (hleft (by decide) (by decide))
  have htable : Text.IsTable (Text.ofStrings ["if", "val"]) := by
    unfold Text.IsTable
    decide
  refine ⟨hshape, r, hr, hnormal.keywords_table.eq_of_mem_iff htable hkeywords, ?_, hnormal, ?_⟩
  · rw [Option.eq_none_iff_forall_ne_some]
    rintro ⟨a, b⟩ hblock
    exact nomatch ((hdescribes.block a b).mp hblock).2.2
  · refine parse_shape.2.2.2.2 r hnormal _ _ (fun w => ?_) fun w => ⟨nofun, fun hw => ?_⟩
    · rw [hkeywords]
      grind [Text.ofStrings]
    · obtain ⟨-, items, hitems, -⟩ := (hdescribes.types w).mp hw
      cases hitems

end RuleDocument

end SourceEditor

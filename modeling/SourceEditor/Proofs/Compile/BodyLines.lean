import SourceEditor.Compile.Stream
import SourceEditor.Proofs.Text.DecodedPieces
import SourceEditor.Proofs.Text.Trimming

/-!
# Lines of a body

The lines of a reply are cut as bytes and decoded one by one. Because no character can reach beyond
a line feed, also no ill-formed one, the text of the lines is the text of the whole body, and
cutting the text gives the same lines.

* `CutBehindLineFeeds`: bytes and the pieces that end with their line feeds.
* `Text.lines`: the lines of a text.
* `bodyLines_decodeLossy`: the lines of a body are the lines of its text.
-/

namespace SourceEditor

/-- Bytes, cut behind each of their line feeds. -/
inductive CutBehindLineFeeds : Bytes → List Bytes → Prop
  | nil : CutBehindLineFeeds [] []
  /-- The last piece may lack the line feed, but there is something in it. -/
  | last {piece : Bytes} (hne : piece ≠ []) (hpiece : 0x0A ∉ piece) :
      CutBehindLineFeeds piece [piece]
  | line {piece rest : Bytes} {pieces : List Bytes} (hpiece : 0x0A ∉ piece)
      (hrest : CutBehindLineFeeds rest pieces) :
      CutBehindLineFeeds (piece ++ 0x0A :: rest) ((piece ++ [0x0A]) :: pieces)

/-- The bytes of a body are cut behind its line feeds. -/
theorem cutBehindLineFeeds_byteLines (bs : Bytes) : CutBehindLineFeeds bs (byteLines bs) := by
  induction bs with
  | nil => exact .nil
  | cons b bs ih =>
    unfold byteLines
    split
    · next hb =>
      have hnone : 0x0A ∉ ([] : Bytes) := List.not_mem_nil
      rw [hb]
      exact .line hnone ih
    · next hb =>
      generalize byteLines bs = pieces at ih ⊢
      -- The byte comes to the first piece of the rest.
      cases ih with
      | nil => exact .last (by simp) (by simpa using Ne.symm hb)
      | last hne hpiece => exact .last (by simp) (by simp [Ne.symm hb, hpiece])
      | @line piece rest pieces hpiece hrest =>
        have hlonger : 0x0A ∉ b :: piece := by simp [Ne.symm hb, hpiece]
        exact .line hlonger hrest

namespace Text

/-- The lines of a text: what its line feeds separate, without a last one that is empty. -/
def lines (t : Text) : List Text :=
  let parts := t.splitOn (.scalar '\n')
  if parts.getLast? = some [] then parts.dropLast else parts

variable {s : Text}

/-- A text without a line feed is one line. -/
theorem lines_of_notMem (hne : s ≠ []) (hs : .scalar '\n' ∉ s) : lines s = [s] := by
  simp [lines, List.splitOn_eq_singleton hs, hne]

/-- Up to its first line feed, a text is a line, and the rest are lines. -/
theorem lines_append_cons (hs : .scalar '\n' ∉ s) (t : Text) :
    lines (s ++ .scalar '\n' :: t) = s :: lines t := by
  have hsplit :
      (s ++ .scalar '\n' :: t).splitOn (.scalar '\n') = s :: t.splitOn (.scalar '\n') := by
    rw [List.splitOn, List.splitOnP_append_cons _ _ (by simp), ← List.splitOn, ← List.splitOn,
      List.splitOn_eq_singleton hs, List.singleton_append]
  have hne : t.splitOn (.scalar '\n') ≠ [] := List.splitOnP_ne_nil _ _
  unfold lines
  dsimp only
  rw [hsplit, List.getLast?_cons_of_ne_nil hne, List.dropLast_cons_of_ne_nil hne]
  split <;> rfl

end Text

/-! ## Pieces and lines -/

/-- What is dropped from a text is decided by its characters. -/
theorem Text.dropWhile_congr {p q : Character → Bool} {t : Text} (h : ∀ c ∈ t, p c = q c) :
    t.dropWhile p = t.dropWhile q := by
  induction t with
  | nil => rfl
  | cons c t ih =>
    obtain ⟨hc, ht⟩ := List.forall_mem_cons.mp h
    rw [List.dropWhile_cons, List.dropWhile_cons, hc, ih ht]

variable {bs piece : Bytes} {pieces : List Bytes}

/-- At the end of a text without line feeds, line ends are carriage returns. -/
theorem lineText_of_notMem (hpiece : 0x0A ∉ piece) :
    lineText piece = Text.trimEndWhile (· == .scalar '\r') (Utf8.decodeLossy piece) := by
  unfold lineText Text.trimEndWhile
  -- On the characters that there are, being a line end is being a carriage return.
  rw [Text.dropWhile_congr fun c hc => ?_]
  have hne : c ≠ .scalar '\n' := by
    rintro rfl
    exact hpiece (Utf8.newline_mem_decodeLossy_iff.mp (List.mem_reverse.mp hc))
  simp [hne]

/-- The line feed of a line goes first. -/
theorem lineText_concat (piece : Bytes) : lineText (piece ++ [0x0A]) = lineText piece := by
  have htext : Utf8.decodeLossy (piece ++ [0x0A]) = Utf8.decodeLossy piece ++ [.scalar '\n'] :=
    Utf8.decodeLossy_append_newline piece []
  unfold lineText
  rw [htext, Text.trimEndWhile_eq_rdropWhile, List.rdropWhile_concat_pos _ _ _ (by decide)]
  rfl

/-- A piece without a line feed makes a line without one. -/
theorem newline_notMem_lineText (hpiece : 0x0A ∉ piece) : .scalar '\n' ∉ lineText piece := by
  rw [lineText, Text.trimEndWhile_eq_rdropWhile]
  intro h
  exact hpiece (Utf8.newline_mem_decodeLossy_iff.mp ((List.rdropWhile_prefix _ _).mem h))

/-- Bytes never decode to nothing. -/
theorem decodeLossy_ne_nil (h : bs ≠ []) : Utf8.decodeLossy bs ≠ [] := by
  rw [Utf8.decodeLossy, ne_eq, List.map_eq_nil_iff, Utf8.pieces, Utf8.piecesFrom_eq_nil_iff]
  exact fun hnil => h hnil.2

namespace CutBehindLineFeeds

/-- Pieces that end behind line feeds decode to what the whole decodes to. -/
theorem flatMap_decodeLossy (h : CutBehindLineFeeds bs pieces) :
    pieces.flatMap Utf8.decodeLossy = Utf8.decodeLossy bs := by
  induction h with
  | nil => rfl
  | last => simp
  | line _ _ ih =>
    rw [List.flatMap_cons, ih, Utf8.decodeLossy_append_newline, Utf8.decodeLossy_append_newline,
      List.append_assoc]
    rfl

/-- Their texts are the lines of the whole, without carriage returns at their ends. -/
theorem map_lineText (h : CutBehindLineFeeds bs pieces) :
    pieces.map lineText =
      (Text.lines (Utf8.decodeLossy bs)).map (Text.trimEndWhile (· == .scalar '\r')) := by
  have hnewline {piece : Bytes} (hpiece : 0x0A ∉ piece) :
      .scalar '\n' ∉ Utf8.decodeLossy piece :=
    mt Utf8.newline_mem_decodeLossy_iff.mp hpiece
  -- The induction is on the cut: each piece gives the first line of the text that is left.
  induction h with
  | nil => rfl
  | last hne hpiece =>
    rw [Text.lines_of_notMem (decodeLossy_ne_nil hne) (hnewline hpiece), List.map_singleton,
      List.map_singleton, lineText_of_notMem hpiece]
  | line hpiece _ ih =>
    rw [Utf8.decodeLossy_append_newline, Text.lines_append_cons (hnewline hpiece), List.map_cons,
      List.map_cons, ← ih, lineText_concat, lineText_of_notMem hpiece]

/-- None of them holds a line feed. -/
theorem newline_notMem (h : CutBehindLineFeeds bs pieces) :
    ∀ piece ∈ pieces, .scalar '\n' ∉ lineText piece := by
  induction h with
  | nil => simp
  | last _ hpiece => simpa using newline_notMem_lineText hpiece
  | line hpiece _ ih =>
    refine List.forall_mem_cons.mpr ⟨?_, ih⟩
    rw [lineText_concat]
    exact newline_notMem_lineText hpiece

end CutBehindLineFeeds

/-- However bytes are ill-formed, the pieces of a body that end with its line feeds have together
the text of the whole body, and the lines that are read off them are the lines of this text without
the carriage returns at their ends. No line holds a line feed. -/
theorem bodyLines_decodeLossy (body : Bytes) :
    CutBehindLineFeeds body (byteLines body) ∧
    (byteLines body).flatMap Utf8.decodeLossy = Utf8.decodeLossy body ∧
    bodyLines body =
      (Text.lines (Utf8.decodeLossy body)).map (Text.trimEndWhile (· == .scalar '\r')) ∧
    ∀ line ∈ bodyLines body, .scalar '\n' ∉ line := by
  have hcut := cutBehindLineFeeds_byteLines body
  refine ⟨hcut, hcut.flatMap_decodeLossy, hcut.map_lineText, ?_⟩
  simpa [bodyLines] using hcut.newline_notMem

/-- A character that a line feed cuts in two, and a line that ends with a carriage return. -/
example : bodyLines [0xE2, 0x82, 0x0A, 0xAC, 0x0D, 0x0A] = Text.ofStrings ["\uFFFD", "\uFFFD"] := by
  decide

end SourceEditor

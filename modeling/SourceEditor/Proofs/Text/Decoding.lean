import SourceEditor.Proofs.Text.ByteOffsets

/-!
# Decoding UTF-8

The decoder reads just the bytes of characters as characters: where nothing is begun, the next piece
is a character exactly if the bytes go on with the bytes of this character. So decoding and encoding
undo each other.

* `Utf8.utf8EncodeChar_eq_three_iff` and its siblings: the bytes of a character as ranges that each
  byte lies in, together with the code point that they add up to.
* `Utf8.piecesFrom_start_iff`: the decoder reads a character where its bytes stand.
* `Utf8.decode_eq_ok_iff`: bytes are decoded to a text exactly if they are the bytes of the text.
-/

namespace SourceEditor.Utf8

open String (utf8EncodeChar)

/-! ## The bytes of a character

Only one case of the definition has a given number of bytes, and in that case the bytes and the code
point determine each other. -/

/-- The characters of one byte. -/
theorem utf8EncodeChar_eq_one_iff {c : Char} {b : UInt8} :
    utf8EncodeChar c = [b] ↔ b.toNat < 0x80 ∧ c.toNat = b.toNat := by
  have hc : c.val.toNat = c.toNat := rfl
  have hb := b.toNat_lt
  unfold utf8EncodeChar
  simp only [hc]
  split
  · simp only [List.cons.injEq, and_true, ← UInt8.toNat_inj, UInt8.toNat_ofNat']
    omega
  · split
    · simp; omega
    · split <;> simp <;> omega

/-- The characters of two bytes. -/
theorem utf8EncodeChar_eq_two_iff {c : Char} {b x : UInt8} :
    utf8EncodeChar c = [b, x] ↔ (0xC2 ≤ b.toNat ∧ b.toNat < 0xE0) ∧
      (0x80 ≤ x.toNat ∧ x.toNat ≤ 0xBF) ∧
      c.toNat = (b.toNat - 0xC0) * 64 + (x.toNat - 0x80) := by
  have hc : c.val.toNat = c.toNat := rfl
  unfold utf8EncodeChar
  simp only [hc]
  split
  · simp; omega
  · split
    · simp only [List.cons.injEq, and_true, ← UInt8.toNat_inj, UInt8.toNat_ofNat']
      omega
    · split <;> simp <;> omega

/-- The characters of three bytes, among which are no surrogates. -/
theorem utf8EncodeChar_eq_three_iff {c : Char} {b x y : UInt8} :
    utf8EncodeChar c = [b, x, y] ↔ (0xE0 ≤ b.toNat ∧ b.toNat < 0xF0) ∧
      (0x80 ≤ x.toNat ∧ x.toNat ≤ 0xBF) ∧ (b.toNat = 0xE0 → 0xA0 ≤ x.toNat) ∧
      (b.toNat = 0xED → x.toNat ≤ 0x9F) ∧ (0x80 ≤ y.toNat ∧ y.toNat ≤ 0xBF) ∧
      c.toNat = ((b.toNat - 0xE0) * 64 + (x.toNat - 0x80)) * 64 + (y.toNat - 0x80) := by
  have hc : c.val.toNat = c.toNat := rfl
  have hv := Character.toNat_scalar_outside c
  unfold utf8EncodeChar
  simp only [hc]
  split
  · simp; omega
  · split
    · simp; omega
    · split
      · simp only [List.cons.injEq, and_true, ← UInt8.toNat_inj, UInt8.toNat_ofNat']
        omega
      · simp; omega

/-- The characters of four bytes. -/
theorem utf8EncodeChar_eq_four_iff {c : Char} {b x y z : UInt8} :
    utf8EncodeChar c = [b, x, y, z] ↔ (0xF0 ≤ b.toNat ∧ b.toNat < 0xF5) ∧
      (0x80 ≤ x.toNat ∧ x.toNat ≤ 0xBF) ∧ (b.toNat = 0xF0 → 0x90 ≤ x.toNat) ∧
      (b.toNat = 0xF4 → x.toNat ≤ 0x8F) ∧ (0x80 ≤ y.toNat ∧ y.toNat ≤ 0xBF) ∧
      (0x80 ≤ z.toNat ∧ z.toNat ≤ 0xBF) ∧
      c.toNat = (((b.toNat - 0xF0) * 64 + (x.toNat - 0x80)) * 64 + (y.toNat - 0x80)) * 64 +
        (z.toNat - 0x80) := by
  have hc : c.val.toNat = c.toNat := rfl
  have hv : c.toNat < 0x110000 := by
    rcases c.valid with h | h
    · exact Nat.lt_trans h (by decide)
    · exact h.2
  unfold utf8EncodeChar
  simp only [hc]
  split
  · simp; omega
  · split
    · simp; omega
    · split
      · simp; omega
      · simp only [List.cons.injEq, and_true, ← UInt8.toNat_inj, UInt8.toNat_ofNat']
        omega

/-- A character has from one to four bytes. -/
theorem utf8EncodeChar_cases (c : Char) :
    (∃ b, utf8EncodeChar c = [b]) ∨ (∃ b x, utf8EncodeChar c = [b, x]) ∨
      (∃ b x y, utf8EncodeChar c = [b, x, y]) ∨ ∃ b x y z, utf8EncodeChar c = [b, x, y, z] := by
  unfold utf8EncodeChar
  dsimp only
  split
  · exact .inl ⟨_, rfl⟩
  · split
    · exact .inr (.inl ⟨_, _, rfl⟩)
    · split
      · exact .inr (.inr (.inl ⟨_, _, _, rfl⟩))
      · exact .inr (.inr (.inr ⟨_, _, _, _, rfl⟩))

/-! ## One character -/

variable {bs : Bytes} {ps : List Piece} {c : Char} {bits more length : Nat} {least most b : UInt8}

/-- The last byte of a character that is begun. -/
theorem piecesFrom_within_zero :
    piecesFrom (.within bits 0 least most length) bs = .char c :: ps ↔
      ∃ b rest, bs = b :: rest ∧ (least ≤ b ∧ b ≤ most) ∧
        Char.ofNat (bits * 64 + (b.toNat - 0x80)) = c ∧ piecesFrom .start rest = ps := by
  cases bs with
  | nil => simp [piecesFrom, finish]
  | cons b bs =>
    by_cases h : least ≤ b ∧ b ≤ most
    · simp [piecesFrom, step, h, and_assoc]
    · rw [piecesFrom, step, if_neg h]
      constructor
      · intro heq
        cases heq
      · rintro ⟨_, _, hbs, hin, -⟩
        obtain ⟨rfl, rfl⟩ := List.cons.inj hbs
        exact absurd hin h

/-- A byte of a character that is begun, with more of them to come. -/
theorem piecesFrom_within_succ :
    piecesFrom (.within bits (more + 1) least most length) bs = .char c :: ps ↔
      ∃ b rest, bs = b :: rest ∧ (least ≤ b ∧ b ≤ most) ∧
        piecesFrom (.within (bits * 64 + (b.toNat - 0x80)) more 0x80 0xBF (length + 1)) rest =
          .char c :: ps := by
  cases bs with
  | nil => simp [piecesFrom, finish]
  | cons b bs =>
    by_cases h : least ≤ b ∧ b ≤ most
    · simp [piecesFrom, step, h, and_assoc]
    · rw [piecesFrom, step, if_neg h]
      constructor
      · intro heq
        cases heq
      · rintro ⟨_, _, hbs, hin, -⟩
        obtain ⟨rfl, rfl⟩ := List.cons.inj hbs
        exact absurd hin h

/-- A byte that begins a character of two bytes. -/
theorem lead_two (hlow : 0xC2 ≤ b.toNat) (hhigh : b.toNat < 0xE0) :
    lead b = ([], .within (b.toNat - 0xC0) 0 0x80 0xBF 1) := by
  unfold lead
  dsimp only
  rw [if_neg (by omega), if_neg (by omega), if_pos hhigh]

/-- A byte that begins a character of three bytes. -/
theorem exists_lead_three (hlow : 0xE0 ≤ b.toNat) (hhigh : b.toNat < 0xF0) :
    ∃ least most, lead b = ([], .within (b.toNat - 0xE0) 1 least most 1) ∧
      ∀ x : UInt8, least.toNat ≤ x.toNat ∧ x.toNat ≤ most.toNat ↔
        (0x80 ≤ x.toNat ∧ x.toNat ≤ 0xBF) ∧ (b.toNat = 0xE0 → 0xA0 ≤ x.toNat) ∧
          (b.toNat = 0xED → x.toNat ≤ 0x9F) := by
  unfold lead
  dsimp only
  rw [if_neg (by omega), if_neg (by omega), if_neg (by omega)]
  split
  · next h => exact ⟨0xA0, 0xBF, by rw [h], fun x => by simp; omega⟩
  · split
    · next h => exact ⟨0x80, 0x9F, by rw [h], fun x => by simp; omega⟩
    · exact ⟨0x80, 0xBF, rfl, fun x => by simp; omega⟩

/-- A byte that begins a character of four bytes. -/
theorem exists_lead_four (hlow : 0xF0 ≤ b.toNat) (hhigh : b.toNat < 0xF5) :
    ∃ least most, lead b = ([], .within (b.toNat - 0xF0) 2 least most 1) ∧
      ∀ x : UInt8, least.toNat ≤ x.toNat ∧ x.toNat ≤ most.toNat ↔
        (0x80 ≤ x.toNat ∧ x.toNat ≤ 0xBF) ∧ (b.toNat = 0xF0 → 0x90 ≤ x.toNat) ∧
          (b.toNat = 0xF4 → x.toNat ≤ 0x8F) := by
  unfold lead
  dsimp only
  rw [if_neg (by omega), if_neg (by omega), if_neg (by omega), if_neg (by omega),
    if_neg (by omega), if_neg (by omega)]
  split
  · next h => exact ⟨0x90, 0xBF, by rw [h], fun x => by simp; omega⟩
  · split
    · exact ⟨0x80, 0xBF, rfl, fun x => by simp; omega⟩
    · have h : b.toNat = 0xF4 := by omega
      exact ⟨0x80, 0x8F, by rw [h]; rfl, fun x => by simp; omega⟩

/-- A byte that begins no character. -/
theorem lead_stray (h : (0x80 ≤ b.toNat ∧ b.toNat < 0xC2) ∨ 0xF5 ≤ b.toNat) :
    lead b = ([.illFormed 1 true], .start) := by
  have := b.toNat_lt
  unfold lead
  dsimp only
  rcases h with h | h
  · rw [if_neg (by omega), if_pos (by omega)]
  · rw [if_neg (by omega), if_neg (by omega), if_neg (by omega), if_neg (by omega),
      if_neg (by omega), if_neg (by omega), if_neg (by omega), if_neg (by omega), if_neg (by omega)]

/-- A valid number is that of its character. -/
theorem charOfNat_eq_iff {n : Nat} (h : n.isValidChar) : Char.ofNat n = c ↔ c.toNat = n := by
  constructor
  · rintro rfl
    rw [Char.ofNat, dif_pos h]
    rfl
  · rintro rfl
    exact Char.ofNat_toNat c

/-- A byte that begins a character yields nothing by itself. -/
theorem piecesFrom_lead (hb : lead b = ([], .within bits more least most length)) :
    piecesFrom .start (b :: bs) = piecesFrom (.within bits more least most length) bs := by
  rw [piecesFrom, step, hb]
  rfl

/-- A byte of ASCII is decoded alone. -/
theorem piecesFrom_one (hhigh : b.toNat < 0x80) :
    piecesFrom .start (b :: bs) = .char c :: ps ↔
      utf8EncodeChar c = [b] ∧ piecesFrom .start bs = ps := by
  have hlead : lead b = ([.char (Char.ofNat b.toNat)], .start) := if_pos hhigh
  rw [utf8EncodeChar_eq_one_iff, ← charOfNat_eq_iff (by left; omega), piecesFrom, step, hlead]
  simp [hhigh]

/-- A first byte of two is decoded with the one behind it. -/
theorem piecesFrom_two (hlow : 0xC2 ≤ b.toNat) (hhigh : b.toNat < 0xE0) :
    piecesFrom .start (b :: bs) = .char c :: ps ↔
      ∃ x rest, bs = x :: rest ∧ utf8EncodeChar c = [b, x] ∧ piecesFrom .start rest = ps := by
  rw [piecesFrom_lead (lead_two hlow hhigh), piecesFrom_within_zero]
  refine exists_congr fun x => exists_congr fun rest => and_congr_right fun _ => ?_
  rw [← and_assoc, utf8EncodeChar_eq_two_iff]
  refine and_congr_left fun _ => ?_
  simp only [UInt8.le_iff_toNat_le, UInt8.reduceToNat, hlow, hhigh, true_and]
  refine and_congr_right fun hx => charOfNat_eq_iff ?_
  left
  omega

/-- A first byte of three is decoded with the two behind it. -/
theorem piecesFrom_three (hlow : 0xE0 ≤ b.toNat) (hhigh : b.toNat < 0xF0) :
    piecesFrom .start (b :: bs) = .char c :: ps ↔
      ∃ x y rest, bs = x :: y :: rest ∧ utf8EncodeChar c = [b, x, y] ∧
        piecesFrom .start rest = ps := by
  obtain ⟨least, most, hlead, hrange⟩ := exists_lead_three hlow hhigh
  rw [piecesFrom_lead hlead, piecesFrom_within_succ]
  simp only [piecesFrom_within_zero, utf8EncodeChar_eq_three_iff, UInt8.le_iff_toNat_le, hrange,
    UInt8.reduceToNat]
  constructor
  · rintro ⟨x, -, rfl, hx, y, rest, rfl, hy, hc, hrest⟩
    -- The range of the second byte leaves out the surrogates.
    rw [charOfNat_eq_iff (by simp only [Nat.isValidChar]; omega)] at hc
    exact ⟨x, y, rest, rfl, ⟨⟨hlow, hhigh⟩, hx.1, hx.2.1, hx.2.2, hy, hc⟩, hrest⟩
  · rintro ⟨x, y, rest, rfl, ⟨-, hx, hxl, hxh, hy, hc⟩, hrest⟩
    refine ⟨x, _, rfl, ⟨hx, hxl, hxh⟩, y, rest, rfl, hy, ?_, hrest⟩
    rwa [charOfNat_eq_iff (by simp only [Nat.isValidChar]; omega)]

/-- A first byte of four is decoded with the three behind it. -/
theorem piecesFrom_four (hlow : 0xF0 ≤ b.toNat) (hhigh : b.toNat < 0xF5) :
    piecesFrom .start (b :: bs) = .char c :: ps ↔
      ∃ x y z rest, bs = x :: y :: z :: rest ∧ utf8EncodeChar c = [b, x, y, z] ∧
        piecesFrom .start rest = ps := by
  obtain ⟨least, most, hlead, hrange⟩ := exists_lead_four hlow hhigh
  rw [piecesFrom_lead hlead, piecesFrom_within_succ]
  simp only [piecesFrom_within_succ, piecesFrom_within_zero, utf8EncodeChar_eq_four_iff,
    UInt8.le_iff_toNat_le, hrange, UInt8.reduceToNat]
  constructor
  · rintro ⟨x, -, rfl, hx, y, -, rfl, hy, z, rest, rfl, hz, hc, hrest⟩
    -- It also leaves out everything behind the last code point.
    rw [charOfNat_eq_iff (by right; omega)] at hc
    exact ⟨x, y, z, rest, rfl, ⟨⟨hlow, hhigh⟩, hx.1, hx.2.1, hx.2.2, hy, hz, hc⟩, hrest⟩
  · rintro ⟨x, y, z, rest, rfl, ⟨-, hx, hxl, hxh, hy, hz, hc⟩, hrest⟩
    refine ⟨x, _, rfl, ⟨hx, hxl, hxh⟩, y, _, rfl, hy, z, rest, rfl, hz, ?_, hrest⟩
    rwa [charOfNat_eq_iff (by right; omega)]

/-- A character is read exactly if the bytes begin with its bytes. -/
theorem piecesFrom_start_iff :
    piecesFrom .start bs = .char c :: ps ↔
      ∃ rest, bs = utf8EncodeChar c ++ rest ∧ piecesFrom .start rest = ps := by
  constructor
  · intro h
    cases bs with
    | nil => cases h
    | cons b bs =>
      -- The first byte tells how many bytes there are.
      by_cases hone : b.toNat < 0x80
      · obtain ⟨hc, hrest⟩ := (piecesFrom_one hone).mp h
        exact ⟨bs, by rw [hc]; rfl, hrest⟩
      by_cases hstray : b.toNat < 0xC2 ∨ 0xF5 ≤ b.toNat
      · have hlead := lead_stray (b := b) (by omega)
        rw [piecesFrom, step, hlead] at h
        cases h
      by_cases htwo : b.toNat < 0xE0
      · obtain ⟨x, rest, rfl, hc, hrest⟩ := (piecesFrom_two (by omega) htwo).mp h
        exact ⟨rest, by rw [hc]; rfl, hrest⟩
      by_cases hthree : b.toNat < 0xF0
      · obtain ⟨x, y, rest, rfl, hc, hrest⟩ := (piecesFrom_three (by omega) hthree).mp h
        exact ⟨rest, by rw [hc]; rfl, hrest⟩
      · obtain ⟨x, y, z, rest, rfl, hc, hrest⟩ := (piecesFrom_four (by omega) (by omega)).mp h
        exact ⟨rest, by rw [hc]; rfl, hrest⟩
  · rintro ⟨rest, rfl, hrest⟩
    obtain ⟨b, hc⟩ | ⟨b, x, hc⟩ | ⟨b, x, y, hc⟩ | ⟨b, x, y, z, hc⟩ := utf8EncodeChar_cases c
    · have hb := utf8EncodeChar_eq_one_iff.mp hc
      rw [hc]
      exact (piecesFrom_one hb.1).mpr ⟨hc, hrest⟩
    · have hb := utf8EncodeChar_eq_two_iff.mp hc
      rw [hc]
      exact (piecesFrom_two hb.1.1 hb.1.2).mpr ⟨x, rest, rfl, hc, hrest⟩
    · have hb := utf8EncodeChar_eq_three_iff.mp hc
      rw [hc]
      exact (piecesFrom_three hb.1.1 hb.1.2).mpr ⟨x, y, rest, rfl, hc, hrest⟩
    · have hb := utf8EncodeChar_eq_four_iff.mp hc
      rw [hc]
      exact (piecesFrom_four hb.1.1 hb.1.2).mpr ⟨x, y, z, rest, rfl, hc, hrest⟩

/-- The bytes of a character are decoded to it. -/
theorem piecesFrom_utf8EncodeChar_append (c : Char) (rest : Bytes) :
    piecesFrom .start (utf8EncodeChar c ++ rest) = .char c :: piecesFrom .start rest :=
  piecesFrom_start_iff.mpr ⟨rest, rfl, rfl⟩

/-! ## Whole texts -/

/-- After a first byte that is none alone, more are to come. -/
theorem snd_lead_ne_start (h : (lead b).1 = []) : (lead b).2 ≠ .start := by
  revert h
  unfold lead
  dsimp only
  split_ifs <;> simp

/-- So it is after any byte that decodes to nothing yet. -/
theorem snd_step_ne_start {s : State} (h : (step s b).1 = []) : (step s b).2 ≠ .start := by
  cases s with
  | start => exact snd_lead_ne_start h
  | within bits more least most length =>
    by_cases hin : least ≤ b ∧ b ≤ most
    · cases more with
      | zero => simp [step, hin] at h
      | succ more => simp [step, hin]
    · simp [step, hin] at h

/-- Every byte leaves its trace among the pieces. -/
theorem piecesFrom_eq_nil_iff {s : State} : piecesFrom s bs = [] ↔ s = .start ∧ bs = [] := by
  induction bs generalizing s with
  | nil => cases s <;> simp [piecesFrom, finish]
  | cons b bs ih =>
    -- A byte that yields no piece leaves something begun, which the end of the input will yield.
    have hpieces : piecesFrom s (b :: bs) = (step s b).1 ++ piecesFrom (step s b).2 bs := rfl
    rw [hpieces, List.append_eq_nil_iff, ih]
    constructor
    · rintro ⟨hnone, hstart, -⟩
      exact absurd hstart (snd_step_ne_start hnone)
    · rintro ⟨-, hnil⟩
      cases hnil

/-- The pieces are characters and nothing else just for the bytes of these characters. -/
theorem pieces_eq_map_char_iff {cs : List Char} :
    piecesFrom .start bs = cs.map .char ↔ bs = cs.flatMap utf8EncodeChar := by
  induction cs generalizing bs with
  | nil => simp [piecesFrom_eq_nil_iff]
  | cons c cs ih =>
    rw [List.map_cons, piecesFrom_start_iff, List.flatMap_cons]
    constructor
    · rintro ⟨rest, rfl, hrest⟩
      rw [ih.mp hrest]
    · rintro rfl
      exact ⟨_, rfl, ih.mpr rfl⟩

/-- Pieces make a text exactly if all of them are characters. -/
theorem textOfPieces_eq_ok_iff {position : Nat} {t : Text} :
    textOfPieces position bs ps = .ok t ↔
      ∃ cs : List Char, ps = cs.map .char ∧ t = .ofChars cs := by
  induction ps generalizing position bs t with
  | nil => simp [textOfPieces, Text.ofChars, eq_comm]
  | cons p ps ih =>
    -- A text comes of characters alone: the first piece that is none ends the decoding.
    cases p with
    | char c =>
      rw [textOfPieces]
      constructor
      · intro h
        cases hrest : textOfPieces (position + c.utf8Size) (bs.drop c.utf8Size) ps with
        | error e => rw [hrest] at h; cases h
        | ok t' =>
          rw [hrest] at h
          obtain ⟨cs, rfl, rfl⟩ := ih.mp hrest
          cases h
          exact ⟨c :: cs, rfl, rfl⟩
      · rintro ⟨cs, hcs, rfl⟩
        cases cs with
        | nil => cases hcs
        | cons c' cs =>
          cases hcs
          rw [ih.mpr ⟨cs, rfl, rfl⟩]
          rfl
    | illFormed length stray =>
      constructor
      · intro h
        cases h
      · rintro ⟨cs, hcs, -⟩
        cases cs <;> cases hcs

/-- The texts that have a form in UTF-8 are those of scalar values. -/
theorem isEncodable_iff {t : Text} : isEncodable t = true ↔ ∃ cs, t = Text.ofChars cs := by
  constructor
  · intro h
    induction t with
    | nil => exact ⟨[], rfl⟩
    | cons c t ih =>
      rw [isEncodable, List.all_cons, Bool.and_eq_true] at h
      obtain ⟨cs, rfl⟩ := ih h.2
      cases c with
      | scalar c => exact ⟨c :: cs, rfl⟩
      | surrogate index => exact absurd h.1 Bool.false_ne_true
  · rintro ⟨cs, rfl⟩
    simp [isEncodable, Text.ofChars, Character.isSurrogate]

/-- The bytes of some characters are those of each. -/
theorem encode_ofChars (cs : List Char) : encode (.ofChars cs) = cs.flatMap utf8EncodeChar :=
  List.flatMap_map ..

/-- Bytes are read as a text exactly if they are the bytes of the text. -/
theorem decode_eq_ok_iff {t : Text} :
    decode bs = .ok t ↔ isEncodable t = true ∧ encode t = bs := by
  rw [decode, textOfPieces_eq_ok_iff, isEncodable_iff]
  constructor
  · rintro ⟨cs, hpieces, rfl⟩
    exact ⟨⟨cs, rfl⟩, (encode_ofChars cs).trans (pieces_eq_map_char_iff.mp hpieces).symm⟩
  · rintro ⟨⟨cs, rfl⟩, rfl⟩
    exact ⟨cs, pieces_eq_map_char_iff.mpr (encode_ofChars cs), rfl⟩

end SourceEditor.Utf8

import SourceEditor.Proofs.Text.Decoding

/-!
# Decoding piece by piece

A byte of ASCII never belongs to a longer character: it ends whatever is begun, stands for itself,
and leaves nothing begun behind it. So bytes may be cut behind it, and the parts be decoded one by
one, whether they are well-formed or not.

* `Utf8.State.TakesNoAscii`: what the decoder can have begun.
* `Utf8.decodeLossy_append_cons`: the text of bytes with a byte of ASCII between them.
* `Utf8.newline_mem_decodeLossy_iff`: line feeds come from the bytes of line feeds alone.
-/

namespace SourceEditor.Utf8

/-- What is begun goes on with bytes beyond ASCII only, and makes a character beyond ASCII: the bits
so far, with the least byte that may follow, amount to one. -/
def State.TakesNoAscii : State → Prop
  | .start => True
  | .within bits more least _ _ =>
    0x80 ≤ least.toNat ∧ (if more = 0 then 0x80 else 2) ≤ bits * 64 + (least.toNat - 0x80)

variable {s : State} {b : UInt8}

/-- So it is behind the first byte of a character. -/
theorem takesNoAscii_lead (b : UInt8) : (lead b).2.TakesNoAscii := by
  unfold lead
  dsimp only
  split_ifs <;> simp [State.TakesNoAscii] <;> omega

/-- No step leads to where a byte of ASCII is taken as a part of something. -/
theorem State.TakesNoAscii.step (hs : s.TakesNoAscii) (b : UInt8) :
    (Utf8.step s b).2.TakesNoAscii := by
  cases s with
  | start => exact takesNoAscii_lead b
  | within bits more least most length =>
    obtain ⟨hleast, hbits⟩ := hs
    unfold Utf8.step
    dsimp only
    split
    · next hin =>
      have hb := UInt8.le_iff_toNat_le.mp hin.1
      cases more with
      | zero => trivial
      | succ more =>
        rw [if_neg (Nat.succ_ne_zero more)] at hbits
        -- Six more bits make enough of what there is.
        have henough : (if more = 0 then 0x80 else 2) ≤ (bits * 64 + (b.toNat - 0x80)) * 64 := by
          split <;> omega
        exact ⟨by decide, by simpa using henough⟩
    · exact takesNoAscii_lead b

/-- A byte of ASCII ends what is begun and stands for itself. -/
theorem step_ascii (hs : s.TakesNoAscii) (hb : b.toNat < 0x80) :
    step s b = (finish s ++ [.char (Char.ofNat b.toNat)], .start) := by
  have hlead : lead b = ([.char (Char.ofNat b.toNat)], .start) := if_pos hb
  cases s with
  | start => exact hlead
  | within bits more least most length =>
    have hout : ¬ (least ≤ b ∧ b ≤ most) := by
      rw [UInt8.le_iff_toNat_le]
      have hleast := hs.1
      omega
    rw [step, if_neg hout, hlead]
    rfl

/-- A byte of ASCII ends what was begun before it, and stands for itself. -/
theorem piecesFrom_append_cons (hs : s.TakesNoAscii) (hb : b.toNat < 0x80) (xs ys : Bytes) :
    piecesFrom s (xs ++ b :: ys) =
      piecesFrom s xs ++ .char (Char.ofNat b.toNat) :: piecesFrom .start ys := by
  -- Whatever the bytes before leave begun, the invariant carries it to the byte of ASCII.
  induction xs generalizing s with
  | nil => simp [piecesFrom, step_ascii hs hb]
  | cons x xs ih => simp [piecesFrom, ih (hs.step x)]

/-- Bytes on both sides of a byte of ASCII are decoded as if they stood alone. -/
theorem decodeLossy_append_cons (hb : b.toNat < 0x80) (xs ys : Bytes) :
    decodeLossy (xs ++ b :: ys) =
      decodeLossy xs ++ .scalar (Char.ofNat b.toNat) :: decodeLossy ys := by
  rw [decodeLossy, pieces, piecesFrom_append_cons (s := .start) trivial hb, List.map_append,
    List.map_cons]
  rfl

/-! ## Line feeds -/

/-- A line feed stands for itself among any bytes. -/
theorem decodeLossy_append_newline (xs ys : Bytes) :
    decodeLossy (xs ++ 0x0A :: ys) = decodeLossy xs ++ .scalar '\n' :: decodeLossy ys :=
  decodeLossy_append_cons (by decide) xs ys

/-- A first byte is a character if it is one of ASCII. -/
theorem char_mem_lead_iff {c : Char} :
    .char c ∈ (lead b).1 ↔ b.toNat < 0x80 ∧ c = Char.ofNat b.toNat := by
  unfold lead
  dsimp only
  split_ifs <;> simp_all

/-- Beyond ASCII there is no line feed. -/
theorem ofNat_ne_newline {n : Nat} (h : 0x80 ≤ n) : Char.ofNat n ≠ '\n' := by
  intro heq
  by_cases hvalid : n.isValidChar
  · have hcode : 10 = n := (charOfNat_eq_iff hvalid).mp heq
    omega
  · rw [Char.ofNat, dif_neg hvalid] at heq
    revert heq
    decide

/-- A byte that completes a longer character makes no line feed. -/
theorem eq_newline_of_mem_step (hs : s.TakesNoAscii) (h : .char '\n' ∈ (step s b).1) :
    b = 0x0A := by
  have hlead (h : .char '\n' ∈ (lead b).1) : b = 0x0A := by
    obtain ⟨hb, hchar⟩ := char_mem_lead_iff.mp h
    have hcode := (charOfNat_eq_iff (.inl (by omega))).mp hchar.symm
    exact UInt8.toNat_inj.mp hcode.symm
  cases s with
  | start => exact hlead h
  | within bits more least most length =>
    unfold step at h
    dsimp only at h
    split at h
    · next hin =>
      have hb := UInt8.le_iff_toNat_le.mp hin.1
      cases more with
      | zero =>
        -- The character is complete, and its bits are beyond ASCII.
        have hbits := hs.2
        rw [if_pos rfl] at hbits
        refine absurd ?_ (ofNat_ne_newline (n := bits * 64 + (b.toNat - 0x80)) (by omega))
        simpa [eq_comm] using h
      | succ more => simp at h
    · exact hlead (by simpa using h)

/-- A line feed is decoded from one only. -/
theorem newline_mem_of_mem_piecesFrom {bs : Bytes} (hs : s.TakesNoAscii)
    (h : .char '\n' ∈ piecesFrom s bs) : 0x0A ∈ bs := by
  induction bs generalizing s with
  | nil => cases s <;> simp [piecesFrom, finish] at h
  | cons b bs ih =>
    rcases List.mem_append.mp h with hfirst | hrest
    · rw [eq_newline_of_mem_step hs hfirst]
      exact List.mem_cons_self
    · exact List.mem_cons_of_mem _ (ih (hs.step b) hrest)

/-- A line feed in the text stands for the byte of a line feed. -/
theorem newline_mem_decodeLossy_iff {bs : Bytes} :
    .scalar '\n' ∈ decodeLossy bs ↔ 0x0A ∈ bs := by
  constructor
  · intro h
    obtain ⟨piece, hpiece, hshown⟩ := List.mem_map.mp h
    cases piece with
    | char c =>
      obtain rfl := Character.scalar.inj hshown
      exact newline_mem_of_mem_piecesFrom (s := .start) trivial hpiece
    | illFormed length stray => cases hshown
  · intro h
    obtain ⟨xs, ys, rfl⟩ := List.append_of_mem h
    rw [decodeLossy_append_newline]
    simp

end SourceEditor.Utf8

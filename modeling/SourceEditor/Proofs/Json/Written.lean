import SourceEditor.Json.Writer
import SourceEditor.Proofs.Json.Completeness

/-!
# Written documents

What the writer makes of texts and objects is spelled by the grammar, so that it is read back as it
was. Texts are those of scalar values: a lone surrogate that is written next to another one may come
back as a pair.

* `isUnit_escapeUnit`: escapes.
* `isBody_written`: texts.
* `spells_written_object`: objects, given their values.
-/

namespace SourceEditor.Json

/-! ## Texts -/

/-- A hexadecimal digit has the value that it is written for. -/
theorem hexValue?_hexDigit {n : Nat} (h : n < 16) : hexValue? (hexDigit n) = some n := by
  have hall : ∀ n < 16, hexValue? (hexDigit n) = some n := by decide
  exact hall n h

/-- An escape gives its 16-bit unit back. -/
theorem isUnit_escapeUnit {u : Nat} (h : u < 65536) : IsUnit (escapeUnit u) u := by
  have hunit : unit? [hexDigit (u / 4096 % 16), hexDigit (u / 256 % 16), hexDigit (u / 16 % 16),
      hexDigit (u % 16)] = some u := by
    simp only [unit?, hexValue?_hexDigit (Nat.mod_lt _ (by decide : 16 > 0)), Option.bind_eq_bind,
      Option.bind_some, Option.pure_def, Option.some.injEq]
    omega
  exact ⟨hunit⟩

/-- The escapes of a scalar value spell it. -/
theorem IsBody.escapeCode {c : Char} {body s : Text} (hbody : IsBody body s) :
    IsBody (escapeCode c.toNat ++ body) (.scalar c :: s) := by
  have hself : Character.ofNat c.toNat = .scalar c := Character.ofNat_toNat (.scalar c)
  have houtside := Character.toNat_scalar_outside c
  unfold Json.escapeCode
  split
  · next h =>
    -- One escape is enough, and a scalar value is no half of a pair.
    rw [← hself]
    refine .unit (isUnit_escapeUnit h) (fun hhigh => ?_) hbody
    simp only [isHighSurrogate, Bool.and_eq_true, decide_eq_true_eq] at hhigh
    omega
  · next h =>
    -- The two halves hold ten bits each of what lies beyond U+FFFF.
    have hlt : c.toNat < 0x110000 := by
      have hvalid := c.valid
      simp only [UInt32.isValidChar, Nat.isValidChar] at hvalid
      change c.val.toNat < 0x110000
      omega
    have hpair : characterOfPair (0xD800 + (c.toNat - 0x10000) / 0x400)
        (0xDC00 + (c.toNat - 0x10000) % 0x400) = .scalar c := by
      have hcode : 0x10000 + (0xD800 + (c.toNat - 0x10000) / 0x400 - 0xD800) * 0x400 +
          (0xDC00 + (c.toNat - 0x10000) % 0x400 - 0xDC00) = c.toNat := by omega
      rw [characterOfPair, hcode, hself]
    rw [← hpair, List.append_assoc]
    refine .pair (isUnit_escapeUnit (by omega)) (isUnit_escapeUnit (by omega)) ?_ ?_ hbody
    · simp only [isHighSurrogate, Bool.and_eq_true, decide_eq_true_eq]
      omega
    · simp only [isLowSurrogate, Bool.and_eq_true, decide_eq_true_eq]
      omega

/-- A written scalar value spells itself. -/
theorem IsBody.writeCharacter {c : Char} {body s : Text} (hbody : IsBody body s) :
    IsBody (writeCharacter c ++ body) (.scalar c :: s) := by
  unfold Json.writeCharacter
  split
  · next h => rw [h]; exact .letter rfl hbody
  split
  · next h => rw [h]; exact .letter rfl hbody
  split
  · next h => rw [h]; exact .letter rfl hbody
  split
  · next h => rw [h]; exact .letter rfl hbody
  split
  · next h => rw [h]; exact .letter rfl hbody
  split
  · next h => rw [h]; exact .letter rfl hbody
  split
  · next h => rw [h]; exact .letter rfl hbody
  split
  · next hquote hback _ _ _ _ _ hvisible => exact .plain hquote hback hvisible.1 hbody
  · exact hbody.escapeCode

/-- Written characters stand for themselves between quotes. -/
theorem isBody_written (cs : List Char) :
    IsBody ((Text.ofChars cs).flatMap writeCharacter) (.ofChars cs) := by
  induction cs with
  | nil => exact .nil
  | cons c cs ih => exact ih.writeCharacter

/-- A written text is a value. -/
theorem spells_writeString {s : Text} {cs : List Char} (hs : s = .ofChars cs) (room : Nat) :
    Spells room (writeString s) (.value (.string s)) := by
  subst hs
  exact .string (isBody_written cs)

/-! ## Objects -/

section Objects

variable {l : Layout} {level room : Nat}

/-- Nothing is white space. -/
theorem isSpaces_nil : IsSpaces [] :=
  fun _ hc => absurd hc List.not_mem_nil

/-- So is a blank. -/
theorem isSpaces_space : IsSpaces [.scalar ' '] := by
  rintro c (_ | ⟨_, ⟨⟩⟩)
  rfl

/-- The line break before a part is white space. -/
theorem isSpaces_break (l : Layout) (level : Nat) : IsSpaces (l.break level) := by
  unfold Layout.break
  cases l.indent? with
  | none => exact isSpaces_nil
  | some n =>
    rintro c (_ | ⟨_, hc⟩)
    · rfl
    · rw [List.eq_of_mem_replicate hc]
      rfl

/-- So is what a layout puts behind a comma. -/
theorem isSpaces_afterComma (l : Layout) (level : Nat) : IsSpaces (l.afterComma level) := by
  unfold Layout.afterComma
  cases l.indent? with
  | none => exact isSpaces_space
  | some n => exact isSpaces_break l level

/-- A written entry of an object: its key is of scalar values, and its value is spelled. -/
def IsWritten (l : Layout) (level room : Nat) (entry : Text × Value) : Prop :=
  (∃ cs, entry.1 = .ofChars cs) ∧ Spells room (writeAt l level entry.2) (.value entry.2)

/-- A written key is the name of a member. -/
theorem isName_writeString {k : Text} (hk : ∃ cs, k = .ofChars cs) :
    IsName (writeString k ++ ": ") k := by
  obtain ⟨cs, rfl⟩ := hk
  exact .mk (isBody_written cs) (.mk isSpaces_nil isSpaces_space)

/-- Written entries spell members, with white space behind the last one. -/
theorem spells_writeEntries {space : Text} (hspace : IsSpaces space) (entry : Text × Value)
    (es : Entries) (h : ∀ e ∈ entry :: es, IsWritten l level room e) :
    Spells room (writeString entry.1 ++ ": " ++ (writeAt l level entry.2 ++
      (writeEntries l level es ++ space))) (.members (entry :: es)) := by
  induction es generalizing entry with
  | nil =>
    obtain ⟨hkey, hvalue⟩ := h entry List.mem_cons_self
    exact .lastMember (isName_writeString hkey) hvalue hspace
  | cons next es ih =>
    obtain ⟨hkey, hvalue⟩ := h entry List.mem_cons_self
    have hcomma : IsMark ',' (.scalar ',' :: l.afterComma level) :=
      .mk isSpaces_nil (isSpaces_afterComma l level)
    have hmore := ih next fun e he => h e (List.mem_cons_of_mem _ he)
    have hspells := Spells.member (isName_writeString hkey) hvalue hcomma hmore
    simpa [writeEntries, Text.ofChars] using hspells

/-- A written object is a value. -/
theorem spells_written_object (es : Entries) (hkeys : es.keys.Nodup)
    (h : ∀ e ∈ es, IsWritten l (level + 1) room e) :
    Spells (room + 1) (writeAt l level (.object es)) (.value (.object es)) := by
  cases es with
  | nil => exact .emptyObject isSpaces_nil
  | cons entry es =>
    have hmembers := spells_writeEntries (isSpaces_break l level) entry es h
    have hobject := Spells.object (isSpaces_break l (level + 1)) hmembers
    rw [Entries.insertAll_of_nodup hkeys] at hobject
    simpa [writeAt, enclosed, Text.ofChars] using hobject

/-- A written object stands between braces. -/
theorem exists_write_object_eq (l : Layout) (es : Entries) :
    ∃ t, write l (.object es) = enclosed '{' '}' t := by
  cases es with
  | nil => exact ⟨[], rfl⟩
  | cons entry es => exact ⟨_, rfl⟩

/-- A written object is a document. -/
theorem isDocument_write_object (l : Layout) {es : Entries} (hkeys : es.keys.Nodup)
    (h : ∀ e ∈ es, IsWritten l 1 room e) :
    IsDocument (room + 1) (write l (.object es)) (.object es) := by
  obtain ⟨t, ht⟩ := exists_write_object_eq l es
  rw [isDocument_iff_spells]
  · exact spells_written_object es hkeys h
  · rw [ht]
    rintro c ⟨⟩
    rfl
  · rw [ht, enclosed, ← List.cons_append, List.getLast?_concat]
    rintro c ⟨⟩
    rfl

end Objects

end SourceEditor.Json

/-!
# Characters

A character of a text is a Unicode scalar value, or one half of a surrogate pair that came without
the other half. The escapes of JSON can write such halves, so texts have to hold them, although no
bytes in UTF-8 do.

* `Character.toNat` is the code point of a character, and `Character.ofNat` the character of a code
  point; each undoes the other.
-/

namespace SourceEditor

/-- A character of a text. -/
inductive Character
  /-- A Unicode scalar value. -/
  | scalar (c : Char)
  /-- A lone surrogate, by its place in the range from U+D800 to U+DFFF. -/
  | surrogate (index : Fin 0x800)
  deriving DecidableEq, Repr

/-- A character literal is a character of a text. -/
instance : Coe Char Character where
  coe := .scalar

namespace Character

/-- The code point of a character. -/
def toNat : Character → Nat
  | .scalar c => c.toNat
  | .surrogate index => 0xD800 + index

/-- The character of a code point. Numbers that are no code point give the character of zero. -/
def ofNat (n : Nat) : Character :=
  if h : 0xD800 ≤ n ∧ n < 0xE000 then .surrogate ⟨n - 0xD800, by omega⟩ else .scalar (Char.ofNat n)

/-- Whether a character is a lone surrogate. -/
def isSurrogate : Character → Bool
  | .scalar _ => false
  | .surrogate _ => true

/-- A scalar value lies outside the range of surrogates. -/
theorem toNat_scalar_outside (c : Char) : ¬ (0xD800 ≤ c.toNat ∧ c.toNat < 0xE000) := by
  have h := c.valid
  simp only [UInt32.isValidChar, Nat.isValidChar] at h
  show ¬ (0xD800 ≤ c.val.toNat ∧ c.val.toNat < 0xE000)
  omega

/-- A character is the one of its code point. -/
@[simp]
theorem ofNat_toNat (c : Character) : ofNat c.toNat = c := by
  cases c with
  | scalar c => simp [ofNat, toNat, toNat_scalar_outside]
  | surrogate index =>
    have h := index.isLt
    simp [ofNat, toNat, show 0xD800 + index.val < 0xE000 by omega]

/-- Different characters have different code points. -/
theorem toNat_injective {c d : Character} (h : c.toNat = d.toNat) : c = d := by
  rw [← ofNat_toNat c, h, ofNat_toNat]

end Character

end SourceEditor

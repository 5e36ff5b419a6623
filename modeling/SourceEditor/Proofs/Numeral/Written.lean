import SourceEditor.Numeral.Integer
import SourceEditor.Proofs.Text.Trimming

/-!
# Written integers

An integer that is written in decimal notation is read back, unless it has more digits than a
numeral may have.

* `Numeral.valueOf_toDigits`: the value of the digits of a number.
* `Numeral.readNat_ofNat`, `Numeral.readInt_ofInt`: numbers, written and read.
-/

namespace SourceEditor.Numeral

/-- What holds of all ten digits holds of those of a number. -/
theorem forall_mem_toDigits {P : Char → Prop} (h : ∀ d < 10, P (Nat.digitChar d)) (n : Nat) :
    ∀ c ∈ Nat.toDigits 10 n, P c := by
  induction n using Nat.strongRecOn with
  | ind n ih =>
    rw [Nat.toDigits_eq_if (by decide)]
    split
    · next hlow => simpa using h n hlow
    · next hhigh =>
      refine List.forall_mem_append.mpr ⟨ih (n / 10) (by omega), ?_⟩
      simpa using h (n % 10) (Nat.mod_lt n (by decide))

/-- The place value of a digit of a number. -/
def placeValue (c : Char) : Nat :=
  c.toNat - '0'.toNat

theorem valueOf_toDigits (n : Nat) : valueOf ((Nat.toDigits 10 n).map placeValue) = n := by
  rw [valueOf, List.foldl_map]
  exact Nat.ofDigitChars_toDigits (by decide) (by decide)

/-- A digit is read as its place value. -/
def IsRead (c : Char) : Prop :=
  c ≠ '_' ∧ Character.decimalValue? (.scalar c) = some (placeValue c)

theorem isRead_of_mem_toDigits {n : Nat} : ∀ c ∈ Nat.toDigits 10 n, IsRead c :=
  forall_mem_toDigits (by unfold IsRead; decide) n

theorem moreDigits?_ofChars {cs : List Char} (h : ∀ c ∈ cs, IsRead c) :
    moreDigits? (.ofChars cs) = some (cs.map placeValue) := by
  induction cs with
  | nil => rfl
  | cons c cs ih =>
    obtain ⟨⟨hscore, hc⟩, hcs⟩ := List.forall_mem_cons.mp h
    have hnot : Character.scalar c ≠ '_' := fun heq => hscore (Character.scalar.inj heq)
    have hmore : moreDigits? (.ofChars (c :: cs)) = do
        let d ← Character.decimalValue? (.scalar c)
        return d :: (← moreDigits? (.ofChars cs)) := by
      rw [Text.ofChars, List.map_cons, moreDigits?.eq_3 _ _ fun _ _ heq => absurd heq hnot]
      rfl
    rw [hmore, hc, ih hcs]
    rfl

theorem digits?_ofNat (n : Nat) :
    digits? (ofNat n) = some ((Nat.toDigits 10 n).map placeValue) := by
  have hread : ∀ c ∈ Nat.toDigits 10 n, IsRead c := isRead_of_mem_toDigits
  rw [ofNat]
  cases hdigits : Nat.toDigits 10 n with
  | nil => exact absurd hdigits Nat.toDigits_ne_nil
  | cons c cs =>
    rw [hdigits] at hread
    obtain ⟨hc, hcs⟩ := List.forall_mem_cons.mp hread
    have hmore : moreDigits? (cs.map .scalar) = some (cs.map placeValue) := moreDigits?_ofChars hcs
    rw [Text.ofChars, List.map_cons, digits?, hc.2, hmore]
    rfl

/-- A natural number is read back. -/
theorem readNat_ofNat {n : Nat} (h : (Nat.toDigits 10 n).length ≤ digitLimit) :
    readNat (ofNat n) = .ok n := by
  rw [readNat, digits?_ofNat]
  dsimp only
  rw [ofPlaceValues, List.length_map, if_pos h, valueOf_toDigits]

/-- The characters of a number are neither signs nor anything that may surround a numeral. -/
theorem forall_mem_ofNat (n : Nat) :
    ∀ c ∈ ofNat n, isMargin c = false ∧ c ≠ '-' ∧ c ≠ '+' := by
  rw [ofNat, Text.ofChars, List.forall_mem_map]
  exact forall_mem_toDigits (by decide) n

theorem trimWhile_ofInt (n : Int) : Text.trimWhile isMargin (ofInt n) = ofInt n := by
  refine Text.trimWhile_eq_self fun c hc => ?_
  cases n with
  | ofNat n => exact (forall_mem_ofNat n c hc).1
  | negSucc n =>
    rcases List.mem_cons.mp hc with rfl | hc
    · decide
    · exact (forall_mem_ofNat (n + 1) c hc).1

/-- An integer is read back. -/
theorem readInt_ofInt {n : Int} (h : (Nat.toDigits 10 n.natAbs).length ≤ digitLimit) :
    readInt (ofInt n) = .ok n := by
  rw [readInt, trimWhile_ofInt]
  cases n with
  | ofNat n =>
    have hread : readNat (ofNat n) = .ok n := readNat_ofNat h
    -- No sign stands before the digits.
    have hunsigned (sign : Character) (rest : Text) (heq : ofNat n = sign :: rest) :
        sign ≠ '-' ∧ sign ≠ '+' :=
      (forall_mem_ofNat n sign (heq ▸ List.mem_cons_self)).2
    split
    · next heq => exact absurd rfl (hunsigned _ _ heq).1
    · next heq => exact absurd rfl (hunsigned _ _ heq).2
    · rw [ofInt, hread]
      rfl
  | negSucc n =>
    have hread : readNat (ofNat (n + 1)) = .ok (n + 1) := readNat_ofNat h
    simp only [ofInt, hread]
    rfl

end SourceEditor.Numeral

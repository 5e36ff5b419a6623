import SourceEditor.Character.LetterCase
import SourceEditor.Proofs.Character.Classes

/-!
# Letter case and words

Letters that stand for each other without regard to case are word characters alike, the iotas apart:
a combining mark, the iota below a vowel, shares its upper case with them.

* `lower_cases`: the lower case of a character lies in one of the stretches of the mapping.
* `isWord_lower`: a character belongs to words exactly if its lower case does.
* `iotas`: the letters that stand for the combining iota.
* `isWord_of_alike`: all characters that any other word character stands for belong to words.
-/

namespace SourceEditor.Character

/-! ## Intervals of code points -/

namespace CodeRanges

variable {ranges : CodeRanges} {first last n : Nat}

/-- One of the ranges holds a whole interval. -/
def Covers (ranges : CodeRanges) (first last : Nat) : Prop :=
  ∃ r ∈ ranges, r.1 ≤ first ∧ last ≤ r.2

/-- None of the ranges meets an interval. -/
def Misses (ranges : CodeRanges) (first last : Nat) : Prop :=
  ∀ r ∈ ranges, last < r.1 ∨ r.2 < first

instance : Decidable (ranges.Covers first last) :=
  decidable_of_iff (ranges.any fun r => r.1.ble first && last.ble r.2) <| by
    simp [Covers, Nat.ble_eq]

instance : Decidable (ranges.Misses first last) :=
  decidable_of_iff (ranges.all fun r => last.blt r.1 || r.2.blt first) <| by
    simp [Misses, Nat.blt_eq]

theorem Covers.holds (h : ranges.Covers first last) (hfirst : first ≤ n) (hlast : n ≤ last) :
    ranges.Holds n := by
  obtain ⟨r, hr, hle, hge⟩ := h
  exact ⟨r, hr, hle.trans hfirst, hlast.trans hge⟩

theorem Misses.not_holds (h : ranges.Misses first last) (hfirst : first ≤ n) (hlast : n ≤ last) :
    ¬ ranges.Holds n := by
  rintro ⟨r, hr, hle, hge⟩
  rcases h r hr with hlt | hlt
  · omega
  · omega

end CodeRanges

/-! ## The lower-case mapping -/

/-- The whole lower-case mapping, that of ASCII included. -/
def caseStretches : List CaseStretch :=
  (65, 90, 1, 32) :: lowerStretches

/-- A code point lies in a stretch of the mapping. -/
structure InStretch (s : CaseStretch) (n : Nat) : Prop where
  first_le : s.1 ≤ n
  le_last : n ≤ s.2.1
  /-- It is a whole number of steps away from the first one. -/
  mod_step : (n - s.1) % s.2.2.1 = 0

theorem lowerStretch?_eq_some {stretches : List CaseStretch} {n : Nat} {s : CaseStretch}
    (h : lowerStretch? stretches n = some s) : s ∈ stretches ∧ InStretch s n := by
  induction stretches with
  | nil => simp [lowerStretch?] at h
  | cons stretch stretches ih =>
    obtain ⟨first, last, step, shift⟩ := stretch
    have hlater (h : lowerStretch? stretches n = some s) :
        s ∈ (first, last, step, shift) :: stretches ∧ InStretch s n :=
      (ih h).imp_left (List.mem_cons_of_mem _)
    rw [lowerStretch?] at h
    split at h
    · exact absurd h (Option.some_ne_none s).symm
    · next hfirst =>
      split at h
      · next hlast =>
        split at h
        · next hstep =>
          obtain rfl := Option.some.inj h
          exact ⟨List.mem_cons_self, Nat.le_of_not_lt hfirst, hlast, hstep⟩
        · exact hlater h
      · exact hlater h

/-- A character is its own lower case, or lies in a stretch of the mapping and is shifted with
it. -/
theorem lower_cases (c : Character) :
    lower c = c ∨ ∃ s ∈ caseStretches, InStretch s c.toNat ∧
      ((lower c).toNat : Int) = c.toNat + s.2.2.2 := by
  -- A shift leads from code points to code points.
  have hvalid : ∀ s ∈ caseStretches, 0 ≤ s.1 + s.2.2.2 ∧ s.2.1 + s.2.2.2 < 0x110000 := by
    decide +kernel
  have hshifted {s : CaseStretch} (hs : s ∈ caseStretches) (hin : InStretch s c.toNat) :
      ((ofNat (c.toNat + s.2.2.2).toNat).toNat : Int) = c.toNat + s.2.2.2 := by
    have := hvalid s hs
    have := hin.first_le
    have := hin.le_last
    rw [toNat_ofNat (by omega), Int.toNat_of_nonneg (by omega)]
  unfold lower
  dsimp only
  split
  · split
    · next hupper =>
      have hin : InStretch (65, 90, 1, 32) c.toNat := ⟨hupper.1, hupper.2, Nat.mod_one _⟩
      exact .inr ⟨_, List.mem_cons_self, hin, hshifted List.mem_cons_self hin⟩
    · exact .inl rfl
  · split
    · next first last step shift hfound =>
      obtain ⟨hmem, hin⟩ := lowerStretch?_eq_some hfound
      have hmem := List.mem_cons_of_mem (65, 90, 1, 32) hmem
      exact .inr ⟨_, hmem, hin, hshifted hmem hin⟩
    · exact .inl rfl

/-- A stretch and its lower case consist of word characters, or neither has any, or else the code
points of the stretch go one by one with their lower case. -/
def KeepsWords (s : CaseStretch) : Prop :=
  let first := (s.1 + s.2.2.2).toNat
  let last := (s.2.1 + s.2.2.2).toNat
  wordRanges.Covers s.1 s.2.1 ∧ wordRanges.Covers first last ∨
    wordRanges.Misses s.1 s.2.1 ∧ wordRanges.Misses first last ∨
    ∀ n ∈ List.range' s.1 (s.2.1 + 1 - s.1), (n - s.1) % s.2.2.1 = 0 →
      (wordRanges.Holds (n + s.2.2.2).toNat ↔ wordRanges.Holds n)

instance : DecidablePred KeepsWords := fun s =>
  inferInstanceAs (Decidable (wordRanges.Covers s.1 s.2.1 ∧ wordRanges.Covers _ _ ∨
    wordRanges.Misses s.1 s.2.1 ∧ wordRanges.Misses _ _ ∨ ∀ n ∈ List.range' _ _, _ → (_ ↔ _)))

/-- A character belongs to words exactly if its lower case does. -/
@[simp]
theorem isWord_lower (c : Character) : isWord (lower c) = isWord c := by
  have hkeeps : ∀ s ∈ caseStretches, KeepsWords s := by decide +kernel
  obtain hsame | ⟨s, hs, ⟨hfirst, hlast, hstep⟩, hlower⟩ := lower_cases c
  · rw [hsame]
  · have hfirst' : (s.1 + s.2.2.2).toNat ≤ (lower c).toNat := by omega
    have hlast' : (lower c).toNat ≤ (s.2.1 + s.2.2.2).toNat := by omega
    rw [Bool.eq_iff_iff, isWord_iff, isWord_iff]
    rcases hkeeps s hs with ⟨hupper, hlower⟩ | ⟨hupper, hlower⟩ | hall
    · exact iff_of_true (hlower.holds hfirst' hlast') (hupper.holds hfirst hlast)
    · exact iff_of_false (hlower.not_holds hfirst' hlast') (hupper.not_holds hfirst hlast)
    · have hmem : c.toNat ∈ List.range' s.1 (s.2.1 + 1 - s.1) := by
        rw [List.mem_range'_1]
        omega
      rw [← hall _ hmem hstep, ← hlower, Int.toNat_natCast]

/-! ## Letters that stand for each other -/

/-- The combining iota below a vowel. It has a case but is no word character. -/
def combiningIota : Character :=
  ofNat 0x345

/-- The iotas that are letters: capital and small, and the one that stands beside a vowel. -/
def iotas : List Character :=
  [ofNat 0x399, ofNat 0x3B9, ofNat 0x1FBE]

/-- The group of the letters that share their upper case with the combining iota. -/
def iotaGroup : List Nat :=
  [0x345, 0x3B9, 0x1FBE]

/-- The characters whose lower case shares an upper case with the combining iota. -/
theorem eq_combiningIota_or_mem_iotas {c : Character} (h : (lower c).toNat ∈ iotaGroup) :
    c = combiningIota ∨ c ∈ iotas := by
  have hstretch : ∀ s ∈ caseStretches, ∀ n ∈ iotaGroup,
      s.1 + s.2.2.2 ≤ n → n ≤ s.2.1 + s.2.2.2 → n - s.2.2.2 = 0x399 := by decide +kernel
  have hchar {n : Nat} (hn : c.toNat = n) : c = ofNat n := hn ▸ (ofNat_toNat c).symm
  obtain hsame | ⟨s, hs, ⟨hfirst, hlast, -⟩, hlower⟩ := lower_cases c
  · rw [hsame] at h
    simp only [iotaGroup, List.mem_cons, List.not_mem_nil, or_false] at h
    rcases h with hn | hn | hn
    · exact .inl (hchar hn)
    · exact .inr (by simp [iotas, hchar hn])
    · exact .inr (by simp [iotas, hchar hn])
  · have hcapital := hstretch s hs _ h (by omega) (by omega)
    have hn : c.toNat = 0x399 := by omega
    exact .inr (by simp [iotas, hchar hn])

/-- The lower-case letters that share an upper case are those of one group, or one letter alone. -/
theorem mem_siblings {c : Character} {n : Nat} (h : n ∈ siblings c) :
    n = c.toNat ∨ ∃ group ∈ siblingGroups, c.toNat ∈ group ∧ n ∈ group := by
  unfold siblings at h
  cases hgroup : siblingGroups.find? (·.contains c.toNat) with
  | none =>
    rw [hgroup, Option.getD_none, List.mem_singleton] at h
    exact .inl h
  | some group =>
    have hmem := List.find?_some hgroup
    rw [hgroup, Option.getD_some] at h
    exact .inr ⟨group, List.mem_of_find?_eq_some hgroup, List.contains_iff_mem.mp hmem, h⟩

/-- The characters that a word character stands for belong to words, unless it is an iota. -/
theorem isWord_of_alike {q c : Character} (halike : alike q c = true) (hword : isWord q = true)
    (hiota : q ∉ iotas) : isWord c = true := by
  -- Only one group holds a letter that is no word character.
  have hgroups : ∀ group ∈ siblingGroups,
      group = iotaGroup ∨ ∀ n ∈ group, isWord (ofNat n) = true := by decide +kernel
  have hcombining : isWord combiningIota = false := by decide +kernel
  rw [alike, Bool.or_eq_true, Bool.and_eq_true, beq_iff_eq] at halike
  rcases halike with rfl | ⟨-, hsibling⟩
  · exact hword
  · rw [List.contains_iff_mem] at hsibling
    rw [← isWord_lower]
    rcases mem_siblings hsibling with heq | ⟨group, hgroup, hq, hc⟩
    · rw [toNat_injective heq, isWord_lower, hword]
    · rcases hgroups group hgroup with rfl | hall
      · rcases eq_combiningIota_or_mem_iotas hq with rfl | hmem
        · rw [hcombining] at hword
          exact absurd hword Bool.false_ne_true
        · exact absurd hmem hiota
      · rw [← ofNat_toNat (lower c)]
        exact hall _ hc

end SourceEditor.Character

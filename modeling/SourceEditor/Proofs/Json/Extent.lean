import SourceEditor.Proofs.Json.Parts

/-!
# How far the reader gets

Every part of the reader that finds what it looks for goes on by at least one character, and it
never leaves the text that it was given. So whatever makes it refuse a document stands in the
document.

* `GetsOn`: what holds of the result of a part, with one lemma for each way to put parts together.
* `getsOn_value_items_entries`: the parts that stand inside each other, by induction on the fuel.
* `digitsInRow_of_read`: a document that is refused for a number that is too long holds as many
  digits in a row.
* `read_of_digits`: a document of nothing but too many digits is refused for them.
-/

namespace SourceEditor.Json

/-- This many digits of ASCII stand in a row in a text. -/
def DigitsInRow (count : Nat) (t : Text) : Prop :=
  ∃ digits, digits <:+: t ∧ digits.length = count ∧
    ∀ c ∈ digits, Character.isAsciiDigit c.toNat = true

/-- What the end of a text holds, the text holds. -/
theorem DigitsInRow.of_suffix {count : Nat} {t u : Text} (h : DigitsInRow count u) (hu : u <:+ t) :
    DigitsInRow count t := by
  obtain ⟨digits, hinfix, hdigits⟩ := h
  exact ⟨digits, hinfix.trans hu.isInfix, hdigits⟩

/-- What a part of the reader leaves of a text: a proper end of it, or an error, which is about a
long number only if the text holds one. -/
inductive GetsOn {α : Type} (t : Text) : Except Error (α × Cursor) → Prop
  | ok {a : α} {next : Cursor} (suffix : next.rest <:+ t) (shorter : next.rest.length < t.length) :
      GetsOn t (.ok (a, next))
  | error {e : Error} (h : ∀ count, e.fault = .longInteger count →
      Numeral.digitLimit < count ∧ DigitsInRow count t) : GetsOn t (.error e)

namespace GetsOn

variable {α β : Type} {t u : Text} {c : Cursor}

/-- A reader that gets on in the end of a text gets on in the text. -/
theorem of_suffix {r : Except Error (α × Cursor)} (h : GetsOn u r) (hu : u <:+ t) :
    GetsOn t r := by
  cases h with
  | ok suffix shorter => exact .ok (suffix.trans hu) (Nat.lt_of_lt_of_le shorter hu.length_le)
  | error h => exact .error fun count hcount => (h count hcount).imp_right (·.of_suffix hu)

/-- One step after the other gets on if each does. -/
theorem bind {m : Except Error (α × Cursor)} {f : α × Cursor → Except Error (β × Cursor)}
    (hm : GetsOn t m)
    (hf : ∀ a next, next.rest <:+ t → next.rest.length < t.length → GetsOn t (f (a, next))) :
    GetsOn t (m >>= f) := by
  cases hm with
  | ok suffix shorter => exact hf _ _ suffix shorter
  | error h => exact .error h

/-- What is made of the result does not matter. -/
theorem map {m : Except Error (α × Cursor)} {f : α × Cursor → β × Cursor}
    (hm : GetsOn t m) (hf : ∀ a next, (f (a, next)).2 = next) : GetsOn t (m.map f) := by
  cases hm with
  | @ok a next suffix shorter =>
    show GetsOn t (.ok ((f (a, next)).1, (f (a, next)).2))
    rw [hf]
    exact .ok suffix shorter
  | error h => exact .error h

/-- A fault other than a number that is too long tells nothing of the text. -/
theorem fail (c : Cursor) {fault : Fault} (h : ∀ count, fault ≠ .longInteger count) :
    GetsOn t (c.fail fault : Except Error (α × Cursor)) :=
  .error fun count hcount => absurd hcount (h count)

/-- Going on by a character gets on. -/
theorem advance {a : α} {n : Nat} (hc : c.rest ≠ []) (hn : n ≠ 0) :
    GetsOn c.rest (.ok (a, c.advance n)) := by
  refine .ok (List.drop_suffix _ _) ?_
  have := List.length_pos_iff.mpr hc
  rw [Cursor.rest_advance, List.length_drop]
  omega

/-- So does going over a closing character. -/
theorem closing {a : α} {x : Character} (h : c.rest.head? = some x) :
    GetsOn c.rest (.ok (a, c.advance 1)) := by
  obtain ⟨t, ht⟩ := List.head?_eq_some_iff.mp h
  exact advance (ht ▸ List.cons_ne_nil x t) Nat.one_ne_zero

/-- Behind an opening character, a container gets on if what is in it does. -/
theorem afterOpening {close : Character} {empty : α} {inside : Cursor → Except Error (α × Cursor)}
    (h : ∀ next : Cursor, GetsOn next.rest (inside next)) :
    GetsOn c.rest (afterOpening close empty inside c) := by
  have hinside := c.suffix_skipSpace_advance 1
  unfold Json.afterOpening
  split
  · next hclose => exact (closing hclose).of_suffix hinside
  · exact (h _).of_suffix hinside

/-- Between values, a container gets on if what follows does. -/
theorem afterValue {close : Character} {last : α} {more : Cursor → Except Error (α × Cursor)}
    (h : ∀ next : Cursor, GetsOn next.rest (more next)) :
    GetsOn c.rest (afterValue close last more c) := by
  have hspace := c.suffix_skipSpace
  unfold Json.afterValue
  split
  · exact (h _).of_suffix ((c.skipSpace.suffix_skipSpace_advance 1).trans hspace)
  · split
    · next hclose => exact (closing hclose).of_suffix hspace
    · exact .fail _ (by simp)

end GetsOn

/-! ## Texts -/

/-- Reading between quotes gets on. -/
theorem getsOn_stringBody (start : Nat) (high : Option Nat) (offset : Nat) (t : Text) :
    GetsOn t (stringBody start high offset t) := by
  fun_induction stringBody start high offset t with
  | case1 | case3 | case4 | case7 | case8 | case10 | case11 => exact .error (by simp)
  | case2 high offset rest => exact .ok (List.suffix_cons _ _) (by simp)
  | case5 high offset a b c d rest u hunit hrest hhigh ih =>
    exact (ih.map fun _ _ => rfl).of_suffix ⟨['\\', 'u', a, b, c, d], rfl⟩
  | case6 high offset a b c d rest u hunit hrest hhigh ih =>
    refine (ih.map fun _ _ => ?_).of_suffix ⟨['\\', 'u', a, b, c, d], rfl⟩
    dsimp only
    split <;> rfl
  | case9 high offset c rest _ _ e he ih =>
    exact (ih.map fun _ _ => rfl).of_suffix ⟨['\\', c], rfl⟩
  | case12 high offset c rest _ _ _ _ _ hcontrol ih =>
    exact (ih.map fun _ _ => rfl).of_suffix (List.suffix_cons _ _)

/-- The text that begins with the quote at a cursor. -/
theorem getsOn_quoted {c : Cursor} {t : Text} (h : c.rest = ('"' :: t : Text)) :
    GetsOn c.rest (stringBody c.offset none (c.offset + 1) t) :=
  (getsOn_stringBody _ _ _ t).of_suffix (h ▸ List.suffix_cons _ t)

/-- Reading a key gets on. -/
theorem getsOn_key (c : Cursor) : GetsOn c.rest (key c) := by
  by_cases hquote : c.rest.head? = some (.scalar '"')
  · obtain ⟨t, ht⟩ := List.head?_eq_some_iff.mp hquote
    rw [key_of_quote ht]
    refine (getsOn_quoted ht).bind fun k next suffix shorter => ?_
    dsimp only
    split
    · -- The colon and the white space around it are left behind as well.
      have hafter := (next.skipSpace.suffix_skipSpace_advance 1).trans next.suffix_skipSpace
      exact .ok (hafter.trans suffix) (Nat.lt_of_le_of_lt hafter.length_le shorter)
    · exact .fail _ (by simp)
  · rw [key_of_head? hquote]
    exact .fail _ (by simp)

/-! ## Numbers and words -/

/-- The whole digits of a number that is too long stand in a row. -/
theorem NumberParts.long_of_value {t : Text} {count : Nat}
    (h : (ofText t).value = .error (.longInteger count)) :
    Numeral.digitLimit < count ∧ DigitsInRow count t := by
  have hwhole : (ofText t).whole <+: asciiDigits (t.drop (signLength (ofText t).negative)) :=
    wholeDigits_isPrefix _
  generalize ofText t = p at h hwhole
  -- Only the digits of an integer are counted.
  unfold value Numeral.ofPlaceValues at h
  split at h
  · cases h
  · split at h
    · split at h
      · cases h
      · next hlong =>
        cases h
        split at hlong
        · cases hlong
        · next hlimit =>
          refine ⟨by simpa [placeValues] using hlimit, p.whole, ?_, rfl,
            fun c hc => isAsciiDigit_of_mem_asciiDigits (hwhole.subset hc)⟩
          exact (hwhole.isInfix.trans (List.takeWhile_prefix _).isInfix).trans
            (List.drop_suffix _ _).isInfix
    · cases h

/-- Reading a number gets on, or has found too many digits in a row. -/
theorem getsOn_number (c : Cursor) : GetsOn c.rest (number c) := by
  rw [number_eq]
  split
  · next v hvalue =>
    have hwhole := NumberParts.whole_ne_nil_of_value hvalue
    refine .advance (NumberParts.ne_nil_of_whole hwhole) ?_
    have := List.length_pos_iff.mpr hwhole
    unfold NumberParts.length
    omega
  · next fault hvalue =>
    refine .error fun count hcount => ?_
    obtain rfl : fault = .longInteger count := hcount
    exact NumberParts.long_of_value hvalue

/-- So does reading anything without containers. -/
theorem getsOn_scalar (c : Cursor) : GetsOn c.rest (scalar c) := by
  unfold scalar
  split
  · next word v hfound =>
    have hword : word ≠ [] := by
      have hall : ∀ p ∈ words, p.1 ≠ [] := by decide
      exact hall _ (List.mem_of_find?_eq_some hfound)
    have hprefix : word <+: c.rest :=
      List.isPrefixOf_iff_prefix.mp (by simpa using List.find?_some hfound)
    refine .advance ?_ (by simpa using hword)
    rintro hnil
    rw [hnil, List.prefix_nil] at hprefix
    exact hword hprefix
  · exact getsOn_number c

/-! ## Values inside each other -/

/-- One step of a value, given the items and the entries inside it. -/
theorem getsOn_value_succ {fuel : Nat} (hitems : ∀ room c, GetsOn c.rest (items fuel room c))
    (hentries : ∀ room before c, GetsOn c.rest (entries fuel room before c)) (room : Nat)
    (c : Cursor) : GetsOn c.rest (value (fuel + 1) room c) := by
  rcases c.rest_cases with ⟨t, ht⟩ | ⟨t, ht⟩ | ⟨t, ht⟩ | ⟨hquote, hbracket, hbrace⟩
  · rw [value_of_quote ht]
    exact (getsOn_quoted ht).map fun _ _ => rfl
  · rw [value_of_bracket ht]
    cases room with
    | zero => exact .fail _ (by simp)
    | succ room => exact .afterOpening fun next => (hitems room next).map fun _ _ => rfl
  · rw [value_of_brace ht]
    cases room with
    | zero => exact .fail _ (by simp)
    | succ room => exact .afterOpening fun next => (hentries room [] next).map fun _ _ => rfl
  · rw [value_of_head? hquote hbracket hbrace]
    exact getsOn_scalar c

/-- So does reading values, items and entries. -/
theorem getsOn_value_items_entries (fuel : Nat) :
    (∀ room c, GetsOn c.rest (value fuel room c)) ∧ (∀ room c, GetsOn c.rest (items fuel room c)) ∧
      ∀ room before c, GetsOn c.rest (entries fuel room before c) := by
  induction fuel with
  | zero =>
    exact ⟨fun _ c => .fail c (by simp), fun _ c => .fail c (by simp),
      fun _ _ c => .fail c (by simp)⟩
  | succ fuel ih =>
    obtain ⟨hvalue, hitems, hentries⟩ := ih
    refine ⟨getsOn_value_succ hitems hentries, fun room c => ?_, fun room before c => ?_⟩
    · rw [items_succ]
      refine (hvalue room c).bind fun v next suffix shorter => ?_
      exact (GetsOn.afterValue fun more => (hitems room more).map fun _ _ => rfl).of_suffix suffix
    · rw [entries_succ]
      refine (getsOn_key c).bind fun k afterKey suffixKey shorterKey => ?_
      refine ((hvalue room afterKey).of_suffix suffixKey).bind fun v next suffix shorter => ?_
      exact (GetsOn.afterValue (hentries room _)).of_suffix suffix

/-- In particular a value. -/
theorem getsOn_value (fuel room : Nat) (c : Cursor) : GetsOn c.rest (value fuel room c) :=
  (getsOn_value_items_entries fuel).1 room c

/-- A document is refused for a number that is too long only if so many digits stand in a row. -/
theorem digitsInRow_of_read {limit : Nat} {t : Text} {offset count : Nat}
    (h : read limit t = .error ⟨.longInteger count, offset⟩) :
    Numeral.digitLimit < count ∧ DigitsInRow count t := by
  by_cases hmark : t.head? = some (.scalar '\uFEFF')
  · rw [read_of_mark hmark] at h
    cases h
  rw [read_eq hmark] at h
  have hvalue := (getsOn_value (2 * t.length + 2) limit (.ofDocument t)).of_suffix
    (Cursor.suffix_skipSpace ⟨0, t⟩)
  generalize value (2 * t.length + 2) limit (.ofDocument t) = r at h hvalue
  cases hvalue with
  | error hlong =>
    cases h
    exact hlong count rfl
  | ok =>
    simp only [finish] at h
    split at h <;> simp [Cursor.fail] at h

/-- A document of digits alone that are too many is refused for them. -/
theorem read_of_digits (limit : Nat) {t : Text}
    (hdigits : ∀ c ∈ t, Character.isAsciiDigit c.toNat = true)
    (hzero : t.head? ≠ some (.scalar '0')) (hlong : Numeral.digitLimit < t.length) :
    read limit t = .error ⟨.longInteger t.length, 0⟩ := by
  have hne : t ≠ [] := List.length_pos_iff.mp (Nat.zero_lt_of_lt hlong)
  -- A digit comes first, so that the document begins with nothing else.
  have hhead : ∀ {x : Character}, Character.isAsciiDigit x.toNat = false → t.head? ≠ some x :=
    fun hx h => absurd (hdigits _ (List.mem_of_head? h)) (by simp [hx])
  have hspace : Cursor.ofDocument t = ⟨0, t⟩ := by
    have hnone : t.takeWhile Cursor.isSpace = [] := by
      obtain ⟨c, rest, rfl⟩ := List.exists_cons_of_ne_nil hne
      have hc : ∀ {x : Character}, Character.isAsciiDigit x.toNat = false → c ≠ x :=
        fun hx h => hhead hx (by rw [h]; rfl)
      exact List.takeWhile_cons_of_neg (by
        simp [Cursor.isSpace, hc (x := ' ') (by decide), hc (x := '\t') (by decide),
          hc (x := '\n') (by decide), hc (x := '\r') (by decide)])
    simp [Cursor.ofDocument, Cursor.skipSpace, Cursor.advance, hnone]
  have hscalar : scalar ⟨0, t⟩ = number ⟨0, t⟩ := by
    have hword : ∀ word ∈ words, ∃ c ∈ word.1, Character.isAsciiDigit c.toNat = false := by decide
    have hnone : (words.find? fun word => word.1.isPrefixOf t) = none := by
      refine List.find?_eq_none.mpr fun word hmem hprefix => ?_
      obtain ⟨c, hc, hdigit⟩ := hword word hmem
      have := hdigits c ((List.isPrefixOf_iff_prefix.mp hprefix).subset hc)
      simp [hdigit] at this
    unfold scalar
    rw [hnone]
  have hall : asciiDigits t = t := List.takeWhile_eq_self_iff.mpr hdigits
  have hwhole : wholeDigits t = t := if_neg hzero
  have hparts : NumberParts.ofText t = ⟨false, t, ([], 0), (false, [], 0)⟩ := by
    have hminus : decide (t.head? = some (.scalar '-')) = false :=
      decide_eq_false (hhead (by decide))
    unfold NumberParts.ofText
    dsimp only [bind, Option.bind, pure]
    rw [hminus]
    rw [show NumberParts.signLength false = 0 from rfl, List.drop_zero, hall, hwhole, Nat.zero_add,
      List.drop_length]
    rfl
  have hvalue : (NumberParts.ofText t).value = .error (.longInteger t.length) := by
    rw [hparts]
    simp [NumberParts.value, Numeral.ofPlaceValues, placeValues, hne, Nat.not_le.mpr hlong]
  rw [read_eq (hhead (by decide)), hspace,
    value_of_head? (hhead (by decide)) (hhead (by decide)) (hhead (by decide)), hscalar, number_eq]
  simp only [hvalue]
  rfl

end SourceEditor.Json

import SourceEditor.Json.Reader
import Mathlib.Data.List.Infix
import Mathlib.Data.List.TakeWhile

/-!
# The parts of a document

The reader of documents, taken apart: each part of it as an equation that says what is read at a
cursor, by the character that stands there. What follows on these equations, by induction on the
fuel, never looks into the reader itself.

* `stringBody_escape`, `stringBody_plain`: texts, one character at a time.
* `NumberParts` and `number_eq`: a number is read from its parts, and these from the text alone.
* `afterOpening` and `afterValue`: what arrays and objects have in common.
* `value_of_quote` and its siblings, `items_succ`, `entries_succ`: one step of the values that stand
  inside each other.
* `read_eq`: a document is one value with white space around it.
-/

namespace SourceEditor.Json

/-! ## Cursors -/

namespace Cursor

/-- Going on leaves characters out at the front. -/
@[simp]
theorem rest_advance (c : Cursor) (n : Nat) : (c.advance n).rest = c.rest.drop n := rfl

/-- Going on twice is going on by both. -/
theorem advance_advance (c : Cursor) (m n : Nat) : (c.advance m).advance n = c.advance (m + n) := by
  simp [advance, Nat.add_assoc]

/-- Skipping white space leaves it out at the front. -/
@[simp]
theorem rest_skipSpace (c : Cursor) : c.skipSpace.rest = c.rest.dropWhile isSpace := by
  have hsplit : c.rest.takeWhile isSpace ++ c.rest.dropWhile isSpace = c.rest :=
    List.takeWhile_append_dropWhile
  rw [skipSpace, rest_advance]
  exact (congrArg (List.drop _) hsplit.symm).trans List.drop_left

/-- What is left then is the end of what was left. -/
theorem suffix_skipSpace (c : Cursor) : c.skipSpace.rest <:+ c.rest := by
  rw [rest_skipSpace]
  exact List.dropWhile_suffix _

/-- So it is after going on. -/
theorem suffix_skipSpace_advance (c : Cursor) (n : Nat) :
    (c.advance n).skipSpace.rest <:+ c.rest :=
  (c.advance n).suffix_skipSpace.trans (List.drop_suffix _ _)

/-- Going on by a character leaves less. -/
theorem length_skipSpace_advance_one {c : Cursor} (h : c.rest ≠ []) :
    (c.advance 1).skipSpace.rest.length < c.rest.length := by
  have hspace := (c.advance 1).suffix_skipSpace.length_le
  have hpos := List.length_pos_iff.mpr h
  rw [rest_advance, List.length_drop] at hspace
  omega

/-- The ways in which a value can begin: a text in quotes, an array, an object, or anything else. -/
theorem rest_cases (c : Cursor) :
    (∃ t, c.rest = ('"' :: t : Text)) ∨ (∃ t, c.rest = ('[' :: t : Text)) ∨
      (∃ t, c.rest = ('{' :: t : Text)) ∨ c.rest.head? ≠ some (.scalar '"') ∧
        c.rest.head? ≠ some (.scalar '[') ∧ c.rest.head? ≠ some (.scalar '{') := by
  by_cases hquote : c.rest.head? = some (.scalar '"')
  · exact Or.inl (List.head?_eq_some_iff.mp hquote)
  by_cases hbracket : c.rest.head? = some (.scalar '[')
  · exact Or.inr (Or.inl (List.head?_eq_some_iff.mp hbracket))
  by_cases hbrace : c.rest.head? = some (.scalar '{')
  · exact Or.inr (Or.inr (Or.inl (List.head?_eq_some_iff.mp hbrace)))
  · exact Or.inr (Or.inr (Or.inr ⟨hquote, hbracket, hbrace⟩))

end Cursor

/-! ## Texts -/

/-- Fewer than four characters are no unit. -/
theorem unit?_of_length {t : Text} (h : t.length < 4) : unit? t = none := by
  rw [unit?]
  rintro a b c d rest rfl
  simp only [List.length_cons] at h
  omega

/-- A backslash and a `u` without four hexadecimal digits after them. -/
theorem stringBody_of_unit?_eq_none {t : Text} (h : unit? t = none) (start : Nat)
    (high : Option Nat) (offset : Nat) :
    stringBody start high offset ('\\' :: 'u' :: t : Text) =
      .error ⟨.brokenEscape, offset + 1⟩ := by
  by_cases hfour : ∃ a b c d rest, t = a :: b :: c :: d :: rest
  · obtain ⟨a, b, c, d, rest, rfl⟩ := hfour
    rw [stringBody.eq_3, show unit? [a, b, c, d] = none from h]
  · rw [stringBody.eq_4]
    rintro a b c d rest rfl
    exact hfour ⟨a, b, c, d, rest, rfl⟩

/-- A backslash and a letter after it. -/
theorem stringBody_escape {c : Character} (hu : c ≠ 'u') (start : Nat) (high : Option Nat)
    (offset : Nat) (t : Text) :
    stringBody start high offset ('\\' :: c :: t : Text) =
      match simpleEscape? c with
      | none => .error ⟨.unknownEscape, offset⟩
      | some e => (stringBody start none (offset + 2) t).map fun (s, next) =>
          (stringBody.afterHigh high (e :: s), next) :=
  stringBody.eq_5 _ _ _ _ _ (fun _ _ _ _ _ hc => absurd hc hu) hu

/-- A character that stands for itself. -/
theorem stringBody_plain {c : Character} (hquote : c ≠ '"') (hback : c ≠ '\\') (start : Nat)
    (high : Option Nat) (offset : Nat) (t : Text) :
    stringBody start high offset (c :: t) =
      if c.toNat < 32 then .error ⟨.controlCharacter, offset⟩
      else (stringBody start none (offset + 1) t).map fun (s, next) =>
        (stringBody.afterHigh high (c :: s), next) :=
  stringBody.eq_7 _ _ _ _ _ hquote (fun _ _ _ _ _ hc => absurd hc hback)
    (fun _ hc => absurd hc hback) (fun _ _ hc => absurd hc hback) (fun hc => absurd hc hback)

/-- A key is a text in quotes, and then a colon. -/
theorem key_of_quote {c : Cursor} {t : Text} (h : c.rest = ('"' :: t : Text)) :
    key c = stringBody c.offset none (c.offset + 1) t >>= fun (k, next) =>
      if next.skipSpace.rest.head? = some (.scalar ':') then
        .ok (k, (next.skipSpace.advance 1).skipSpace)
      else next.skipSpace.fail .missingColon := by
  rw [key]
  simp only [h]
  refine bind_congr fun (k, next) => ?_
  dsimp only
  split
  · next h => rw [if_pos (by rw [h]; rfl)]; rfl
  · next hcolon => rw [if_neg fun h => (List.head?_eq_some_iff.mp h).elim hcolon]

/-- Without a quote there is no key. -/
theorem key_of_head? {c : Cursor} (h : c.rest.head? ≠ some (.scalar '"')) :
    key c = c.fail .missingKey := by
  rw [key]
  split
  · next h' => exact absurd (by rw [h']; rfl) h
  · rfl

/-! ## Numbers -/

/-- Only digits are taken as digits. -/
theorem isAsciiDigit_of_mem_asciiDigits {t : Text} {c : Character} (h : c ∈ asciiDigits t) :
    Character.isAsciiDigit c.toNat = true :=
  List.mem_takeWhile_imp (p := fun c : Character => Character.isAsciiDigit c.toNat) h

/-- They are taken from the front. -/
theorem take_length_asciiDigits (t : Text) : t.take (asciiDigits t).length = asciiDigits t :=
  (List.prefix_iff_eq_take.mp (List.takeWhile_prefix _)).symm

/-- Without a point there is no fraction. -/
theorem fractionPart_of_head? {t : Text} (h : t.head? ≠ some (.scalar '.')) :
    fractionPart t = ([], 0) := by
  unfold fractionPart
  split
  · exact absurd rfl h
  · rfl

/-- With a point, a fraction has at least one digit. -/
theorem fractionPart_point (t : Text) :
    fractionPart ('.' :: t : Text) =
      if (asciiDigits t).isEmpty then ([], 0)
      else (asciiDigits t, (asciiDigits t).length + 1) := rfl

/-- The number of characters of the sign at the front of a power of ten. -/
def powerSignLength (t : Text) : Nat :=
  if t.head? = some (.scalar '-') ∨ t.head? = some (.scalar '+') then 1 else 0

/-- Without its letter there is no power of ten. -/
theorem powerPart_of_head? {t : Text} (he : t.head? ≠ some (.scalar 'e'))
    (hE : t.head? ≠ some (.scalar 'E')) : powerPart t = (false, [], 0) := by
  unfold powerPart
  split
  · rw [if_neg]
    rintro (rfl | rfl)
    · exact he rfl
    · exact hE rfl
  · rfl

/-- With its letter, a power of ten has at least one digit. -/
theorem powerPart_cons {c : Character} (h : c = 'e' ∨ c = 'E') (t : Text) :
    powerPart (c :: t) =
      let digits := asciiDigits (t.drop (powerSignLength t))
      if digits.isEmpty then (false, [], 0)
      else (t.head? = some (.scalar '-'), digits, digits.length + 1 + powerSignLength t) := by
  unfold powerPart
  dsimp only
  rw [if_pos h]
  split
  · simp [powerSignLength]
  · simp [powerSignLength]
  · next hminus hplus =>
    have hm : t.head? ≠ some (.scalar '-') := fun hm => (List.head?_eq_some_iff.mp hm).elim hminus
    have hp : t.head? ≠ some (.scalar '+') := fun hp => (List.head?_eq_some_iff.mp hp).elim hplus
    simp [powerSignLength, hm, hp]

/-- The whole digits of a number among the digits that stand there: a zero stands alone. -/
def wholeDigits (digits : Text) : Text :=
  if digits.head? = some '0' then digits.take 1 else digits

/-- The whole part is taken from the front of the digits. -/
theorem wholeDigits_isPrefix (digits : Text) : wholeDigits digits <+: digits := by
  unfold wholeDigits
  split
  · exact List.take_prefix 1 digits
  · exact List.prefix_refl digits

/-- The parts of a number. -/
structure NumberParts where
  /-- Whether a minus sign stands before the digits. -/
  negative : Bool
  /-- The whole digits. -/
  whole : Text
  /-- The digits of the fraction, and how many characters the fraction takes. -/
  fraction : Text × Nat
  /-- The sign and the digits of the power of ten, and how many characters it takes. -/
  power : Bool × Text × Nat

namespace NumberParts

/-- The number of characters of a sign. -/
def signLength (negative : Bool) : Nat :=
  if negative then 1 else 0

/-- The parts of the number at the front of a text. -/
def ofText (t : Text) : NumberParts :=
  let negative : Bool := t.head? = some '-'
  let whole := wholeDigits (asciiDigits (t.drop (signLength negative)))
  let afterWhole := t.drop (signLength negative + whole.length)
  let fraction := fractionPart afterWhole
  ⟨negative, whole, fraction, powerPart (afterWhole.drop fraction.2)⟩

/-- The number of characters of the parts. -/
def length (p : NumberParts) : Nat :=
  signLength p.negative + p.whole.length + p.fraction.2 + p.power.2.2

/-- The number, or why there is none. -/
def value (p : NumberParts) : Except Fault Value :=
  if p.whole.isEmpty then .error .missingValue
  else if p.fraction.2 = 0 ∧ p.power.2.2 = 0 then
    match Numeral.ofPlaceValues (placeValues p.whole) with
    | .ok n => .ok (.integer (if p.negative then -(n : Int) else n))
    | .error _ => .error (.longInteger p.whole.length)
  else
    let shift : Int := Numeral.valueOf (placeValues p.power.2.1)
    let exponent := (if p.power.1 then -shift else shift) - p.fraction.1.length
    let digits := Numeral.valueOf (placeValues (p.whole ++ p.fraction.1))
    .ok (.real (Binary64.ofDecimal p.negative digits exponent))

/-- Where there are no whole digits, there is no number. -/
theorem whole_ne_nil_of_value {p : NumberParts} {v : Value} (h : p.value = .ok v) :
    p.whole ≠ [] := by
  rintro hnil
  simp [value, hnil] at h

/-- A number has characters. -/
theorem ne_nil_of_whole {t : Text} (h : (ofText t).whole ≠ []) : t ≠ [] := by
  rintro rfl
  exact h rfl

end NumberParts

/-- A number is read from its parts. -/
theorem number_eq (c : Cursor) :
    number c = match (NumberParts.ofText c.rest).value with
      | .ok v => .ok (v, c.advance (NumberParts.ofText c.rest).length)
      | .error fault => c.fail fault := by
  unfold number
  extract_lets negative signLength digits whole afterWhole
  -- The values that the reader names are the parts of the number.
  have hsign : signLength = NumberParts.signLength (decide negative) := by
    simp [signLength, NumberParts.signLength]
  have hparts : NumberParts.ofText c.rest =
      ⟨decide negative, whole, fractionPart afterWhole.rest,
        powerPart (afterWhole.advance (fractionPart afterWhole.rest).2).rest⟩ := by
    unfold afterWhole whole digits
    rw [hsign]
    rfl
  rw [hparts]
  unfold NumberParts.value NumberParts.length
  dsimp only
  rw [← hsign]
  generalize fractionPart afterWhole.rest = fraction
  generalize powerPart (afterWhole.advance fraction.2).rest = power
  by_cases hempty : whole.isEmpty = true
  · rw [if_pos hempty, if_pos hempty]
  rw [if_neg hempty, if_neg hempty]
  by_cases hwhole : fraction.2 = 0 ∧ power.2.2 = 0
  · -- An integer takes no characters but its sign and its digits.
    rw [if_pos hwhole, if_pos hwhole, hwhole.1, hwhole.2]
    cases Numeral.ofPlaceValues (placeValues whole) with
    | ok n => simp [afterWhole]
    | error e => rfl
  · rw [if_neg hwhole, if_neg hwhole, Cursor.advance_advance, Cursor.advance_advance]
    dsimp only
    rw [Nat.add_assoc (signLength + whole.length)]

/-! ## Arrays and objects -/

/-- What is read from the opening character of a container on: its closing character at once, or
what is inside. -/
def afterOpening {α : Type} (close : Character) (empty : α)
    (inside : Cursor → Except Error (α × Cursor)) (c : Cursor) : Except Error (α × Cursor) :=
  if (c.advance 1).skipSpace.rest.head? = some close then
    .ok (empty, (c.advance 1).skipSpace.advance 1)
  else inside (c.advance 1).skipSpace

/-- What is read from the end of a value inside a container on: a comma and more, or the closing
character. -/
def afterValue {α : Type} (close : Character) (last : α)
    (more : Cursor → Except Error (α × Cursor)) (c : Cursor) : Except Error (α × Cursor) :=
  if c.skipSpace.rest.head? = some (.scalar ',') then more (c.skipSpace.advance 1).skipSpace
  else if c.skipSpace.rest.head? = some close then .ok (last, c.skipSpace.advance 1)
  else c.skipSpace.fail .missingComma

section Step

variable {fuel room : Nat} {c : Cursor} {t : Text}

/-- A value that begins with a quote is a text. -/
theorem value_of_quote (h : c.rest = ('"' :: t : Text)) :
    value (fuel + 1) room c =
      (stringBody c.offset none (c.offset + 1) t).map fun (s, next) => (.string s, next) := by
  rw [value.eq_def]
  simp only [h]
  rfl

/-- One that begins with a bracket is an array, if there is room for it. -/
theorem value_of_bracket (h : c.rest = ('[' :: t : Text)) :
    value (fuel + 1) room c =
      match room with
      | 0 => c.fail (.tooDeep ⟨.array⟩)
      | room + 1 => afterOpening ']' (.array []) (fun next =>
          (items fuel room next).map fun (vs, next) => (.array vs, next)) c := by
  rw [value.eq_def]
  simp only [h]
  cases room with
  | zero => rfl
  | succ room =>
    unfold afterOpening
    dsimp only
    split
    · next hclose => rw [if_pos (by rw [hclose]; rfl)]; rfl
    · next hclose =>
      rw [if_neg fun hhead => (List.head?_eq_some_iff.mp hhead).elim hclose]
      rfl

/-- One that begins with a brace is an object, if there is room for it. -/
theorem value_of_brace (h : c.rest = ('{' :: t : Text)) :
    value (fuel + 1) room c =
      match room with
      | 0 => c.fail (.tooDeep ⟨.object⟩)
      | room + 1 => afterOpening '}' (.object []) (fun next =>
          (entries fuel room [] next).map fun (es, next) => (.object es, next)) c := by
  rw [value.eq_def]
  simp only [h]
  cases room with
  | zero => rfl
  | succ room =>
    unfold afterOpening
    dsimp only
    split
    · next hclose => rw [if_pos (by rw [hclose]; rfl)]; rfl
    · next hclose =>
      rw [if_neg fun hhead => (List.head?_eq_some_iff.mp hhead).elim hclose]
      rfl

/-- Any other value is without containers. -/
theorem value_of_head? (hquote : c.rest.head? ≠ some (.scalar '"'))
    (hbracket : c.rest.head? ≠ some (.scalar '[')) (hbrace : c.rest.head? ≠ some (.scalar '{')) :
    value (fuel + 1) room c = scalar c := by
  rw [value.eq_def]
  dsimp only
  split
  · next h => exact absurd (by rw [h]; rfl) hquote
  · next h => exact absurd (by rw [h]; rfl) hbracket
  · next h => exact absurd (by rw [h]; rfl) hbrace
  · rfl

variable (fuel room c)

/-- Items are a value, and then what follows it. -/
theorem items_succ :
    items (fuel + 1) room c = value fuel room c >>= fun (v, next) =>
      afterValue ']' [v] (fun more =>
        (items fuel room more).map fun (vs, next) => (v :: vs, next)) next := by
  rw [items]
  refine bind_congr fun (v, next) => ?_
  unfold afterValue
  dsimp only
  split
  · next h => rw [if_pos (by rw [h]; rfl)]; rfl
  · next h => rw [if_neg (by rw [h]; simp), if_pos (by rw [h]; rfl)]; rfl
  · next hcomma hclose =>
    rw [if_neg fun h => (List.head?_eq_some_iff.mp h).elim hcomma,
      if_neg fun h => (List.head?_eq_some_iff.mp h).elim hclose]

/-- Entries are a key, a value, and then what follows it. -/
theorem entries_succ (before : Entries) :
    entries (fuel + 1) room before c = key c >>= fun (k, afterKey) =>
      value fuel room afterKey >>= fun (v, next) =>
        afterValue '}' (Entries.insert k v before)
          (entries fuel room (Entries.insert k v before)) next := by
  rw [entries]
  refine bind_congr fun (k, afterKey) => bind_congr fun (v, next) => ?_
  unfold afterValue
  dsimp only
  split
  · next h => rw [if_pos (by rw [h]; rfl)]
  · next h => rw [if_neg (by rw [h]; simp), if_pos (by rw [h]; rfl)]; rfl
  · next hcomma hclose =>
    rw [if_neg fun h => (List.head?_eq_some_iff.mp h).elim hcomma,
      if_neg fun h => (List.head?_eq_some_iff.mp h).elim hclose]

end Step

/-! ## Documents -/

/-- The cursor at the first character of a document that is not white space. -/
def Cursor.ofDocument (t : Text) : Cursor :=
  Cursor.skipSpace ⟨0, t⟩

/-- What becomes of a document once its value is read. -/
def finish : Except Error (Value × Cursor) → Except Error Value
  | .error e => .error e
  | .ok (v, next) => if next.skipSpace.rest.isEmpty then .ok v else next.skipSpace.fail .trailing

/-- A document may not begin with a byte order mark. -/
theorem read_of_mark {limit : Nat} {t : Text} (hmark : t.head? = some (.scalar '\uFEFF')) :
    read limit t = .error ⟨.byteOrderMark, 0⟩ :=
  if_pos hmark

/-- Any other document is one value between blanks. -/
theorem read_eq {limit : Nat} {t : Text} (hmark : t.head? ≠ some (.scalar '\uFEFF')) :
    read limit t = finish (value (2 * t.length + 2) limit (.ofDocument t)) := by
  refine (if_neg hmark).trans ?_
  show (value (2 * t.length + 2) limit (.ofDocument t) >>= _) = _
  cases value (2 * t.length + 2) limit (.ofDocument t) <;> rfl

end SourceEditor.Json

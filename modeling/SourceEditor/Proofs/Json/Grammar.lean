import SourceEditor.Proofs.Json.Entries
import SourceEditor.Proofs.Json.Parts

/-!
# The grammar of documents

What a document is, without a word on how it is read: a relation between texts and the values that
they spell, with one rule for each form. It is that of RFC 8259 with the extensions of the reader:
three more words for numbers, surrogates that stand alone, limits on the digits of an integer and on
the depth, and the last of several values under one key.

* `IsBody`: what stands between the quotes of a text.
* `IsNumber`: numbers.
* `Spells`: values, and the items and the members inside them.
* `IsDocument`: documents.
* `spells_object_iff`: objects, and the members that stand in them.
-/

namespace SourceEditor.Json

/-- Nothing but white space between tokens. -/
def IsSpaces (t : Text) : Prop :=
  ∀ c ∈ t, Cursor.isSpace c = true

/-- A mark between two parts, with white space around it. -/
inductive IsMark (mark : Character) : Text → Prop
  | mk {space space' : Text} (h : IsSpaces space) (h' : IsSpaces space') :
      IsMark mark (space ++ mark :: space')

/-- A text between two characters. -/
def enclosed (opening closing : Character) (t : Text) : Text :=
  opening :: (t ++ [closing])

/-! ## Texts -/

/-- An escape with its four characters. -/
def escape (a b c d : Character) : Text :=
  ['\\', 'u', a, b, c, d]

/-- The escape of a 16-bit unit. -/
inductive IsUnit : Text → Nat → Prop
  | mk {a b c d : Character} {u : Nat} (h : unit? [a, b, c, d] = some u) :
      IsUnit (escape a b c d) u

/-- What some characters between the quotes of a text spell. -/
inductive IsBody : Text → Text → Prop
  /-- Nothing. -/
  | nil : IsBody [] []
  /-- A character that stands for itself. -/
  | plain {c : Character} {body s : Text} (hquote : c ≠ '"') (hback : c ≠ '\\')
      (hvisible : 32 ≤ c.toNat) (hbody : IsBody body s) : IsBody (c :: body) (c :: s)
  /-- A backslash and a letter that stands for a character. -/
  | letter {c e : Character} {body s : Text} (hletter : simpleEscape? c = some e)
      (hbody : IsBody body s) : IsBody ('\\' :: c :: body) (e :: s)
  /-- An escape by itself: no second half of a surrogate pair follows a first half. -/
  | unit {x body s : Text} {u : Nat} (hunit : IsUnit x u)
      (halone : isHighSurrogate u = true →
        ∀ y v, y <+: body → IsUnit y v → isLowSurrogate v = false)
      (hbody : IsBody body s) : IsBody (x ++ body) (.ofNat u :: s)
  /-- The escapes of a surrogate pair. -/
  | pair {x y body s : Text} {high low : Nat} (hx : IsUnit x high) (hy : IsUnit y low)
      (hhigh : isHighSurrogate high = true) (hlow : isLowSurrogate low = true)
      (hbody : IsBody body s) : IsBody (x ++ (y ++ body)) (characterOfPair high low :: s)

namespace IsUnit

variable {x y body : Text} {u v : Nat}

/-- At the front of a text there is one escape at most. -/
theorem eq_of_prefix (hx : IsUnit x u) (hy : y <+: x ++ body) (hv : IsUnit y v) : v = u := by
  obtain ⟨hu⟩ := hx
  obtain ⟨hv⟩ := hv
  obtain ⟨rest, hrest⟩ := hy
  simp only [escape, List.cons_append, List.nil_append, List.cons.injEq, true_and] at hrest
  obtain ⟨rfl, rfl, rfl, rfl, -⟩ := hrest
  exact Option.some.inj (hv.symm.trans hu)

/-- An escape begins with a backslash and a `u`. -/
theorem not_prefix_cons {c : Character} (hc : c ≠ '\\') (hv : IsUnit y v) : ¬ y <+: c :: body := by
  obtain ⟨hv⟩ := hv
  exact fun hy => hc (List.cons_prefix_cons.mp hy).1.symm

/-- No quote stands in an escape. -/
theorem quote_notMem (hv : IsUnit y v) : .scalar '"' ∉ y := by
  obtain ⟨hv⟩ := hv
  have hquote : hexValue? '"' = none := by decide
  simp only [unit?, Option.bind_eq_bind, Option.bind_eq_some_iff] at hv
  obtain ⟨m, ha, n, hb, p, hc, q, hd, -⟩ := hv
  have hne {c : Character} {n : Nat} (h : hexValue? c = some n) : .scalar '"' ≠ c := by
    rintro rfl
    cases hquote.symm.trans h
  simp [escape, hne ha, hne hb, hne hc, hne hd]

/-- An escape in front of a closing quote ends before it. -/
theorem prefix_of_prefix_append {rest : Text} (hv : IsUnit y v)
    (hy : y <+: body ++ .scalar '"' :: rest) : y <+: body := by
  rcases List.prefix_or_prefix_of_prefix hy (List.prefix_append body _) with h | ⟨z, rfl⟩
  · exact h
  · -- If it went further, it would hold the closing quote.
    have hz : z = [] := by
      cases z with
      | nil => rfl
      | cons c z =>
        have hc := (List.cons_prefix_cons.mp ((List.prefix_append_right_inj body).mp hy)).1
        exact absurd (by simp [hc]) hv.quote_notMem
    simp [hz]

/-- Another escape is no character by its number. -/
theorem not_prefix_escape {c : Character} (hc : c ≠ 'u') (hv : IsUnit y v) :
    ¬ y <+: '\\' :: c :: body := by
  obtain ⟨hv⟩ := hv
  exact fun hy => hc (List.cons_prefix_cons.mp (List.cons_prefix_cons.mp hy).2).1.symm

end IsUnit

/-- Where the characters of a 16-bit unit stand behind a backslash and a `u`, an escape stands. -/
theorem exists_isUnit {t : Text} {u : Nat} (h : unit? t = some u) :
    ∃ x rest, IsUnit x u ∧ ('\\' :: 'u' :: t : Text) = x ++ rest := by
  by_cases hfour : ∃ a b c d rest, t = a :: b :: c :: d :: rest
  · obtain ⟨a, b, c, d, rest, rfl⟩ := hfour
    exact ⟨escape a b c d, rest, ⟨h⟩, rfl⟩
  · rw [unit?] at h
    · cases h
    · rintro a b c d rest rfl
      exact hfour ⟨a, b, c, d, rest, rfl⟩

/-- The halves of surrogate pairs are told apart. -/
theorem isLowSurrogate_of_isHighSurrogate {u : Nat} (h : isHighSurrogate u = true) :
    isLowSurrogate u = false := by
  simp only [isHighSurrogate, isLowSurrogate, Bool.and_eq_true, decide_eq_true_eq,
    Bool.and_eq_false_iff, decide_eq_false_iff_not] at *
  omega

/-! ## Numbers -/

/-- Digits of ASCII, at least one. -/
def IsDigits (t : Text) : Prop :=
  t ≠ [] ∧ ∀ c ∈ t, Character.isAsciiDigit c.toNat = true

/-- The whole digits of a number: a zero stands alone. -/
def IsWhole (t : Text) : Prop :=
  IsDigits t ∧ (t.head? = some (.scalar '0') → t.length = 1)

/-- A fraction and its digits, or none. -/
inductive IsFraction : Text → Text → Prop
  | none : IsFraction [] []
  | digits {digits : Text} (h : IsDigits digits) : IsFraction ('.' :: digits) digits

/-- The sign of a power of ten, and whether it is a minus sign. -/
inductive IsPowerSign : Text → Bool → Prop
  | none : IsPowerSign [] false
  | plus : IsPowerSign ['+'] false
  | minus : IsPowerSign ['-'] true

/-- A power of ten with its sign and its digits, or none. -/
inductive IsPower : Text → Bool → Text → Prop
  | none : IsPower [] false []
  | digits {e : Character} {sign digits : Text} {negative : Bool} (he : e = 'e' ∨ e = 'E')
      (hsign : IsPowerSign sign negative) (h : IsDigits digits) :
      IsPower (e :: (sign ++ digits)) negative digits

/-- The minus sign of a number, if it has one. -/
def minusSign (negative : Bool) : Text :=
  if negative then ['-'] else []

/-- The parts that follow the sign of a number. -/
theorem NumberParts.ofText_minusSign_append {negative : Bool} {unsigned : Text}
    (hsign : negative = false → unsigned.head? ≠ some (.scalar '-')) :
    ofText (minusSign negative ++ unsigned) =
      let whole := wholeDigits (asciiDigits unsigned)
      let fraction := fractionPart (unsigned.drop whole.length)
      ⟨negative, whole, fraction, powerPart ((unsigned.drop whole.length).drop fraction.2)⟩ := by
  have hnegative :
      decide ((minusSign negative ++ unsigned).head? = some (.scalar '-')) = negative := by
    cases negative with
    | true => rfl
    | false => exact decide_eq_false (hsign rfl)
  have hdrop (n : Nat) :
      (minusSign negative ++ unsigned).drop (signLength negative + n) = unsigned.drop n := by
    cases negative with
    | true => rw [Nat.add_comm]; rfl
    | false => exact congrArg (unsigned.drop ·) (Nat.zero_add n)
  have hunsigned : (minusSign negative ++ unsigned).drop (signLength negative) = unsigned := hdrop 0
  unfold ofText
  dsimp only [bind, Option.bind, pure]
  rw [hnegative, hdrop, hunsigned]

/-- A number is spelled by its parts, one after the other. -/
inductive NumberParts.IsSpelled : NumberParts → Text → Prop
  | mk {negative powerNegative : Bool} {whole fraction places power digits : Text}
      (hwhole : IsWhole whole) (hfraction : IsFraction fraction places)
      (hpower : IsPower power powerNegative digits) :
      IsSpelled ⟨negative, whole, (places, fraction.length), (powerNegative, digits, power.length)⟩
        (minusSign negative ++ (whole ++ (fraction ++ power)))

/-- A sign is as long as it is counted. -/
theorem length_minusSign (negative : Bool) :
    (minusSign negative).length = NumberParts.signLength negative := by
  cases negative <;> rfl

/-- A number is as long as its parts. -/
theorem NumberParts.IsSpelled.length_eq {parts : NumberParts} {t : Text} (h : parts.IsSpelled t) :
    t.length = parts.length := by
  obtain ⟨hwhole, hfraction, hpower⟩ := h
  simp only [List.length_append, length_minusSign, NumberParts.length, Nat.add_assoc]

/-- A number is no object. -/
theorem NumberParts.value_ne_object (parts : NumberParts) (es : Entries) :
    parts.value ≠ .ok (.object es) := by
  unfold value
  split
  · simp
  · split
    · split <;> simp
    · simp

/-- A number and its value. Only an integer may have too many digits. -/
def IsNumber (t : Text) (v : Value) : Prop :=
  ∃ parts : NumberParts, parts.IsSpelled t ∧ parts.value = .ok v

/-! ## Values inside each other -/

/-- What a piece of a document spells. -/
inductive Piece
  /-- A value. -/
  | value (v : Value)
  /-- The items of an array. -/
  | items (vs : List Value)
  /-- The members of an object. -/
  | members (ms : List (Text × Value))

/-- The name of a member: its key, and the colon behind it. -/
inductive IsName : Text → Text → Prop
  | mk {body key colon : Text} (hbody : IsBody body key) (hcolon : IsMark ':' colon) :
      IsName (enclosed '"' '"' body ++ colon) key

/-- What a piece of a document spells, with room for some containers inside each other. -/
inductive Spells : Nat → Text → Piece → Prop
  /-- A word. -/
  | word {room : Nat} {t : Text} {v : Value} (h : (t, v) ∈ words) : Spells room t (.value v)
  /-- A number. -/
  | number {room : Nat} {t : Text} {v : Value} (h : IsNumber t v) : Spells room t (.value v)
  /-- A text in quotes. -/
  | string {room : Nat} {body s : Text} (h : IsBody body s) :
      Spells room (enclosed '"' '"' body) (.value (.string s))
  /-- An array without items. -/
  | emptyArray {room : Nat} {space : Text} (hspace : IsSpaces space) :
      Spells (room + 1) (enclosed '[' ']' space) (.value (.array []))
  /-- An array of items. -/
  | array {room : Nat} {space t : Text} {vs : List Value} (hspace : IsSpaces space)
      (ht : Spells room t (.items vs)) :
      Spells (room + 1) (enclosed '[' ']' (space ++ t)) (.value (.array vs))
  /-- An object without members. -/
  | emptyObject {room : Nat} {space : Text} (hspace : IsSpaces space) :
      Spells (room + 1) (enclosed '{' '}' space) (.value (.object []))
  /-- An object of members. -/
  | object {room : Nat} {space t : Text} {ms : List (Text × Value)} (hspace : IsSpaces space)
      (ht : Spells room t (.members ms)) :
      Spells (room + 1) (enclosed '{' '}' (space ++ t))
        (.value (.object (Entries.insertAll [] ms)))
  /-- The last item. -/
  | lastItem {room : Nat} {t space : Text} {v : Value} (ht : Spells room t (.value v))
      (hspace : IsSpaces space) : Spells room (t ++ space) (.items [v])
  /-- An item before others. -/
  | item {room : Nat} {t comma more : Text} {v : Value} {vs : List Value}
      (ht : Spells room t (.value v)) (hcomma : IsMark ',' comma)
      (hmore : Spells room more (.items vs)) :
      Spells room (t ++ (comma ++ more)) (.items (v :: vs))
  /-- The last member. -/
  | lastMember {room : Nat} {name key t space : Text} {v : Value} (hname : IsName name key)
      (ht : Spells room t (.value v)) (hspace : IsSpaces space) :
      Spells room (name ++ (t ++ space)) (.members [(key, v)])
  /-- A member before others. -/
  | member {room : Nat} {name key t comma more : Text} {v : Value} {ms : List (Text × Value)}
      (hname : IsName name key) (ht : Spells room t (.value v)) (hcomma : IsMark ',' comma)
      (hmore : Spells room more (.members ms)) :
      Spells room (name ++ (t ++ (comma ++ more))) (.members ((key, v) :: ms))

/-- A document: a value with white space around it, and with at most so many containers inside each
other. -/
inductive IsDocument (limit : Nat) : Text → Value → Prop
  | mk {space t space' : Text} {v : Value} (hspace : IsSpaces space)
      (ht : Spells limit t (.value v)) (hspace' : IsSpaces space') :
      IsDocument limit (space ++ (t ++ space')) v

/-- White space around a value is no part of it. -/
theorem isDocument_iff_spells {limit : Nat} {t : Text} {v : Value}
    (hfirst : ∀ c ∈ t.head?, Cursor.isSpace c = false)
    (hlast : ∀ c ∈ t.getLast?, Cursor.isSpace c = false) :
    IsDocument limit t v ↔ Spells limit t (.value v) := by
  constructor
  · rintro @⟨space, t, space', v, hspace, ht, hspace'⟩
    -- A space in front would be the first character, and one behind the last.
    obtain rfl : space = [] := by
      cases space with
      | nil => rfl
      | cons x space =>
        have hx := hspace x List.mem_cons_self
        rw [hfirst x rfl] at hx
        cases hx
    obtain rfl : space' = [] := by
      rcases space'.eq_nil_or_concat' with h | ⟨s, x, rfl⟩
      · exact h
      · have hx := hspace' x (List.mem_append_right s List.mem_cons_self)
        rw [hlast x (by simp [← List.append_assoc])] at hx
        cases hx
    rwa [List.nil_append, List.append_nil]
  · intro ht
    have hnil : IsSpaces [] := fun _ hc => absurd hc List.not_mem_nil
    rw [← List.append_nil t, ← List.nil_append (t ++ [])]
    exact .mk hnil ht hnil

/-- An object of some members, with room for some containers inside it. -/
inductive IsObject (room : Nat) : Text → List (Text × Value) → Prop
  /-- There are no members. -/
  | empty {space : Text} (hspace : IsSpaces space) : IsObject room (enclosed '{' '}' space) []
  /-- There are members. -/
  | members {space t : Text} {ms : List (Text × Value)} (hspace : IsSpaces space)
      (ht : Spells room t (.members ms)) : IsObject room (enclosed '{' '}' (space ++ t)) ms

/-- The value of an object holds the last member of each key. -/
theorem spells_object_iff {room : Nat} {t : Text} {es : Entries} :
    Spells (room + 1) t (.value (.object es)) ↔
      ∃ ms, IsObject room t ms ∧ es = Entries.insertAll [] ms := by
  constructor
  · intro h
    cases h with
    | word h => simp [words] at h
    | number h =>
      obtain ⟨parts, -, hvalue⟩ := h
      exact absurd hvalue (parts.value_ne_object es)
    | emptyObject hspace => exact ⟨[], .empty hspace, rfl⟩
    | object hspace ht => exact ⟨_, .members hspace ht, rfl⟩
  · rintro ⟨ms, ⟨hspace⟩ | ⟨hspace, ht⟩, rfl⟩
    · exact .emptyObject hspace
    · exact .object hspace ht

end SourceEditor.Json

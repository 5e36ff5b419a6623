import SourceEditor.Proofs.Json.Soundness

/-!
# Documents are read

Whatever the grammar spells, the reader reads, and gets the value that is spelled. Together with
what is read being a document, this says which texts are documents and what they mean.

* `stringBody_of_isBody`: texts.
* `number_of_isNumber`: numbers, before anything that cannot go on with them.
* `Spells.isRead`: values and what stands inside them, by induction on the grammar.
* `read_eq_ok_iff`: a text is read exactly if it is a document.
-/

namespace SourceEditor.Json

/-! ## Texts -/

section Body

variable {start offset : Nat}

/-- What is read from an escape on. -/
theorem stringBody_unit {x t : Text} {u : Nat} (hx : IsUnit x u) (high : Option Nat) :
    stringBody start high offset (x ++ t) =
      if t.isEmpty then .error ⟨.brokenEscape, offset + 1⟩
      else if isHighSurrogate u then
        (stringBody start (some u) (offset + 6) t).map fun (s, next) =>
          (stringBody.afterHigh high s, next)
      else
        (stringBody start none (offset + 6) t).map fun (s, next) =>
          match high, isLowSurrogate u with
          | some h, true => (characterOfPair h u :: s, next)
          | _, _ => (stringBody.afterHigh high (.ofNat u :: s), next) := by
  obtain ⟨hu⟩ := hx
  exact (stringBody.eq_3 _ _ _ _ _ _ _ _).trans (by rw [hu]; rfl)

/-- Before anything but the escape of a second half, a first half stays alone. -/
theorem stringBody_some {high : Nat} {t : Text}
    (halone : ∀ y v, y <+: t → IsUnit y v → isLowSurrogate v = false) :
    stringBody start (some high) offset t =
      (stringBody start none offset t).map fun (s, next) => (.ofNat high :: s, next) := by
  have hmap {m : Except Error (Text × Cursor)} {f : Text → Text} :
      m.map (fun (s, next) => (stringBody.afterHigh (some high) (f s), next)) =
        (m.map fun (s, next) => (stringBody.afterHigh none (f s), next)).map
          fun (s, next) => (.ofNat high :: s, next) := by
    cases m <;> rfl
  -- Nothing but the escape of a second half looks at the first half before it, so that everything
  -- else is read with it and without it alike.
  match t with
  | [] => rfl
  | c :: t =>
    by_cases hquote : c = '"'
    · subst hquote
      rfl
    by_cases hback : c = '\\'
    · subst hback
      match t with
      | [] => rfl
      | c :: t =>
        by_cases hu : c = 'u'
        · subst hu
          cases hunit : unit? t with
          | none => rw [stringBody_of_unit?_eq_none hunit, stringBody_of_unit?_eq_none hunit]; rfl
          | some u =>
            obtain ⟨x, rest, hx, hrest⟩ := exists_isUnit hunit
            rw [hrest] at halone ⊢
            have hlow := halone x u (List.prefix_append x rest) hx
            rw [stringBody_unit hx, stringBody_unit hx]
            split
            · rfl
            · split
              · exact hmap (f := id)
              · simp only [hlow]
                exact hmap
        · rw [stringBody_escape hu, stringBody_escape hu]
          cases simpleEscape? c with
          | none => rfl
          | some e => exact hmap
    · rw [stringBody_plain hquote hback, stringBody_plain hquote hback]
      split
      · rfl
      · exact hmap

/-- What stands between quotes is read. -/
theorem stringBody_of_isBody {body s : Text} (h : IsBody body s) (start offset : Nat)
    (rest : Text) :
    ∃ next : Cursor, next.rest = rest ∧
      stringBody start none offset (body ++ .scalar '"' :: rest) = .ok (s, next) := by
  -- The induction is on how the body is written; each piece of it is one step of the reader.
  induction h generalizing offset with
  | nil => exact ⟨_, rfl, rfl⟩
  | @plain c body s hquote hback hvisible _ ih =>
    obtain ⟨next, hnext, hread⟩ := ih (offset + 1)
    refine ⟨next, hnext, ?_⟩
    rw [List.cons_append, stringBody_plain hquote hback, if_neg (Nat.not_lt.mpr hvisible), hread]
    rfl
  | @letter c e body s hletter _ ih =>
    obtain ⟨next, hnext, hread⟩ := ih (offset + 2)
    have hu : c ≠ 'u' := by
      rintro rfl
      cases hletter
    refine ⟨next, hnext, ?_⟩
    rw [List.cons_append, List.cons_append, stringBody_escape hu, hletter]
    dsimp only
    rw [hread]
    rfl
  | @unit x body s u hunit halone _ ih =>
    obtain ⟨next, hnext, hread⟩ := ih (offset + 6)
    refine ⟨next, hnext, ?_⟩
    rw [List.append_assoc, stringBody_unit hunit, if_neg (by simp)]
    -- A high surrogate stays alone, for no escape of a low one stands behind it.
    split
    · next hhigh =>
      have hbehind (y : Text) (v : Nat) (hy : y <+: body ++ .scalar '"' :: rest) (hv : IsUnit y v) :
          isLowSurrogate v = false :=
        halone hhigh y v (hv.prefix_of_prefix_append hy) hv
      rw [stringBody_some hbehind, hread]
      rfl
    · rw [hread]
      rfl
  | @pair x y body s high low hx hy hhigh hlow _ ih =>
    obtain ⟨next, hnext, hread⟩ := ih (offset + 6 + 6)
    refine ⟨next, hnext, ?_⟩
    have hnot : ¬ isHighSurrogate low = true := by
      intro hhigh
      rw [isLowSurrogate_of_isHighSurrogate hhigh] at hlow
      cases hlow
    rw [List.append_assoc, List.append_assoc, stringBody_unit hx, if_neg (by simp), if_pos hhigh,
      stringBody_unit hy, if_neg (by simp), if_neg hnot, hread, hlow]
    rfl

end Body

/-! ## Numbers -/

/-- A text that no digits begin with. -/
def BeginsNoDigits (t : Text) : Prop :=
  ∀ c ∈ t.head?, Character.isAsciiDigit c.toNat = false

/-- A text that cannot go on with a number before it. -/
structure EndsNumber (t : Text) : Prop where
  /-- No digit follows. -/
  digits : BeginsNoDigits t
  /-- No fraction follows. -/
  fraction : t.head? ≠ some (.scalar '.')
  /-- No power of ten follows. -/
  power : t.head? ≠ some (.scalar 'e') ∧ t.head? ≠ some (.scalar 'E')

/-- Digits are taken up to what is no digit. -/
theorem asciiDigits_append {digits rest : Text} (h : IsDigits digits)
    (hrest : BeginsNoDigits rest) : asciiDigits (digits ++ rest) = digits := by
  have hnone : asciiDigits rest = [] := by
    cases rest with
    | nil => rfl
    | cons c rest => exact List.takeWhile_cons_of_neg (by simp [hrest c rfl])
  rw [asciiDigits, List.takeWhile_append_of_pos h.2, ← asciiDigits, hnone, List.append_nil]

/-- A sign is told from a digit. -/
theorem IsDigits.head?_ne {digits : Text} (h : IsDigits digits) {c : Character}
    (hc : Character.isAsciiDigit c.toNat = false) : digits.head? ≠ some c := fun hhead =>
  Bool.false_ne_true (hc.symm.trans (h.2 c (List.mem_of_head? hhead)))

/-- So is a fraction. -/
theorem fractionPart_append {fraction digits rest : Text} (h : IsFraction fraction digits)
    (hrest : BeginsNoDigits rest) (hpoint : rest.head? ≠ some (.scalar '.')) :
    fractionPart (fraction ++ rest) = (digits, fraction.length) := by
  cases h with
  | none => exact fractionPart_of_head? hpoint
  | digits h =>
    rw [List.cons_append, fractionPart_point, asciiDigits_append h hrest]
    simp [h.1]

/-- So is a power of ten. -/
theorem powerPart_append {power digits rest : Text} {negative : Bool}
    (h : IsPower power negative digits) (hrest : BeginsNoDigits rest)
    (hpower : rest.head? ≠ some (.scalar 'e') ∧ rest.head? ≠ some (.scalar 'E')) :
    powerPart (power ++ rest) = (negative, digits, power.length) := by
  cases h with
  | none => exact powerPart_of_head? hpower.1 hpower.2
  | @digits e sign digits negative he hsign h =>
    rw [List.cons_append, powerPart_cons he, List.append_assoc]
    have hminus := h.head?_ne (c := '-') (by decide)
    have hplus := h.head?_ne (c := '+') (by decide)
    cases hsign with
    | none => simp [powerSignLength, hminus, hplus, asciiDigits_append h hrest, h.1]
    | plus => simp [powerSignLength, asciiDigits_append h hrest, h.1]
    | minus => simp [powerSignLength, asciiDigits_append h hrest, h.1]

/-- A fraction begins with no digit. -/
theorem IsFraction.beginsNoDigits {fraction digits rest : Text} (h : IsFraction fraction digits)
    (hrest : BeginsNoDigits rest) : BeginsNoDigits (fraction ++ rest) := by
  cases h with
  | none => exact hrest
  | digits => rintro c ⟨⟩; decide

/-- What follows a fraction begins with no digits, nor does it go on with the fraction. -/
theorem IsPower.endsFraction {power digits rest : Text} {negative : Bool}
    (h : IsPower power negative digits) (hrest : EndsNumber rest) :
    BeginsNoDigits (power ++ rest) ∧ (power ++ rest).head? ≠ some (.scalar '.') := by
  cases h with
  | none => exact ⟨hrest.digits, hrest.fraction⟩
  | digits he =>
    rcases he with rfl | rfl
    · exact ⟨by rintro c ⟨⟩; decide, by simp⟩
    · exact ⟨by rintro c ⟨⟩; decide, by simp⟩

/-- A whole part is taken as a whole. -/
theorem wholeDigits_of_isWhole {whole : Text} (h : IsWhole whole) : wholeDigits whole = whole := by
  unfold wholeDigits
  split
  · next hzero => exact List.take_of_length_le (h.2 hzero).le
  · rfl

/-- The parts of a number are found in what spells it. -/
theorem NumberParts.ofText_append {parts : NumberParts} {t rest : Text} (h : parts.IsSpelled t)
    (hrest : EndsNumber rest) : ofText (t ++ rest) = parts := by
  obtain @⟨negative, powerNegative, whole, fraction, places, power, digits, hwhole, hfraction,
    hpower⟩ := h
  obtain ⟨hafter, hpoint⟩ := hpower.endsFraction hrest
  have hsign : negative = false →
      (whole ++ (fraction ++ (power ++ rest))).head? ≠ some (.scalar '-') := by
    rw [List.head?_append_of_ne_nil _ hwhole.1.1]
    exact fun _ => hwhole.1.head?_ne (by decide)
  simp only [List.append_assoc]
  rw [ofText_minusSign_append hsign, asciiDigits_append hwhole.1 (hfraction.beginsNoDigits hafter),
    wholeDigits_of_isWhole hwhole]
  dsimp only
  rw [List.drop_left, fractionPart_append hfraction hafter hpoint, List.drop_left,
    powerPart_append hpower hrest.digits hrest.power]

/-- A number is read, up to what cannot belong to it. -/
theorem number_of_isNumber {c : Cursor} {t rest : Text} {v : Value} (h : IsNumber t v)
    (hc : c.rest = t ++ rest) (hrest : EndsNumber rest) :
    ∃ next : Cursor, next.rest = rest ∧ number c = .ok (v, next) := by
  obtain ⟨parts, hspelled, hvalue⟩ := h
  refine ⟨c.advance parts.length, ?_, ?_⟩
  · rw [Cursor.rest_advance, hc, ← hspelled.length_eq, List.drop_left]
  · rw [number_eq, hc, NumberParts.ofText_append hspelled hrest, hvalue]

/-! ## Words -/

/-- A word is read, and whatever follows it is left. -/
theorem scalar_of_word {c : Cursor} {t rest : Text} {v : Value} (h : (t, v) ∈ words)
    (hc : c.rest = t ++ rest) : scalar c = .ok (v, c.advance t.length) := by
  have hfind : ∀ word ∈ words,
      words.find? (fun word' => word'.1.isPrefixOf (word.1 ++ rest)) = some word := by
    intro word hword
    simp only [words, List.mem_cons, List.not_mem_nil, or_false] at hword
    rcases hword with rfl | rfl | rfl | rfl | rfl | rfl <;> rfl
  rw [scalar, hc, hfind _ h]

/-- The first characters of a number. -/
theorem IsNumber.exists_digit {t : Text} {v : Value} (h : IsNumber t v) :
    ∃ c more, Character.isAsciiDigit c.toNat = true ∧
      (t = c :: more ∨ t = ('-' :: c :: more : Text)) := by
  obtain ⟨-, ⟨hwhole, -, -⟩, -⟩ := h
  rename_i negative powerNegative whole fraction places power digits
  obtain ⟨c, more, rfl⟩ := List.exists_cons_of_ne_nil hwhole.1.1
  refine ⟨c, more ++ (fraction ++ power), hwhole.1.2 c List.mem_cons_self, ?_⟩
  cases negative with
  | false => exact Or.inl rfl
  | true => exact Or.inr rfl

/-- A number is no word, so that it is read as a number. -/
theorem scalar_of_isNumber {c : Cursor} {t rest : Text} {v : Value} (h : IsNumber t v)
    (hc : c.rest = t ++ rest) (hrest : EndsNumber rest) :
    ∃ next : Cursor, next.rest = rest ∧ scalar c = .ok (v, next) := by
  -- One of the first two characters of a number is a digit, and no word has any.
  obtain ⟨d, hdigit, hmem⟩ : ∃ d : Character, Character.isAsciiDigit d.toNat = true ∧
      d ∈ c.rest.take 2 := by
    obtain ⟨d, more, hdigit, rfl | rfl⟩ := h.exists_digit
    · exact ⟨d, hdigit, by simp [hc]⟩
    · exact ⟨d, hdigit, by simp [hc]⟩
  have hwords : ∀ word ∈ words, 2 ≤ word.1.length ∧
      ∀ x ∈ word.1, Character.isAsciiDigit x.toNat = false := by decide
  have hnone : words.find? (fun word => word.1.isPrefixOf c.rest) = none := by
    refine List.find?_eq_none.mpr fun word hword hprefix => ?_
    obtain ⟨hlength, hdigits⟩ := hwords word hword
    have heq := List.prefix_iff_eq_take.mp (List.isPrefixOf_iff_prefix.mp hprefix)
    have hd : d ∈ word.1 := by
      rw [heq]
      exact (List.take_prefix_take_left hlength).subset hmem
    rw [hdigits d hd] at hdigit
    cases hdigit
  rw [scalar, hnone]
  exact number_of_isNumber h hc hrest

/-! ## Values inside each other -/

/-- A text that no white space begins. -/
def BeginsNoSpace (t : Text) : Prop :=
  ∀ c ∈ t.head?, Cursor.isSpace c = false

section Containers

variable {α : Type} {c : Cursor} {u : Text}

/-- White space is skipped up to what is none. -/
theorem rest_skipSpace_of_spaces {space : Text} (hspace : IsSpaces space) (hu : BeginsNoSpace u)
    (hc : c.rest = space ++ u) : c.skipSpace.rest = u := by
  rw [Cursor.rest_skipSpace, hc, List.dropWhile_append_of_pos hspace]
  cases u with
  | nil => rfl
  | cons x u => exact List.dropWhile_cons_of_neg (by simp [hu x rfl])

/-- A character that no number goes on with. -/
theorem endsNumber_cons {x : Character} (hx : Character.isAsciiDigit x.toNat = false)
    (hmarks : x ∉ (['.', 'e', 'E'] : Text)) : EndsNumber (x :: u) := by
  simp only [List.mem_cons, List.not_mem_nil, or_false, not_or] at hmarks
  exact ⟨by rintro c ⟨⟩; exact hx, by simpa using hmarks.1, by simpa using hmarks.2⟩

/-- A number ends where the text does. -/
theorem endsNumber_nil : EndsNumber [] :=
  ⟨by simp [BeginsNoDigits], by simp, by simp⟩

/-- White space before what no number goes on with is no better. -/
theorem EndsNumber.of_spaces {space : Text} (hspace : IsSpaces space) (hu : EndsNumber u) :
    EndsNumber (space ++ u) := by
  cases space with
  | nil => exact hu
  | cons x space =>
    have hx : x ∈ ([' ', '\t', '\n', '\r'] : Text) := by
      simpa [Cursor.isSpace, or_assoc] using hspace x List.mem_cons_self
    have hspaces : ∀ x ∈ ([' ', '\t', '\n', '\r'] : Text),
        Character.isAsciiDigit x.toNat = false ∧ x ∉ (['.', 'e', 'E'] : Text) := by decide
    exact endsNumber_cons (hspaces x hx).1 (hspaces x hx).2

/-- A number ends before a comma. -/
theorem EndsNumber.of_comma {comma : Text} (hcomma : IsMark ',' comma) :
    EndsNumber (comma ++ u) := by
  obtain ⟨hspace, -⟩ := hcomma
  rw [List.append_assoc]
  exact .of_spaces hspace (endsNumber_cons (by decide) (by decide))

/-- What is read of a mark and the white space around it. -/
theorem rest_of_mark {mark : Character} {t : Text} (ht : IsMark mark t)
    (hmark : Cursor.isSpace mark = false) (hu : BeginsNoSpace u) (hc : c.rest = t ++ u) :
    c.skipSpace.rest.head? = some mark ∧ (c.skipSpace.advance 1).skipSpace.rest = u := by
  obtain @⟨space, space', hspace, hspace'⟩ := ht
  have hrest : c.skipSpace.rest = mark :: (space' ++ u) := by
    refine rest_skipSpace_of_spaces hspace ?_ (hc.trans (by simp))
    rintro x ⟨⟩
    exact hmark
  refine ⟨by rw [hrest]; rfl, rest_skipSpace_of_spaces hspace' hu ?_⟩
  rw [Cursor.rest_advance, hrest]
  rfl

/-- A key and the colon behind it are read. -/
theorem key_of_isName {name k : Text} (hname : IsName name k) (hu : BeginsNoSpace u)
    (hc : c.rest = name ++ u) : ∃ next : Cursor, next.rest = u ∧ key c = .ok (k, next) := by
  obtain @⟨body, k, colon, hbody, hcolon⟩ := hname
  have hquote : c.rest = .scalar '"' :: (body ++ .scalar '"' :: (colon ++ u)) := by
    rw [hc]
    simp [enclosed]
  obtain ⟨next, hnext, hread⟩ := stringBody_of_isBody hbody c.offset (c.offset + 1) (colon ++ u)
  obtain ⟨hhead, hrest⟩ := rest_of_mark hcolon (by decide) hu hnext
  refine ⟨_, hrest, ?_⟩
  rw [key_of_quote hquote, hread]
  exact if_pos hhead

variable {close : Character} {rest space : Text}

/-- A container without anything inside is read. -/
theorem afterOpening_of_close {opening : Character} (hspace : IsSpaces space)
    (hclose : Cursor.isSpace close = false) (hc : c.rest = enclosed opening close space ++ rest) :
    ∃ next : Cursor, next.rest = rest ∧
      ∀ (empty : α) inside, afterOpening close empty inside c = .ok (empty, next) := by
  have hrest : (c.advance 1).skipSpace.rest = close :: rest := by
    refine rest_skipSpace_of_spaces hspace ?_ ?_
    · rintro x ⟨⟩
      exact hclose
    · rw [Cursor.rest_advance, hc]
      simp [enclosed]
  refine ⟨_, ?_, fun empty inside => if_pos (by rw [hrest]; rfl)⟩
  rw [Cursor.rest_advance, hrest]
  rfl

/-- What is inside a container is read from its first character on. -/
theorem afterOpening_of_inside {opening : Character} (hspace : IsSpaces space)
    (hu : BeginsNoSpace u) (hclose : u.head? ≠ some close) (hc : c.rest = opening :: (space ++ u)) :
    ∃ mid : Cursor, mid.rest = u ∧
      ∀ (empty : α) inside, afterOpening close empty inside c = inside mid := by
  have hrest : (c.advance 1).skipSpace.rest = u := by
    refine rest_skipSpace_of_spaces hspace hu ?_
    rw [Cursor.rest_advance, hc]
    rfl
  exact ⟨_, hrest, fun empty inside => if_neg (by rwa [hrest])⟩

/-- The last value inside a container is read together with its closing character. -/
theorem afterValue_of_close (hspace : IsSpaces space) (hclose : Cursor.isSpace close = false)
    (hcomma : close ≠ ',') (hc : c.rest = space ++ close :: rest) :
    ∃ next : Cursor, next.rest = rest ∧
      ∀ (last : α) more, afterValue close last more c = .ok (last, next) := by
  have hrest : c.skipSpace.rest = close :: rest := by
    refine rest_skipSpace_of_spaces hspace ?_ hc
    rintro x ⟨⟩
    exact hclose
  refine ⟨c.skipSpace.advance 1, by rw [Cursor.rest_advance, hrest]; rfl, fun last more => ?_⟩
  rw [afterValue, hrest, List.head?_cons, if_neg (by simpa using hcomma), if_pos rfl]

/-- Behind a comma, more is read. -/
theorem afterValue_of_comma {comma : Text} (hcomma : IsMark ',' comma) (hu : BeginsNoSpace u)
    (hc : c.rest = comma ++ u) : ∃ mid : Cursor, mid.rest = u ∧
      ∀ (last : α) more, afterValue close last more c = more mid := by
  obtain ⟨hhead, hrest⟩ := rest_of_mark hcomma (by decide) hu hc
  exact ⟨_, hrest, fun last more => if_pos hhead⟩

end Containers

/-- The characters that begin no word and no number. -/
def delimiters : Text :=
  [' ', '\t', '\n', '\r', '"', '[', ']', '{', '}', '\uFEFF']

/-- What is no delimiter is no white space. -/
theorem isSpace_of_notMem_delimiters {c : Character} (h : c ∉ delimiters) :
    Cursor.isSpace c = false := by
  simp only [delimiters, List.mem_cons, not_or] at h
  simp [Cursor.isSpace, h]

/-- A word begins with no delimiter. -/
theorem exists_head_of_word {t : Text} {v : Value} (h : (t, v) ∈ words) :
    ∃ c more, t = c :: more ∧ c ∉ delimiters := by
  have hwords : ∀ word ∈ words, ∃ c ∈ word.1.head?, c ∉ delimiters := by decide
  obtain ⟨c, hhead, hc⟩ := hwords _ h
  obtain ⟨more, rfl⟩ := List.head?_eq_some_iff.mp hhead
  exact ⟨c, more, rfl, hc⟩

/-- Neither does a number. -/
theorem IsNumber.exists_head {t : Text} {v : Value} (h : IsNumber t v) :
    ∃ c more, t = c :: more ∧ c ∉ delimiters := by
  have hnone : ∀ x ∈ delimiters, Character.isAsciiDigit x.toNat = false := by decide
  obtain ⟨c, more, hdigit, rfl | rfl⟩ := h.exists_digit
  · exact ⟨c, more, rfl, fun hc => Bool.false_ne_true ((hnone c hc).symm.trans hdigit)⟩
  · exact ⟨_, _, rfl, by decide⟩

/-- What begins with no delimiter is read as a word or a number. -/
theorem value_eq_scalar {fuel room : Nat} {c : Cursor} {x : Character} {more : Text}
    (hc : c.rest = x :: more) (hx : x ∉ delimiters) : value (fuel + 1) room c = scalar c := by
  have hne {y : Character} (hy : y ∈ delimiters) : c.rest.head? ≠ some y := by
    rw [hc]
    rintro ⟨⟩
    exact hx hy
  exact value_of_head? (hne (by decide)) (hne (by decide)) (hne (by decide))

/-- The first character of a piece: no white space, no closing character of a container, and no byte
order mark. -/
theorem Spells.exists_head {room : Nat} {t : Text} {piece : Piece} (h : Spells room t piece) :
    ∃ c more, t = c :: more ∧ Cursor.isSpace c = false ∧ c ∉ ([']', '}', '\uFEFF'] : Text) := by
  have hsub : ∀ c ∈ ([']', '}', '\uFEFF'] : Text), c ∈ delimiters := by decide
  induction h with
  | word h =>
    obtain ⟨c, more, rfl, hc⟩ := exists_head_of_word h
    exact ⟨c, more, rfl, isSpace_of_notMem_delimiters hc, fun hmem => hc (hsub c hmem)⟩
  | number h =>
    obtain ⟨c, more, rfl, hc⟩ := h.exists_head
    exact ⟨c, more, rfl, isSpace_of_notMem_delimiters hc, fun hmem => hc (hsub c hmem)⟩
  | string | emptyArray | array | emptyObject | object => exact ⟨_, _, rfl, by decide, by decide⟩
  | lastItem _ _ ih | item _ _ _ ih =>
    obtain ⟨c, more, rfl, h⟩ := ih
    exact ⟨c, _, rfl, h⟩
  | lastMember hname | member hname =>
    obtain ⟨-, -⟩ := hname
    exact ⟨_, _, rfl, by decide, by decide⟩

/-- A piece has characters, so that there is fuel for it. -/
theorem Spells.length_pos {room : Nat} {t : Text} {piece : Piece} (h : Spells room t piece) :
    0 < t.length := by
  obtain ⟨c, more, rfl, -⟩ := h.exists_head
  exact Nat.succ_pos _

/-- No piece begins with white space. -/
theorem Spells.beginsNoSpace {room : Nat} {t rest : Text} {piece : Piece}
    (h : Spells room t piece) : BeginsNoSpace (t ++ rest) := by
  obtain ⟨c, more, rfl, hc, -⟩ := h.exists_head
  rintro x ⟨⟩
  exact hc

/-- No piece begins as nothing does. -/
theorem Spells.head?_ne {room : Nat} {t rest : Text} {piece : Piece} (h : Spells room t piece)
    {x : Character} (hx : x ∈ ([']', '}', '\uFEFF'] : Text)) : (t ++ rest).head? ≠ some x := by
  obtain ⟨c, more, rfl, -, hc⟩ := h.exists_head
  rintro ⟨⟩
  exact hc hx

/-- A piece is read, with fuel for each of its characters and before anything that no number goes on
with. The pieces inside an array or object are read together with its closing character. -/
def Piece.IsRead (room : Nat) (t : Text) : Piece → Prop
  | .value v => ∀ fuel (c : Cursor) (rest : Text), t.length ≤ fuel → c.rest = t ++ rest →
      EndsNumber rest → ∃ next : Cursor, next.rest = rest ∧ Json.value fuel room c = .ok (v, next)
  | .items vs => ∀ fuel (c : Cursor) (rest : Text), t.length < fuel →
      c.rest = t ++ .scalar ']' :: rest →
      ∃ next : Cursor, next.rest = rest ∧ Json.items fuel room c = .ok (vs, next)
  | .members ms => ∀ fuel (before : Entries) (c : Cursor) (rest : Text), t.length < fuel →
      c.rest = t ++ .scalar '}' :: rest → ∃ next : Cursor, next.rest = rest ∧
        Json.entries fuel room before c = .ok (before.insertAll ms, next)

/-- Enclosing a text makes it longer by two. -/
theorem length_enclosed (opening closing : Character) (t : Text) :
    (enclosed opening closing t).length = t.length + 2 := by
  simp [enclosed]

/-- Where something is left to read, some fuel is. -/
theorem exists_fuel {n fuel : Nat} (h : n < fuel) : ∃ k, fuel = k + 1 :=
  Nat.exists_eq_add_one_of_ne_zero (Nat.ne_of_gt (Nat.zero_lt_of_lt h))

namespace Piece.IsRead

variable {room : Nat} {t space : Text}

/-- A word or a number is read where nothing goes on with it. -/
theorem of_scalar {v : Value} (hhead : ∃ x more, t = x :: more ∧ x ∉ delimiters)
    (h : ∀ (c : Cursor) rest, c.rest = t ++ rest → EndsNumber rest →
      ∃ next : Cursor, next.rest = rest ∧ scalar c = .ok (v, next)) :
    IsRead room t (.value v) := by
  intro fuel c rest hfuel hc hrest
  obtain ⟨next, hnext, hread⟩ := h c rest hc hrest
  obtain ⟨x, more, rfl, hx⟩ := hhead
  obtain ⟨fuel, rfl⟩ := exists_fuel hfuel
  exact ⟨next, hnext, (value_eq_scalar hc hx).trans hread⟩

/-- A text in quotes is read. -/
theorem string {body s : Text} (h : IsBody body s) :
    IsRead room (enclosed '"' '"' body) (.value (.string s)) := by
  intro fuel c rest hfuel hc hrest
  obtain ⟨fuel, rfl⟩ := exists_fuel hfuel
  have hquote : c.rest = .scalar '"' :: (body ++ .scalar '"' :: rest) := by
    rw [hc]
    simp [enclosed]
  obtain ⟨next, hnext, hread⟩ := stringBody_of_isBody h c.offset (c.offset + 1) rest
  exact ⟨next, hnext, by rw [value_of_quote hquote, hread]; rfl⟩

/-- An array without items is read. -/
theorem emptyArray (hspace : IsSpaces space) :
    IsRead (room + 1) (enclosed '[' ']' space) (.value (.array [])) := by
  intro fuel c rest hfuel hc hrest
  obtain ⟨fuel, rfl⟩ := exists_fuel hfuel
  obtain ⟨next, hnext, hread⟩ := afterOpening_of_close hspace (by decide) hc
  exact ⟨next, hnext, (value_of_bracket hc).trans (hread _ _)⟩

/-- An object without members is read. -/
theorem emptyObject (hspace : IsSpaces space) :
    IsRead (room + 1) (enclosed '{' '}' space) (.value (.object [])) := by
  intro fuel c rest hfuel hc hrest
  obtain ⟨fuel, rfl⟩ := exists_fuel hfuel
  obtain ⟨next, hnext, hread⟩ := afterOpening_of_close hspace (by decide) hc
  exact ⟨next, hnext, (value_of_brace hc).trans (hread _ _)⟩

/-- The characters of a container, up to what is inside it. -/
theorem exists_inside {α : Type} {opening close : Character} {piece : Piece}
    (hspace : IsSpaces space) (ht : Spells room t piece)
    (hclose : close ∈ ([']', '}', '\uFEFF'] : Text)) {c : Cursor} {rest : Text}
    (hc : c.rest = enclosed opening close (space ++ t) ++ rest) :
    (∃ more, c.rest = opening :: more) ∧ ∃ mid : Cursor, mid.rest = t ++ close :: rest ∧
      ∀ (empty : α) inside, Json.afterOpening close empty inside c = inside mid := by
  have hopen : c.rest = opening :: (space ++ (t ++ close :: rest)) := by
    rw [hc]
    simp [enclosed]
  exact ⟨⟨_, hopen⟩, afterOpening_of_inside hspace ht.beginsNoSpace (ht.head?_ne hclose) hopen⟩

/-- A container takes one unit of fuel, and its characters leave enough for what is inside it. -/
theorem array {vs : List Value} (hspace : IsSpaces space) (ht : Spells room t (.items vs))
    (ih : IsRead room t (.items vs)) :
    IsRead (room + 1) (enclosed '[' ']' (space ++ t)) (.value (.array vs)) := by
  intro fuel c rest hfuel hc hrest
  obtain ⟨fuel, rfl⟩ := exists_fuel hfuel
  rw [length_enclosed, List.length_append] at hfuel
  obtain ⟨⟨more, hopen⟩, mid, hmid, hinside⟩ := exists_inside hspace ht (by decide) hc
  obtain ⟨next, hnext, hread⟩ := ih fuel mid rest (by omega) hmid
  refine ⟨next, hnext, (value_of_bracket hopen).trans ((hinside _ _).trans ?_)⟩
  rw [hread]
  rfl

/-- An object is read once its members are. -/
theorem object {ms : List (Text × Value)} (hspace : IsSpaces space)
    (ht : Spells room t (.members ms)) (ih : IsRead room t (.members ms)) :
    IsRead (room + 1) (enclosed '{' '}' (space ++ t))
      (.value (.object (Entries.insertAll [] ms))) := by
  intro fuel c rest hfuel hc hrest
  obtain ⟨fuel, rfl⟩ := exists_fuel hfuel
  rw [length_enclosed, List.length_append] at hfuel
  obtain ⟨⟨more, hopen⟩, mid, hmid, hinside⟩ := exists_inside hspace ht (by decide) hc
  obtain ⟨next, hnext, hread⟩ := ih fuel [] mid rest (by omega) hmid
  refine ⟨next, hnext, (value_of_brace hopen).trans ((hinside _ _).trans ?_)⟩
  rw [hread]
  rfl

section Inside

variable {comma more name k : Text} {v : Value} {vs : List Value} {ms : List (Text × Value)}

/-- The last item is read once its value is. -/
theorem lastItem (ih : IsRead room t (.value v)) (hspace : IsSpaces space) :
    IsRead room (t ++ space) (.items [v]) := by
  intro fuel c rest hfuel hc
  obtain ⟨fuel, rfl⟩ := exists_fuel hfuel
  rw [List.length_append] at hfuel
  rw [List.append_assoc] at hc
  obtain ⟨mid, hmid, hvalue⟩ := ih fuel c _ (by omega) hc
    (.of_spaces hspace (endsNumber_cons (by decide) (by decide)))
  obtain ⟨next, hnext, hread⟩ := afterValue_of_close hspace (by decide) (by decide) hmid
  refine ⟨next, hnext, ?_⟩
  rw [items_succ, hvalue, ok_bind]
  exact hread _ _

/-- So is an item before others. -/
theorem item (ht : Spells room t (.value v)) (ih : IsRead room t (.value v))
    (hcomma : IsMark ',' comma) (hmore : Spells room more (.items vs))
    (ihmore : IsRead room more (.items vs)) :
    IsRead room (t ++ (comma ++ more)) (.items (v :: vs)) := by
  intro fuel c rest hfuel hc
  obtain ⟨fuel, rfl⟩ := exists_fuel hfuel
  have hpos := ht.length_pos
  simp only [List.length_append] at hfuel
  simp only [List.append_assoc] at hc
  obtain ⟨mid, hmid, hvalue⟩ := ih fuel c _ (by omega) hc (.of_comma hcomma)
  obtain ⟨mid', hmid', hafter⟩ := afterValue_of_comma hcomma hmore.beginsNoSpace hmid
  obtain ⟨next, hnext, hread⟩ := ihmore fuel mid' rest (by omega) hmid'
  refine ⟨next, hnext, ?_⟩
  rw [items_succ, hvalue, ok_bind]
  refine (hafter _ _).trans ?_
  rw [hread]
  rfl

/-- The last member is read once its name and its value are. -/
theorem lastMember (hname : IsName name k) (ht : Spells room t (.value v))
    (ih : IsRead room t (.value v)) (hspace : IsSpaces space) :
    IsRead room (name ++ (t ++ space)) (.members [(k, v)]) := by
  intro fuel before c rest hfuel hc
  obtain ⟨fuel, rfl⟩ := exists_fuel hfuel
  simp only [List.length_append] at hfuel
  simp only [List.append_assoc] at hc
  obtain ⟨mid, hmid, hkey⟩ := key_of_isName hname ht.beginsNoSpace hc
  obtain ⟨mid', hmid', hvalue⟩ := ih fuel mid _ (by omega) hmid
    (.of_spaces hspace (endsNumber_cons (by decide) (by decide)))
  obtain ⟨next, hnext, hread⟩ := afterValue_of_close hspace (by decide) (by decide) hmid'
  refine ⟨next, hnext, ?_⟩
  rw [entries_succ, hkey, ok_bind]
  dsimp only
  rw [hvalue, ok_bind]
  exact hread _ _

/-- So is a member before others. -/
theorem member (hname : IsName name k) (ht : Spells room t (.value v))
    (ih : IsRead room t (.value v)) (hcomma : IsMark ',' comma)
    (hmore : Spells room more (.members ms)) (ihmore : IsRead room more (.members ms)) :
    IsRead room (name ++ (t ++ (comma ++ more))) (.members ((k, v) :: ms)) := by
  intro fuel before c rest hfuel hc
  obtain ⟨fuel, rfl⟩ := exists_fuel hfuel
  have hpos := ht.length_pos
  simp only [List.length_append] at hfuel
  simp only [List.append_assoc] at hc
  obtain ⟨mid, hmid, hkey⟩ := key_of_isName hname ht.beginsNoSpace hc
  obtain ⟨mid', hmid', hvalue⟩ := ih fuel mid _ (by omega) hmid (.of_comma hcomma)
  obtain ⟨mid'', hmid'', hafter⟩ := afterValue_of_comma hcomma hmore.beginsNoSpace hmid'
  obtain ⟨next, hnext, hread⟩ := ihmore fuel (before.insert k v) mid'' rest (by omega) hmid''
  refine ⟨next, hnext, ?_⟩
  rw [entries_succ, hkey, ok_bind]
  dsimp only
  rw [hvalue, ok_bind]
  exact (hafter _ _).trans hread

end Inside

end Piece.IsRead

/-- Whatever is spelled is read. -/
theorem Spells.isRead {room : Nat} {t : Text} {piece : Piece} (h : Spells room t piece) :
    piece.IsRead room t := by
  induction h with
  | word h =>
    refine .of_scalar (exists_head_of_word h) fun c rest hc _ => ⟨_, ?_, scalar_of_word h hc⟩
    rw [Cursor.rest_advance, hc, List.drop_left]
  | number h => exact .of_scalar h.exists_head fun c rest => scalar_of_isNumber h
  | string h => exact .string h
  | emptyArray hspace => exact .emptyArray hspace
  | array hspace ht ih => exact .array hspace ht ih
  | emptyObject hspace => exact .emptyObject hspace
  | object hspace ht ih => exact .object hspace ht ih
  | lastItem _ hspace ih => exact .lastItem ih hspace
  | item ht hcomma hmore ih ihmore => exact .item ht ih hcomma hmore ihmore
  | lastMember hname ht hspace ih => exact .lastMember hname ht ih hspace
  | member hname ht hcomma hmore ih ihmore => exact .member hname ht ih hcomma hmore ihmore

/-! ## Documents -/

/-- The end of a text is no white space. -/
theorem beginsNoSpace_nil : BeginsNoSpace [] := by
  simp [BeginsNoSpace]

/-- A document is read. -/
theorem read_of_isDocument {limit : Nat} {t : Text} {v : Value} (h : IsDocument limit t v) :
    read limit t = .ok v := by
  obtain @⟨space, u, space', v, hspace, hu, hspace'⟩ := h
  have hmark : (space ++ (u ++ space')).head? ≠ some (.scalar '\uFEFF') := by
    cases space with
    | nil => exact hu.head?_ne (by decide)
    | cons x space =>
      rintro ⟨⟩
      exact Bool.false_ne_true (hspace '\uFEFF' List.mem_cons_self)
  have hstart : (Cursor.ofDocument (space ++ (u ++ space'))).rest = u ++ space' :=
    rest_skipSpace_of_spaces hspace hu.beginsNoSpace rfl
  have hends : EndsNumber space' := by
    rw [← List.append_nil space']
    exact .of_spaces hspace' endsNumber_nil
  obtain ⟨next, hnext, hread⟩ := hu.isRead (2 * (space ++ (u ++ space')).length + 2) _ space'
    (by simp only [List.length_append]; omega) hstart hends
  have hend : next.skipSpace.rest = [] :=
    rest_skipSpace_of_spaces hspace' beginsNoSpace_nil (by rw [hnext, List.append_nil])
  rw [read_eq hmark, hread, finish, hend]
  rfl

/-- A text is read exactly if it is a document, and the value read is the one it spells. -/
theorem read_eq_ok_iff {limit : Nat} {t : Text} {v : Value} :
    read limit t = .ok v ↔ IsDocument limit t v :=
  ⟨isDocument_of_read, read_of_isDocument⟩

/-- A document spells one value. -/
theorem IsDocument.unique {limit : Nat} {t : Text} {v v' : Value} (h : IsDocument limit t v)
    (h' : IsDocument limit t v') : v = v' :=
  Except.ok.inj ((read_of_isDocument h).symm.trans (read_of_isDocument h'))

end SourceEditor.Json


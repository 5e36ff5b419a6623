import SourceEditor.Proofs.Json.Extent
import SourceEditor.Proofs.Text.LineEnds
import Mathlib.Data.List.Find

/-!
# The line ends of documents

A carriage return stands in no value of a document: between the values it is white space like a line
feed, and inside a text either of them is refused. So it makes no difference to the reader whether
the line ends of a document are read as line feeds, except for the offsets of its errors.

* `Agree`: what a part of the reader comes to on a text and on the same text with line feeds.
* `agree_stringBody`, `agree_number`, `agree_scalar`, `agree_key`: the parts that hold no others.
* `agreeWith`: the parts that stand inside each other, by induction on the fuel, which may differ as
  the texts do.
* `mapError_fault_read_withLineFeeds`: the same value, or the same fault.
-/

namespace SourceEditor.Json

/-- Two parts of the reader come to the same, the first of them on a text and the second on the text
with line feeds. -/
inductive Agree {α : Type} : Except Error (α × Cursor) → Except Error (α × Cursor) → Prop
  | ok (a : α) {next next' : Cursor} (h : next'.rest = next.rest.withLineFeeds) :
      Agree (.ok (a, next)) (.ok (a, next'))
  | error (fault : Fault) (offset offset' : Nat) :
      Agree (.error ⟨fault, offset⟩) (.error ⟨fault, offset'⟩)

namespace Agree

variable {α β : Type} {m m' : Except Error (α × Cursor)} {t t' : Text}

/-- The same fault at two places agrees. -/
theorem fail (c c' : Cursor) (fault : Fault) :
    Agree (c.fail fault : Except Error (α × Cursor)) (c'.fail fault) :=
  .error fault c.offset c'.offset

/-- Parts after each other: both sides get on by the first, so less of the texts is left for the
second. -/
theorem bind {f f' : α × Cursor → Except Error (β × Cursor)} (h : Agree m m')
    (hm : GetsOn t m) (hm' : GetsOn t' m')
    (hf : ∀ a next next', next'.rest = next.rest.withLineFeeds →
      next.rest.length < t.length → next'.rest.length < t'.length →
      Agree (f (a, next)) (f' (a, next'))) :
    Agree (m >>= f) (m' >>= f') := by
  cases h with
  | ok a h =>
    cases hm with
    | ok _ shorter =>
      cases hm' with
      | ok _ shorter' => exact hf a _ _ h shorter shorter'
  | error fault offset offset' => exact .error fault offset offset'

/-- What is made of results that agree agrees. -/
theorem map {f f' : α × Cursor → β × Cursor} (h : Agree m m')
    (hf : ∀ a next next', next'.rest = next.rest.withLineFeeds →
      Agree (.ok (f (a, next))) (.ok (f' (a, next')))) :
    Agree (m.map f) (m'.map f') := by
  cases h with
  | ok a h => exact hf a _ _ h
  | error fault offset offset' => exact .error fault offset offset'

end Agree

/-! ## Texts -/

/-- Whether a character is a hexadecimal digit. -/
def isHex (c : Character) : Bool :=
  (hexValue? c).isSome

/-- Only the digits at the front of a text matter to the unit there. -/
theorem unit?_takeWhile (t : Text) : unit? (t.takeWhile isHex) = unit? t := by
  by_cases hlength : t.length < 4
  · rw [unit?_of_length hlength,
      unit?_of_length (Nat.lt_of_le_of_lt (List.takeWhile_prefix isHex).length_le hlength)]
  obtain ⟨a, b, c, d, rest, rfl⟩ : ∃ a b c d rest, t = a :: b :: c :: d :: rest := by
    match t with
    | a :: b :: c :: d :: rest => exact ⟨a, b, c, d, rest, rfl⟩
    | [] | [_] | [_, _] | [_, _, _] => simp at hlength
  -- The first character that is no digit ends the run, and leaves no unit.
  cases ha : hexValue? a <;> cases hb : hexValue? b <;> cases hc : hexValue? c <;>
    cases hd : hexValue? d <;> simp [unit?, isHex, *]

/-- The digits of a unit are hexadecimal. -/
theorem isHex_of_unit? {a b c d : Character} {u : Nat} (h : unit? [a, b, c, d] = some u) :
    ∀ x ∈ [a, b, c, d], isHex x = true := by
  simp only [unit?, bind, Option.bind_eq_some_iff] at h
  obtain ⟨_, ha, _, hb, _, hc, _, hd, -⟩ := h
  simp [isHex, ha, hb, hc, hd]

/-- Line ends have no part in four hexadecimal digits. -/
theorem unit?_withLineFeeds (t : Text) : unit? t.withLineFeeds = unit? t := by
  rw [← unit?_takeWhile, Text.takeWhile_withLineFeeds (by decide) (by decide), unit?_takeWhile]

/-- There is no line end among four hexadecimal digits. -/
theorem return_notMem_of_unit? {a b c d : Character} {u : Nat} (h : unit? [a, b, c, d] = some u) :
    Character.scalar '\r' ∉ [Character.scalar '\\', Character.scalar 'u', a, b, c, d] := by
  have hhex := isHex_of_unit? h
  have hreturn : isHex '\r' = false := by decide
  -- It would have to be one of the digits.
  rintro hmem
  simp only [List.mem_cons] at hmem hhex
  grind

/-- Four such digits hold no line end. -/
theorem withLineFeeds_of_unit? {a b c d : Character} {u : Nat} (h : unit? [a, b, c, d] = some u)
    (rest : Text) :
    Text.withLineFeeds ('\\' :: 'u' :: a :: b :: c :: d :: rest : Text) =
      ('\\' :: 'u' :: a :: b :: c :: d :: rest.withLineFeeds : Text) :=
  Text.withLineFeeds_append (return_notMem_of_unit? h) rest

/-- A character is no backslash if it is none whatever follows it. -/
theorem ne_backslash_of_tail {c : Character} {t : Text}
    (hcons : ∀ d more, c = '\\' → t = d :: more → False) (hnil : c = '\\' → t = [] → False) :
    c ≠ '\\' := by
  cases t with
  | nil => exact fun hc => hnil hc rfl
  | cons d more => exact fun hc => hcons d more hc rfl

/-- A text up to its closing quote. The offsets of the two sides go apart with the first line end,
so nothing is assumed of them. -/
theorem agree_stringBody (start start' : Nat) (high : Option Nat) (offset offset' : Nat)
    (t : Text) :
    Agree (stringBody start high offset t) (stringBody start' high offset' t.withLineFeeds) := by
  fun_induction stringBody start high offset t generalizing offset' with
  | case1 => exact .error _ _ _
  | case2 high offset rest =>
    rw [Text.withLineFeeds_cons (by decide), stringBody]
    exact .ok _ rfl
  | case3 high offset a b c d rest hunit =>
    -- Four characters that are not all digits are refused on both sides.
    have hnone : unit? (Text.withLineFeeds (a :: b :: c :: d :: rest)) = none :=
      (unit?_withLineFeeds _).trans hunit
    rw [Text.withLineFeeds_cons (by decide), Text.withLineFeeds_cons (by decide),
      stringBody_of_unit?_eq_none hnone]
    exact .error _ _ _
  | case4 high offset a b c d rest u hunit hrest =>
    rw [withLineFeeds_of_unit? hunit, stringBody.eq_3, hunit]
    dsimp only
    rw [if_pos (Text.isEmpty_withLineFeeds rest ▸ hrest)]
    exact .error _ _ _
  | case5 high offset a b c d rest u hunit hrest hhigh ih =>
    -- The escape takes the same six characters on both sides.
    rw [withLineFeeds_of_unit? hunit, stringBody.eq_3, hunit]
    dsimp only
    rw [if_neg (Text.isEmpty_withLineFeeds rest ▸ hrest), if_pos hhigh]
    exact (ih _).map fun _ _ _ h => .ok _ h
  | case6 high offset a b c d rest u hunit hrest hhigh ih =>
    rw [withLineFeeds_of_unit? hunit, stringBody.eq_3, hunit]
    dsimp only
    rw [if_neg (Text.isEmpty_withLineFeeds rest ▸ hrest), if_neg hhigh]
    refine (ih _).map fun s next next' h => ?_
    dsimp only
    split <;> exact .ok _ h
  | case7 high offset t hfour =>
    have hnone : unit? (Text.withLineFeeds t) = none :=
      (unit?_withLineFeeds _).trans (unit?.eq_2 _ hfour)
    rw [Text.withLineFeeds_cons (by decide), Text.withLineFeeds_cons (by decide),
      stringBody_of_unit?_eq_none hnone]
    exact .error _ _ _
  | case8 high offset c rest _ hu hnone =>
    rw [Text.withLineFeeds_cons (by decide)]
    -- After a backslash, neither line end stands for anything.
    by_cases hc : c = '\r'
    · subst hc
      obtain ⟨more, hmore⟩ := Text.exists_withLineFeeds_return rest
      rw [hmore, stringBody_escape (by decide)]
      exact .error _ _ _
    · rw [Text.withLineFeeds_cons hc, stringBody_escape hu, hnone]
      exact .error _ _ _
  | case9 high offset c rest _ hu e he ih =>
    -- No line end is the letter of an escape.
    have hc : c ≠ '\r' := by
      rintro rfl
      cases he
    rw [Text.withLineFeeds_cons (by decide), Text.withLineFeeds_cons hc, stringBody_escape hu, he]
    exact (ih _).map fun _ _ _ h => .ok _ h
  | case10 =>
    rw [Text.withLineFeeds_cons (by decide), Text.withLineFeeds_nil, stringBody]
    exact .error _ _ _
  | case11 high offset c rest hquote _ _ hone hnil hcontrol =>
    have hback := ne_backslash_of_tail hone hnil
    -- Both line ends are control characters.
    by_cases hc : c = '\r'
    · subst hc
      obtain ⟨more, hmore⟩ := Text.exists_withLineFeeds_return rest
      rw [hmore, stringBody_plain (by decide) (by decide)]
      exact .error _ _ _
    · rw [Text.withLineFeeds_cons hc, stringBody_plain hquote hback, if_pos hcontrol]
      exact .error _ _ _
  | case12 high offset c rest hquote _ _ hone hnil hcontrol ih =>
    -- Neither line end stands for itself.
    have hback := ne_backslash_of_tail hone hnil
    have hc : c ≠ '\r' := by
      rintro rfl
      exact hcontrol (by decide)
    rw [Text.withLineFeeds_cons hc, stringBody_plain hquote hback, if_neg hcontrol]
    exact (ih _).map fun _ _ _ h => .ok _ h

/-! ## Numbers -/

/-- Line ends have no part in digits. -/
theorem asciiDigits_withLineFeeds (t : Text) : asciiDigits t.withLineFeeds = asciiDigits t :=
  Text.takeWhile_withLineFeeds (by decide) (by decide) t

/-- Digits are no line ends. -/
theorem return_notMem_asciiDigits (t : Text) : Character.scalar '\r' ∉ asciiDigits t := fun h =>
  absurd (isAsciiDigit_of_mem_asciiDigits h) (by decide)

/-- Line ends have no part in a fraction. -/
theorem fractionPart_withLineFeeds (t : Text) : fractionPart t.withLineFeeds = fractionPart t := by
  have hhead := Text.head?_withLineFeeds (c := '.') (by decide) (by decide) t
  by_cases hpoint : t.head? = some '.'
  · obtain ⟨rest, rfl⟩ := List.head?_eq_some_iff.mp hpoint
    rw [Text.withLineFeeds_cons (by decide)]
    simp only [fractionPart, asciiDigits_withLineFeeds]
  · rw [fractionPart_of_head? hpoint, fractionPart_of_head? (mt hhead.mp hpoint)]

/-- No line end stands in the fraction. -/
theorem return_notMem_take_fractionPart (t : Text) :
    Character.scalar '\r' ∉ t.take (fractionPart t).2 := by
  unfold fractionPart
  split
  · next rest =>
    dsimp only
    split
    · simp
    · simp [take_length_asciiDigits, return_notMem_asciiDigits]
  · simp

/-- Nor in the sign of a power of ten. -/
theorem powerSignLength_withLineFeeds (t : Text) :
    powerSignLength t.withLineFeeds = powerSignLength t := by
  simp only [powerSignLength, Text.head?_withLineFeeds (c := '-') (by decide) (by decide),
    Text.head?_withLineFeeds (c := '+') (by decide) (by decide)]

/-- Such a sign is no line end. -/
theorem return_notMem_take_powerSignLength (t : Text) :
    Character.scalar '\r' ∉ t.take (powerSignLength t) := by
  unfold powerSignLength
  split
  · next h =>
    rcases t with _ | ⟨c, t⟩
    · simp
    · rintro hmem
      obtain rfl : Character.scalar '\r' = c := by simpa using hmem
      simp at h
  · simp

/-- A power of ten begins with its letter. -/
theorem exists_cons_of_head? {t : Text}
    (h : t.head? = some (.scalar 'e') ∨ t.head? = some (.scalar 'E')) :
    ∃ (c : Character) (rest : Text),
      (c = .scalar 'e' ∨ c = .scalar 'E') ∧ c ≠ .scalar '\r' ∧ t = c :: rest := by
  rcases t with _ | ⟨c, rest⟩
  · simp at h
  · have hc : c = .scalar 'e' ∨ c = .scalar 'E' := by simpa using h
    refine ⟨c, rest, hc, ?_, rfl⟩
    rcases hc with rfl | rfl <;> decide

/-- Line ends have no part in a power of ten. -/
theorem powerPart_withLineFeeds (t : Text) : powerPart t.withLineFeeds = powerPart t := by
  have he := Text.head?_withLineFeeds (c := 'e') (by decide) (by decide) t
  have hE := Text.head?_withLineFeeds (c := 'E') (by decide) (by decide) t
  by_cases h : t.head? = some (.scalar 'e') ∨ t.head? = some (.scalar 'E')
  · obtain ⟨c, rest, hc, hreturn, rfl⟩ := exists_cons_of_head? h
    rw [Text.withLineFeeds_cons hreturn, powerPart_cons hc, powerPart_cons hc,
      powerSignLength_withLineFeeds,
      Text.drop_withLineFeeds (return_notMem_take_powerSignLength rest), asciiDigits_withLineFeeds]
    simp only [Text.head?_withLineFeeds (c := '-') (by decide) (by decide)]
  · obtain ⟨h₁, h₂⟩ := not_or.mp h
    rw [powerPart_of_head? h₁ h₂, powerPart_of_head? (mt he.mp h₁) (mt hE.mp h₂)]

/-- Two stretches after each other. -/
theorem return_notMem_take_add {t : Text} {m n : Nat} (hm : Character.scalar '\r' ∉ t.take m)
    (hn : Character.scalar '\r' ∉ (t.drop m).take n) : Character.scalar '\r' ∉ t.take (m + n) := by
  rw [List.take_add]
  simp [hm, hn]

/-- No line end stands in the power of ten. -/
theorem return_notMem_take_powerPart (t : Text) :
    Character.scalar '\r' ∉ t.take (powerPart t).2.2 := by
  by_cases h : t.head? = some (.scalar 'e') ∨ t.head? = some (.scalar 'E')
  · obtain ⟨c, rest, hc, hreturn, rfl⟩ := exists_cons_of_head? h
    rw [powerPart_cons hc]
    dsimp only
    split
    · simp
    · have hdigits : Character.scalar '\r' ∉ (rest.drop (powerSignLength rest)).take
          (asciiDigits (rest.drop (powerSignLength rest))).length := by
        rw [take_length_asciiDigits]
        exact return_notMem_asciiDigits _
      rw [Nat.add_right_comm, List.take_succ_cons, Nat.add_comm]
      exact List.not_mem_cons_of_ne_of_not_mem hreturn.symm
        (return_notMem_take_add (return_notMem_take_powerSignLength rest) hdigits)
  · obtain ⟨h₁, h₂⟩ := not_or.mp h
    simp [powerPart_of_head? h₁ h₂]

namespace NumberParts

/-- A sign is no line end. -/
theorem return_notMem_take_signLength (t : Text) :
    Character.scalar '\r' ∉ t.take (signLength (decide (t.head? = some (.scalar '-')))) := by
  rcases t with _ | ⟨c, t⟩
  · simp
  · by_cases hc : c = .scalar '-'
    · simp [signLength, hc]
    · simp [signLength, hc]

/-- A whole part holds none. -/
theorem return_notMem_take_whole (t : Text) :
    Character.scalar '\r' ∉ t.take (wholeDigits (asciiDigits t)).length := by
  have hprefix := (wholeDigits_isPrefix (asciiDigits t)).trans (List.takeWhile_prefix _)
  rw [← List.prefix_iff_eq_take.mp hprefix]
  exact fun h => return_notMem_asciiDigits t ((wholeDigits_isPrefix _).subset h)

/-- No line end stands in a number. -/
theorem return_notMem_take_length (t : Text) :
    Character.scalar '\r' ∉ t.take (ofText t).length := by
  refine return_notMem_take_add (return_notMem_take_add (return_notMem_take_add
    (return_notMem_take_signLength t) (return_notMem_take_whole _)) ?_) ?_
  · exact return_notMem_take_fractionPart _
  · rw [← List.drop_drop]
    exact return_notMem_take_powerPart _

/-- Line ends make no difference to the number at the front of a text. -/
theorem ofText_withLineFeeds (t : Text) : ofText t.withLineFeeds = ofText t := by
  have hnegative : decide (t.withLineFeeds.head? = some (.scalar '-')) =
      decide (t.head? = some (.scalar '-')) :=
    decide_eq_decide.mpr (Text.head?_withLineFeeds (by decide) (by decide) t)
  have hsign := return_notMem_take_signLength t
  have hwhole := return_notMem_take_add hsign (return_notMem_take_whole _)
  -- No line end stands before a part, so that each part is read at the same place.
  unfold ofText
  dsimp only [bind, Option.bind, pure]
  rw [hnegative, Text.drop_withLineFeeds hsign, asciiDigits_withLineFeeds,
    Text.drop_withLineFeeds hwhole, fractionPart_withLineFeeds,
    Text.drop_withLineFeeds (return_notMem_take_fractionPart _), powerPart_withLineFeeds]

end NumberParts

/-- Numbers are read alike. -/
theorem agree_number {c c' : Cursor} (h : c'.rest = c.rest.withLineFeeds) :
    Agree (number c) (number c') := by
  rw [number_eq, number_eq, h, NumberParts.ofText_withLineFeeds]
  cases (NumberParts.ofText c.rest).value with
  | ok v =>
    refine .ok v ?_
    rw [Cursor.rest_advance, Cursor.rest_advance, h,
      Text.drop_withLineFeeds (NumberParts.return_notMem_take_length c.rest)]
  | error fault => exact .fail c c' fault

/-! ## Words and keys -/

/-- A character that is no line end begins both texts, or neither. -/
theorem Cursor.head?_rest_iff {c c' : Cursor} (h : c'.rest = c.rest.withLineFeeds) {x : Character}
    (hreturn : x ≠ '\r') (hfeed : x ≠ '\n') : c'.rest.head? = some x ↔ c.rest.head? = some x := by
  rw [h, Text.head?_withLineFeeds hreturn hfeed]

/-- A character that ends no line stands in both texts. -/
theorem Cursor.rest_eq_cons {c c' : Cursor} (h : c'.rest = c.rest.withLineFeeds) {x : Character}
    {t : Text} (hx : x ≠ '\r') (ht : c.rest = x :: t) : c'.rest = x :: t.withLineFeeds := by
  rw [h, ht, Text.withLineFeeds_cons hx]

/-- It may be gone over in both. -/
theorem Cursor.rest_advance_one {c c' : Cursor} (h : c'.rest = c.rest.withLineFeeds) {x : Character}
    (hhead : c.rest.head? = some x) (hx : x ≠ '\r') :
    (c'.advance 1).rest = (c.advance 1).rest.withLineFeeds := by
  obtain ⟨t, ht⟩ := List.head?_eq_some_iff.mp hhead
  rw [rest_advance, rest_advance, rest_eq_cons h hx ht, ht, List.drop_one, List.drop_one,
    List.tail_cons, List.tail_cons]

/-- White space may be skipped in both. -/
theorem Cursor.rest_skipSpace_withLineFeeds {c c' : Cursor} (h : c'.rest = c.rest.withLineFeeds) :
    c'.skipSpace.rest = c.skipSpace.rest.withLineFeeds := by
  rw [rest_skipSpace, rest_skipSpace, h, Text.dropWhile_withLineFeeds (by decide) (by decide)]

/-- No line end stands in a word. -/
theorem lineEnd_notMem_words :
    ∀ word ∈ words, Character.scalar '\r' ∉ word.1 ∧ Character.scalar '\n' ∉ word.1 := by
  decide

/-- Anything without containers is read alike. -/
theorem agree_scalar {c c' : Cursor} (h : c'.rest = c.rest.withLineFeeds) :
    Agree (scalar c) (scalar c') := by
  have hfind : (words.find? fun word => word.1.isPrefixOf c'.rest) =
      words.find? fun word => word.1.isPrefixOf c.rest :=
    List.find?_congr fun word hword => by
      rw [h, Text.isPrefixOf_withLineFeeds (lineEnd_notMem_words word hword).1
        (lineEnd_notMem_words word hword).2]
  -- The same word begins both texts, or none does.
  unfold scalar
  rw [hfind]
  split
  · next word v hfound =>
    have hprefix : word <+: c.rest :=
      List.isPrefixOf_iff_prefix.mp (by simpa using List.find?_some hfound)
    have htake : Character.scalar '\r' ∉ c.rest.take word.length := by
      rw [← List.prefix_iff_eq_take.mp hprefix]
      exact (lineEnd_notMem_words _ (List.mem_of_find?_eq_some hfound)).1
    refine .ok v ?_
    rw [Cursor.rest_advance, Cursor.rest_advance, h, Text.drop_withLineFeeds htake]
  · exact agree_number h

/-- Keys are read alike. -/
theorem agree_key {c c' : Cursor} (h : c'.rest = c.rest.withLineFeeds) :
    Agree (key c) (key c') := by
  by_cases hquote : c.rest.head? = some (.scalar '"')
  · obtain ⟨t, ht⟩ := List.head?_eq_some_iff.mp hquote
    rw [key_of_quote ht, key_of_quote (Cursor.rest_eq_cons h (by decide) ht)]
    refine (agree_stringBody _ _ _ _ _ _).bind (getsOn_stringBody _ _ _ _)
      (getsOn_stringBody _ _ _ _) fun k next next' hnext _ _ => ?_
    have hspace := Cursor.rest_skipSpace_withLineFeeds hnext
    simp only [Cursor.head?_rest_iff hspace (x := .scalar ':') (by decide) (by decide)]
    split
    · next hcolon =>
      exact .ok k (Cursor.rest_skipSpace_withLineFeeds
        (Cursor.rest_advance_one hspace hcolon (by decide)))
    · exact .fail _ _ _
  · have hsame := Cursor.head?_rest_iff h (x := .scalar '"') (by decide) (by decide)
    rw [key_of_head? hquote, key_of_head? (mt hsame.mp hquote)]
    exact .fail _ _ _

/-! ## Arrays and objects -/

section Container

variable {α : Type} {close : Character} {a : α} {c c' : Cursor}

/-- Behind an opening character, two readers agree if they do on what is inside. -/
theorem Agree.afterOpening {x : Character} {inside inside' : Cursor → Except Error (α × Cursor)}
    (h : c'.rest = c.rest.withLineFeeds) (hhead : c.rest.head? = some x) (hx : x ≠ '\r')
    (hreturn : close ≠ '\r') (hfeed : close ≠ '\n')
    (hinside : ∀ next next' : Cursor, next'.rest = next.rest.withLineFeeds →
      next.rest.length < c.rest.length → next'.rest.length < c'.rest.length →
      Agree (inside next) (inside' next')) :
    Agree (afterOpening close a inside c) (afterOpening close a inside' c') := by
  have hnext := Cursor.rest_skipSpace_withLineFeeds (Cursor.rest_advance_one h hhead hx)
  obtain ⟨t, ht⟩ := List.head?_eq_some_iff.mp hhead
  have hne : c.rest ≠ [] := ht ▸ List.cons_ne_nil x t
  have hne' : c'.rest ≠ [] := Cursor.rest_eq_cons h hx ht ▸ List.cons_ne_nil x _
  have hclose := Cursor.head?_rest_iff hnext hreturn hfeed
  -- The container is empty on both sides, or on neither.
  unfold Json.afterOpening
  by_cases hempty : (c.advance 1).skipSpace.rest.head? = some close
  · rw [if_pos hempty, if_pos (hclose.mpr hempty)]
    exact .ok a (Cursor.rest_advance_one hnext hempty hreturn)
  · rw [if_neg hempty, if_neg (mt hclose.mp hempty)]
    exact hinside _ _ hnext (Cursor.length_skipSpace_advance_one hne)
      (Cursor.length_skipSpace_advance_one hne')

/-- Between values, two readers agree if they do on what follows. -/
theorem Agree.afterValue {more more' : Cursor → Except Error (α × Cursor)}
    (h : c'.rest = c.rest.withLineFeeds) (hreturn : close ≠ '\r') (hfeed : close ≠ '\n')
    (hmore : ∀ next next' : Cursor, next'.rest = next.rest.withLineFeeds →
      next.rest.length ≤ c.rest.length → next'.rest.length ≤ c'.rest.length →
      Agree (more next) (more' next')) :
    Agree (afterValue close a more c) (afterValue close a more' c') := by
  have hspace := Cursor.rest_skipSpace_withLineFeeds h
  have hcomma := Cursor.head?_rest_iff hspace (x := .scalar ',') (by decide) (by decide)
  have hclose := Cursor.head?_rest_iff hspace hreturn hfeed
  have hle : ∀ d : Cursor, (d.skipSpace.advance 1).skipSpace.rest.length ≤ d.rest.length :=
    fun d => ((d.skipSpace.suffix_skipSpace_advance 1).trans d.suffix_skipSpace).length_le
  unfold Json.afterValue
  simp only [hcomma, hclose]
  split
  · next hmark =>
    have hafter := Cursor.rest_advance_one hspace hmark (by decide)
    exact hmore _ _ (Cursor.rest_skipSpace_withLineFeeds hafter) (hle c) (hle c')
  · split
    · next hend => exact .ok a (Cursor.rest_advance_one hspace hend hreturn)
    · exact .fail _ _ _

end Container

/-- The parts that stand inside each other, with enough fuel on both sides. A value takes one unit
more than two for each character, and the items or entries around it one unit more than that. -/
structure AgreeWith (fuel : Nat) : Prop where
  value : ∀ fuel' room c c', c'.rest = c.rest.withLineFeeds → 2 * c.rest.length + 1 ≤ fuel →
    2 * c'.rest.length + 1 ≤ fuel' → Agree (value fuel room c) (value fuel' room c')
  items : ∀ fuel' room c c', c'.rest = c.rest.withLineFeeds → 2 * c.rest.length + 2 ≤ fuel →
    2 * c'.rest.length + 2 ≤ fuel' → Agree (items fuel room c) (items fuel' room c')
  entries : ∀ fuel' room before c c', c'.rest = c.rest.withLineFeeds →
    2 * c.rest.length + 2 ≤ fuel → 2 * c'.rest.length + 2 ≤ fuel' →
    Agree (entries fuel room before c) (entries fuel' room before c')

section Step

variable {fuel fuel' : Nat} {c c' : Cursor}

/-- Values are read alike if what is inside them is. -/
theorem AgreeWith.value_succ (ih : AgreeWith fuel) (room : Nat)
    (h : c'.rest = c.rest.withLineFeeds) (hfuel : 2 * c.rest.length ≤ fuel)
    (hfuel' : 2 * c'.rest.length ≤ fuel') :
    Agree (Json.value (fuel + 1) room c) (Json.value (fuel' + 1) room c') := by
  -- Both sides begin with the same character, for no text or container begins with a line end.
  rcases c.rest_cases with ⟨t, ht⟩ | ⟨t, ht⟩ | ⟨t, ht⟩ | ⟨hquote, hbracket, hbrace⟩
  · rw [value_of_quote ht, value_of_quote (Cursor.rest_eq_cons h (by decide) ht)]
    exact (agree_stringBody _ _ _ _ _ t).map fun _ _ _ hnext => .ok _ hnext
  · rw [value_of_bracket ht, value_of_bracket (Cursor.rest_eq_cons h (by decide) ht)]
    cases room with
    | zero => exact .fail _ _ _
    | succ room =>
      refine .afterOpening h (by rw [ht]; rfl) (by decide) (by decide) (by decide)
        fun next next' hnext hlt hlt' => ?_
      exact (ih.items fuel' room _ _ hnext (by omega) (by omega)).map fun _ _ _ h => .ok _ h
  · rw [value_of_brace ht, value_of_brace (Cursor.rest_eq_cons h (by decide) ht)]
    cases room with
    | zero => exact .fail _ _ _
    | succ room =>
      refine .afterOpening h (by rw [ht]; rfl) (by decide) (by decide) (by decide)
        fun next next' hnext hlt hlt' => ?_
      exact (ih.entries fuel' room [] _ _ hnext (by omega) (by omega)).map fun _ _ _ h => .ok _ h
  · -- Neither a text nor a container begins here, on either side.
    have hquote' := Cursor.head?_rest_iff h (x := .scalar '"') (by decide) (by decide)
    have hbracket' := Cursor.head?_rest_iff h (x := .scalar '[') (by decide) (by decide)
    have hbrace' := Cursor.head?_rest_iff h (x := .scalar '{') (by decide) (by decide)
    rw [value_of_head? hquote hbracket hbrace, value_of_head? (mt hquote'.mp hquote)
      (mt hbracket'.mp hbracket) (mt hbrace'.mp hbrace)]
    exact agree_scalar h

/-- Items are read alike if their values and the rest are. -/
theorem AgreeWith.items_succ (ih : AgreeWith fuel) (room : Nat)
    (h : c'.rest = c.rest.withLineFeeds) (hfuel : 2 * c.rest.length + 1 ≤ fuel)
    (hfuel' : 2 * c'.rest.length + 1 ≤ fuel') :
    Agree (Json.items (fuel + 1) room c) (Json.items (fuel' + 1) room c') := by
  rw [Json.items_succ, Json.items_succ]
  refine (ih.value fuel' room c c' h hfuel hfuel').bind
    (getsOn_value fuel room c) (getsOn_value fuel' room c')
    fun v next next' hnext hlt hlt' => ?_
  refine .afterValue hnext (by decide) (by decide) fun more more' hmore hle hle' => ?_
  exact (ih.items fuel' room _ _ hmore (by omega) (by omega)).map fun _ _ _ h => .ok _ h

/-- So are entries. -/
theorem AgreeWith.entries_succ (ih : AgreeWith fuel) (room : Nat) (before : Entries)
    (h : c'.rest = c.rest.withLineFeeds) (hfuel : 2 * c.rest.length + 1 ≤ fuel)
    (hfuel' : 2 * c'.rest.length + 1 ≤ fuel') :
    Agree (Json.entries (fuel + 1) room before c) (Json.entries (fuel' + 1) room before c') := by
  rw [Json.entries_succ, Json.entries_succ]
  refine (agree_key h).bind (getsOn_key c) (getsOn_key c') fun k key key' hkey hk hk' => ?_
  refine (ih.value fuel' room key key' hkey (by omega) (by omega)).bind
    (getsOn_value fuel room key) (getsOn_value fuel' room key')
    fun v next next' hnext hlt hlt' => ?_
  refine .afterValue hnext (by decide) (by decide) fun more more' hmore hle hle' => ?_
  exact ih.entries fuel' room _ _ _ hmore (by omega) (by omega)

end Step

/-- By induction on the fuel of the first side, of which one step takes one unit on both sides. -/
theorem agreeWith (fuel : Nat) : AgreeWith fuel := by
  induction fuel with
  | zero => exact ⟨fun _ _ _ _ _ h => by omega, fun _ _ _ _ _ h => by omega,
      fun _ _ _ _ _ _ h => by omega⟩
  | succ fuel ih =>
    refine ⟨fun fuel' room c c' h hfuel hfuel' => ?_, fun fuel' room c c' h hfuel hfuel' => ?_,
      fun fuel' room before c c' h hfuel hfuel' => ?_⟩ <;>
      obtain ⟨fuel', rfl⟩ : ∃ n, fuel' = n + 1 := ⟨fuel' - 1, by omega⟩
    · exact ih.value_succ room h (by omega) (by omega)
    · exact ih.items_succ room h (by omega) (by omega)
    · exact ih.entries_succ room before h (by omega) (by omega)

/-- What is left after the value is white space with the line ends as they are if it is with line
feeds. -/
theorem Agree.mapError_fault_finish {m m' : Except Error (Value × Cursor)} (h : Agree m m') :
    (finish m').mapError Error.fault = (finish m).mapError Error.fault := by
  cases h with
  | error fault offset offset' => rfl
  | @ok v next next' h =>
    simp only [finish, Cursor.rest_skipSpace_withLineFeeds h, Text.isEmpty_withLineFeeds]
    split <;> rfl

/-- Reading a document comes to the same with a line feed for every line end of it: the same value,
or the same fault. -/
theorem mapError_fault_read_withLineFeeds (limit : Nat) (t : Text) :
    (read limit t.withLineFeeds).mapError Error.fault = (read limit t).mapError Error.fault := by
  have hhead := Text.head?_withLineFeeds (c := '\uFEFF') (by decide) (by decide) t
  by_cases hmark : t.head? = some (.scalar '\uFEFF')
  · rw [read_of_mark hmark, read_of_mark (hhead.mpr hmark)]
  have hstart : (Cursor.ofDocument t.withLineFeeds).rest =
      (Cursor.ofDocument t).rest.withLineFeeds :=
    Cursor.rest_skipSpace_withLineFeeds rfl
  have hlength : ∀ t, (Cursor.ofDocument t).rest.length ≤ t.length := fun t =>
    (Cursor.suffix_skipSpace ⟨0, t⟩).length_le
  -- The texts may differ in length, and then the reader has less fuel for the second.
  have hagree := (agreeWith (2 * t.length + 2)).value (2 * t.withLineFeeds.length + 2) limit
    _ _ hstart (by have := hlength t; omega) (by have := hlength t.withLineFeeds; omega)
  rw [read_eq hmark, read_eq (mt hhead.mp hmark)]
  exact hagree.mapError_fault_finish

/-- So either the same value is read with both, or the same fault found. -/
theorem read_withLineFeeds_cases (limit : Nat) (t : Text) :
    (∃ v, read limit t.withLineFeeds = .ok v ∧ read limit t = .ok v) ∨
      ∃ e e', read limit t.withLineFeeds = .error e ∧ read limit t = .error e' ∧
        e.fault = e'.fault := by
  have h := mapError_fault_read_withLineFeeds limit t
  cases hfeeds : read limit t.withLineFeeds with
  | ok v =>
    cases ht : read limit t with
    | ok v' =>
      rw [hfeeds, ht] at h
      cases h
      exact .inl ⟨v, rfl, rfl⟩
    | error e' =>
      rw [hfeeds, ht] at h
      cases h
  | error e =>
    cases ht : read limit t with
    | ok v' =>
      rw [hfeeds, ht] at h
      cases h
    | error e' =>
      rw [hfeeds, ht] at h
      exact .inr ⟨e, e', rfl, rfl, Except.error.inj h⟩

end SourceEditor.Json

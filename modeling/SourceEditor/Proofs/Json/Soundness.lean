import SourceEditor.Proofs.Json.Extent
import SourceEditor.Proofs.Json.Grammar

/-!
# What is read is a document

Whatever the reader reads is spelled by the characters that it goes over.

* `isBody_of_stringBody`: texts.
* `isNumber_of_number`: numbers.
* `SoundWith`: values and what stands inside them, by induction on the fuel.
* `isDocument_of_read`: documents.
-/

namespace SourceEditor.Json

section Except

variable {ε α β : Type} {m : Except ε α} {b : β}

/-- What was made of a result was made of one. -/
theorem exists_of_map_eq_ok {f : α → β} (h : m.map f = .ok b) : ∃ a, m = .ok a ∧ f a = b := by
  cases m with
  | ok a => exact ⟨a, rfl, Except.ok.inj h⟩
  | error e => cases h

/-- A result goes on to the next step. -/
theorem ok_bind {a : α} {f : α → Except ε β} : Except.ok a >>= f = f a := rfl

/-- Two steps that come to a result come to one each. -/
theorem exists_of_bind_eq_ok {f : α → Except ε β} (h : m >>= f = .ok b) :
    ∃ a, m = .ok a ∧ f a = .ok b := by
  cases m with
  | ok a => exact ⟨a, rfl, h⟩
  | error e => cases h

end Except

/-! ## Texts -/

/-- The escape of the first half of a surrogate pair that the reader has just gone over, if any. -/
def IsPending : Option Nat → Text → Prop
  | none, x => x = []
  | some high, x => IsUnit x high ∧ isHighSurrogate high = true

/-- Before anything but the escape of a second half, a first half stays alone. -/
theorem IsBody.afterPending {high : Option Nat} {x body s : Text} (hx : IsPending high x)
    (halone : ∀ y v, y <+: body → IsUnit y v → isLowSurrogate v = false) (hbody : IsBody body s) :
    IsBody (x ++ body) (stringBody.afterHigh high s) := by
  cases high with
  | none =>
    obtain rfl : x = [] := hx
    exact hbody
  | some high => exact .unit hx.1 (fun _ => halone) hbody

/-- What stands between the quotes of a text that is read, together with an escape before it. -/
theorem isBody_of_stringBody (start : Nat) (high : Option Nat) (offset : Nat) (t : Text) :
    ∀ s next, stringBody start high offset t = .ok (s, next) →
      ∃ body : Text, t = body ++ .scalar '"' :: next.rest ∧
        ∀ x, IsPending high x → IsBody (x ++ body) s := by
  fun_induction stringBody start high offset t with
  | case1 | case3 | case4 | case7 | case8 | case10 | case11 =>
    -- These are the texts that the reader refuses.
    intro s next h
    cases h
  | case2 high offset rest =>
    -- The closing quote: what is pending stays alone.
    intro s next h
    obtain ⟨rfl, rfl⟩ := Prod.mk.inj (Except.ok.inj h)
    refine ⟨[], rfl, fun x hx => .afterPending hx (fun y v hy hunit => ?_) .nil⟩
    cases List.prefix_nil.mp hy
    cases hunit
  | case5 high offset a b c d rest u hunit hrest hhigh ih =>
    -- The escape of a first half goes over to what follows it.
    intro s next h
    obtain ⟨⟨s, next⟩, hread, heq⟩ := exists_of_map_eq_ok h
    obtain ⟨rfl, rfl⟩ := Prod.mk.inj heq
    obtain ⟨body, rfl, hbody⟩ := ih s next hread
    have hesc : IsUnit (escape a b c d) u := ⟨hunit⟩
    refine ⟨escape a b c d ++ body, rfl, fun x hx => .afterPending hx ?_
      (hbody _ ⟨hesc, hhigh⟩)⟩
    intro y v hy hv
    rw [hesc.eq_of_prefix hy hv]
    exact isLowSurrogate_of_isHighSurrogate hhigh
  | case6 high offset a b c d rest u hunit hrest hhigh ih =>
    -- Any other escape of four digits.
    intro s next h
    obtain ⟨⟨s', next'⟩, hread, heq⟩ := exists_of_map_eq_ok h
    obtain ⟨body, rfl, hbody⟩ := ih s' next' hread
    have hesc : IsUnit (escape a b c d) u := ⟨hunit⟩
    replace hbody : IsBody body s' := hbody [] rfl
    have halone : IsBody (escape a b c d ++ body) (.ofNat u :: s') :=
      .unit hesc (fun h => absurd h hhigh) hbody
    refine ⟨escape a b c d ++ body, ?_⟩
    -- It is the second half of a pair, if a first half stands before it.
    cases hlow : isLowSurrogate u with
    | false =>
      rw [hlow] at heq
      obtain ⟨rfl, rfl⟩ : stringBody.afterHigh high (.ofNat u :: s') = s ∧ next' = next := by
        simpa using heq
      refine ⟨rfl, fun x hx => .afterPending hx (fun y v hy hv => ?_) halone⟩
      rw [hesc.eq_of_prefix hy hv, hlow]
    | true =>
      rw [hlow] at heq
      cases high with
      | none =>
        obtain ⟨rfl, rfl⟩ := Prod.mk.inj heq
        refine ⟨rfl, fun x hx => ?_⟩
        obtain rfl : x = [] := hx
        exact halone
      | some high =>
        obtain ⟨rfl, rfl⟩ := Prod.mk.inj heq
        exact ⟨rfl, fun x hx => .pair hx.1 hesc hx.2 hlow hbody⟩
  | case9 high offset c rest _ hu e he ih =>
    -- The escape of a letter ends what is pending.
    intro s next h
    obtain ⟨⟨s, next⟩, hread, heq⟩ := exists_of_map_eq_ok h
    obtain ⟨rfl, rfl⟩ := Prod.mk.inj heq
    obtain ⟨body, rfl, hbody⟩ := ih s next hread
    refine ⟨'\\' :: c :: body, rfl, fun x hx => .afterPending hx (fun y v hy hv => ?_)
      (.letter he (hbody [] rfl))⟩
    exact absurd hy (hv.not_prefix_escape fun hc => by rw [hc] at he; cases he)
  | case12 high offset c rest hquote _ _ hletter hend hcontrol ih =>
    -- So does a character that stands for itself.
    intro s next h
    have hback : c ≠ '\\' := by
      intro hc
      cases rest with
      | nil => exact hend hc rfl
      | cons c' rest => exact hletter c' rest hc rfl
    obtain ⟨⟨s, next⟩, hread, heq⟩ := exists_of_map_eq_ok h
    obtain ⟨rfl, rfl⟩ := Prod.mk.inj heq
    obtain ⟨body, rfl, hbody⟩ := ih s next hread
    refine ⟨c :: body, rfl, fun x hx => .afterPending hx (fun y v hy hv => ?_)
      (.plain hquote hback (Nat.le_of_not_lt hcontrol) (hbody [] rfl))⟩
    exact absurd hy (hv.not_prefix_cons hback)

/-! ## Numbers -/

/-- Digits that are taken are digits. -/
theorem isDigits_asciiDigits {t : Text} (h : (asciiDigits t).isEmpty ≠ true) :
    IsDigits (asciiDigits t) :=
  ⟨by simpa using h, fun _ hc => isAsciiDigit_of_mem_asciiDigits hc⟩

/-- The rest stands behind them. -/
theorem asciiDigits_append_drop (t : Text) : asciiDigits t ++ t.drop (asciiDigits t).length = t :=
  List.prefix_iff_eq_append.mp (List.takeWhile_prefix _)

/-- A whole part that is taken is one. -/
theorem isWhole_wholeDigits {digits : Text} (h : IsDigits digits) :
    IsWhole (wholeDigits digits) := by
  obtain ⟨hne, hdigits⟩ := h
  obtain ⟨c, rest, rfl⟩ := List.exists_cons_of_ne_nil hne
  unfold wholeDigits
  split
  · exact ⟨⟨List.cons_ne_nil _ _, fun d hd => hdigits d (List.mem_of_mem_take hd)⟩, fun _ => rfl⟩
  · next hzero => exact ⟨⟨hne, hdigits⟩, fun h => absurd h hzero⟩

/-- The fraction at the front of a text. -/
theorem exists_isFraction (t : Text) : ∃ fraction, fraction ++ t.drop (fractionPart t).2 = t ∧
    IsFraction fraction (fractionPart t).1 ∧ (fractionPart t).2 = fraction.length := by
  by_cases hpoint : t.head? = some (.scalar '.')
  · obtain ⟨rest, rfl⟩ := List.head?_eq_some_iff.mp hpoint
    rw [fractionPart_point]
    split
    · exact ⟨[], rfl, .none, rfl⟩
    · next hne =>
      refine ⟨'.' :: asciiDigits rest, ?_, .digits (isDigits_asciiDigits hne), rfl⟩
      exact congrArg (List.cons _) (asciiDigits_append_drop rest)
  · rw [fractionPart_of_head? hpoint]
    exact ⟨[], rfl, .none, rfl⟩

/-- A sign is no longer than the text. -/
theorem powerSignLength_le_length (t : Text) : powerSignLength t ≤ t.length := by
  unfold powerSignLength
  split
  · next h =>
    refine List.length_pos_iff.mpr ?_
    rintro rfl
    simp at h
  · exact Nat.zero_le _

/-- A sign that is taken is one. -/
theorem isPowerSign_take (t : Text) :
    IsPowerSign (t.take (powerSignLength t)) (t.head? = some (.scalar '-')) := by
  cases t with
  | nil => exact .none
  | cons c t =>
    by_cases hminus : c = '-'
    · subst hminus
      exact .minus
    · by_cases hplus : c = '+'
      · subst hplus
        exact .plus
      · simpa [powerSignLength, hminus, hplus] using IsPowerSign.none

/-- The power of ten at the front of a text. -/
theorem exists_isPower (t : Text) : ∃ power, power ++ t.drop (powerPart t).2.2 = t ∧
    IsPower power (powerPart t).1 (powerPart t).2.1 ∧ (powerPart t).2.2 = power.length := by
  by_cases he : t.head? = some (.scalar 'e') ∨ t.head? = some (.scalar 'E')
  · obtain ⟨c, rest, rfl, hc⟩ : ∃ c rest, t = c :: rest ∧ (c = .scalar 'e' ∨ c = .scalar 'E') := by
      rcases he with he | he
      · obtain ⟨rest, rfl⟩ := List.head?_eq_some_iff.mp he
        exact ⟨_, rest, rfl, Or.inl rfl⟩
      · obtain ⟨rest, rfl⟩ := List.head?_eq_some_iff.mp he
        exact ⟨_, rest, rfl, Or.inr rfl⟩
    rw [powerPart_cons hc]
    dsimp only
    -- Without a digit behind it, the letter begins no power.
    split
    · exact ⟨[], rfl, .none, rfl⟩
    · next hne =>
      refine ⟨_, ?_, .digits hc (isPowerSign_take rest) (isDigits_asciiDigits hne), ?_⟩
      · have hdigits := asciiDigits_append_drop (rest.drop (powerSignLength rest))
        rw [List.drop_drop] at hdigits
        rw [Nat.add_right_comm, Nat.add_comm (List.length _), List.drop_succ_cons, List.cons_append,
          List.append_assoc, hdigits, List.take_append_drop]
      · rw [List.length_cons, List.length_append,
          List.length_take_of_le (powerSignLength_le_length rest)]
        dsimp only
        omega
  · rw [not_or] at he
    rw [powerPart_of_head? he.1 he.2]
    exact ⟨[], rfl, .none, rfl⟩

/-- A text begins with a minus sign or without one. -/
theorem exists_minusSign (t : Text) : ∃ negative unsigned, t = minusSign negative ++ unsigned ∧
    (negative = false → unsigned.head? ≠ some (.scalar '-')) := by
  by_cases hminus : t.head? = some (.scalar '-')
  · obtain ⟨rest, rfl⟩ := List.head?_eq_some_iff.mp hminus
    exact ⟨true, rest, rfl, fun h => Bool.noConfusion h⟩
  · exact ⟨false, t, rfl, fun _ => hminus⟩

/-- The number at the front of a text. -/
theorem NumberParts.exists_isSpelled {t : Text} (h : (ofText t).whole ≠ []) :
    ∃ u, u ++ t.drop (ofText t).length = t ∧ (ofText t).IsSpelled u := by
  obtain ⟨negative, unsigned, rfl, hsign⟩ := exists_minusSign t
  rw [ofText_minusSign_append hsign] at h ⊢
  dsimp only at h ⊢
  have hdigits : IsDigits (asciiDigits unsigned) := by
    refine isDigits_asciiDigits fun hempty => h ?_
    rw [List.isEmpty_iff.mp hempty]
    rfl
  have hiswhole := isWhole_wholeDigits hdigits
  have hwhole : wholeDigits (asciiDigits unsigned) ++
      unsigned.drop (wholeDigits (asciiDigits unsigned)).length = unsigned :=
    List.prefix_iff_eq_append.mp ((wholeDigits_isPrefix _).trans (List.takeWhile_prefix _))
  -- Each part is followed by the text that the next one is read from.
  generalize wholeDigits (asciiDigits unsigned) = whole at *
  generalize unsigned.drop whole.length = afterWhole at *
  obtain ⟨fraction, hfraction, hisfraction, hlength⟩ := exists_isFraction afterWhole
  generalize fractionPart afterWhole = places at *
  obtain ⟨power, hpower, hispower, hlength'⟩ := exists_isPower (afterWhole.drop places.2)
  generalize powerPart (afterWhole.drop places.2) = digits at *
  have hspelled : IsSpelled ⟨negative, whole, places, digits⟩
      (minusSign negative ++ (whole ++ (fraction ++ power))) := by
    obtain ⟨places, n⟩ := places
    obtain ⟨powerNegative, digits, m⟩ := digits
    obtain rfl : n = fraction.length := hlength
    obtain rfl : m = power.length := hlength'
    exact .mk hiswhole hisfraction hispower
  refine ⟨_, ?_, hspelled⟩
  have htext : minusSign negative ++ unsigned = minusSign negative ++
      (whole ++ (fraction ++ power)) ++ (afterWhole.drop places.2).drop digits.2.2 := by
    simp only [List.append_assoc, hpower, hfraction, hwhole]
  rw [← hspelled.length_eq]
  exact (congrArg (_ ++ ·) ((congrArg (List.drop _) htext).trans List.drop_left)).trans htext.symm

/-- A number that is read is one. -/
theorem isNumber_of_number {c next : Cursor} {v : Value} (h : number c = .ok (v, next)) :
    ∃ t, c.rest = t ++ next.rest ∧ IsNumber t v := by
  rw [number_eq] at h
  split at h
  · next v' hvalue =>
    obtain ⟨rfl, rfl⟩ := Prod.mk.inj (Except.ok.inj h)
    obtain ⟨t, ht, hspelled⟩ :=
      NumberParts.exists_isSpelled (NumberParts.whole_ne_nil_of_value hvalue)
    exact ⟨t, ht.symm, _, hspelled, hvalue⟩
  · cases h

/-- A word or a number. -/
theorem spells_of_scalar {c next : Cursor} {v : Value} (h : scalar c = .ok (v, next)) (room : Nat) :
    ∃ t, c.rest = t ++ next.rest ∧ Spells room t (.value v) := by
  unfold scalar at h
  split at h
  · next word v' hfound =>
    obtain ⟨rfl, rfl⟩ := Prod.mk.inj (Except.ok.inj h)
    have hprefix : word <+: c.rest :=
      List.isPrefixOf_iff_prefix.mp (by simpa using List.find?_some hfound)
    exact ⟨word, (List.prefix_iff_eq_append.mp hprefix).symm,
      .word (List.mem_of_find?_eq_some hfound)⟩
  · obtain ⟨t, ht, hnumber⟩ := isNumber_of_number h
    exact ⟨t, ht, .number hnumber⟩

/-! ## Values inside each other -/

section Containers

variable {α : Type} {c next : Cursor} {a : α}

/-- What is skipped is white space. -/
theorem exists_spaces (c : Cursor) : ∃ space, IsSpaces space ∧ c.rest = space ++ c.skipSpace.rest :=
  ⟨c.rest.takeWhile Cursor.isSpace, fun _ hx => List.mem_takeWhile_imp hx, by
    rw [Cursor.rest_skipSpace, List.takeWhile_append_dropWhile]⟩

/-- A text in quotes. -/
theorem exists_enclosed_of_stringBody {start offset : Nat} {t s : Text}
    (h : stringBody start none offset t = .ok (s, next)) :
    ∃ body, IsBody body s ∧ .scalar '"' :: t = enclosed '"' '"' body ++ next.rest := by
  obtain ⟨body, rfl, hbody⟩ := isBody_of_stringBody start none offset t s next h
  exact ⟨body, hbody [] rfl, by simp [enclosed]⟩

/-- A mark and the white space around it. -/
theorem exists_mark_of_head? {mark : Character} (h : c.skipSpace.rest.head? = some mark) :
    ∃ t, IsMark mark t ∧ c.rest = t ++ (c.skipSpace.advance 1).skipSpace.rest := by
  obtain ⟨space, hspace, hrest⟩ := exists_spaces c
  obtain ⟨space', hspace', hrest'⟩ := exists_spaces (c.skipSpace.advance 1)
  obtain ⟨t, ht⟩ := List.head?_eq_some_iff.mp h
  have hnext : (c.skipSpace.advance 1).rest = t := by rw [Cursor.rest_advance, ht]; rfl
  refine ⟨_, .mk hspace hspace', ?_⟩
  rw [hrest, ht, ← hnext, hrest']
  simp

/-- A key that is read is a name. -/
theorem exists_name_of_key {k : Text} (h : key c = .ok (k, next)) :
    ∃ name, IsName name k ∧ c.rest = name ++ next.rest := by
  by_cases hquote : c.rest.head? = some (.scalar '"')
  · obtain ⟨t, ht⟩ := List.head?_eq_some_iff.mp hquote
    rw [key_of_quote ht] at h
    obtain ⟨⟨k', afterKey⟩, hread, h⟩ := exists_of_bind_eq_ok h
    dsimp only at h
    split at h
    · next hcolon =>
      obtain ⟨rfl, rfl⟩ := Prod.mk.inj (Except.ok.inj h)
      obtain ⟨body, hbody, hbrackets⟩ := exists_enclosed_of_stringBody hread
      obtain ⟨colon, hmark, hrest⟩ := exists_mark_of_head? hcolon
      exact ⟨_, .mk hbody hmark, by rw [ht, hbrackets, hrest, List.append_assoc]⟩
    · cases h
  · rw [key_of_head? hquote] at h
    cases h

/-- From the opening character of a container on, its closing character follows, or what is
inside. -/
theorem exists_of_afterOpening {opening close : Character} {empty : α} {t : Text}
    {inside : Cursor → Except Error (α × Cursor)} (hc : c.rest = opening :: t)
    (h : afterOpening close empty inside c = .ok (a, next)) :
    ∃ space, IsSpaces space ∧ ((a = empty ∧ c.rest = enclosed opening close space ++ next.rest) ∨
      ∃ mid : Cursor, c.rest = opening :: (space ++ mid.rest) ∧ inside mid = .ok (a, next)) := by
  obtain ⟨space, hspace, hrest⟩ := exists_spaces (c.advance 1)
  rw [Cursor.rest_advance, hc, List.drop_one, List.tail_cons] at hrest
  refine ⟨space, hspace, ?_⟩
  unfold afterOpening at h
  split at h
  · next hclose =>
    obtain ⟨rfl, rfl⟩ := Prod.mk.inj (Except.ok.inj h)
    obtain ⟨t', ht'⟩ := List.head?_eq_some_iff.mp hclose
    refine Or.inl ⟨rfl, ?_⟩
    rw [hc, hrest, Cursor.rest_advance, ht']
    simp [enclosed]
  · exact Or.inr ⟨_, by rw [hc, hrest], h⟩

/-- Behind a value inside a container, its closing character follows, or a comma and more. -/
theorem exists_of_afterValue {close : Character} {last : α}
    {more : Cursor → Except Error (α × Cursor)} (h : afterValue close last more c = .ok (a, next)) :
    (a = last ∧ ∃ space, IsSpaces space ∧ c.rest = space ++ close :: next.rest) ∨
      ∃ comma mid, IsMark ',' comma ∧ c.rest = comma ++ mid.rest ∧ more mid = .ok (a, next) := by
  unfold afterValue at h
  split at h
  · next hcomma =>
    obtain ⟨comma, hmark, hrest⟩ := exists_mark_of_head? hcomma
    exact Or.inr ⟨comma, _, hmark, hrest, h⟩
  · split at h
    · next hclose =>
      obtain ⟨rfl, rfl⟩ := Prod.mk.inj (Except.ok.inj h)
      obtain ⟨space, hspace, hrest⟩ := exists_spaces c
      obtain ⟨t, ht⟩ := List.head?_eq_some_iff.mp hclose
      refine Or.inl ⟨rfl, space, hspace, ?_⟩
      rw [hrest, ht, Cursor.rest_advance, ht]
      rfl
    · cases h

end Containers

/-- Whatever is read with some fuel is spelled by the characters that the reader goes over. -/
structure SoundWith (fuel : Nat) : Prop where
  /-- A value. -/
  value {room : Nat} {c next : Cursor} {v : Value} (h : value fuel room c = .ok (v, next)) :
    ∃ t, c.rest = t ++ next.rest ∧ Spells room t (.value v)
  /-- The items of an array, before its closing bracket. -/
  items {room : Nat} {c next : Cursor} {vs : List Value} (h : items fuel room c = .ok (vs, next)) :
    ∃ t, c.rest = t ++ .scalar ']' :: next.rest ∧ Spells room t (.items vs)
  /-- The members of an object, before its closing brace. -/
  entries {room : Nat} {before es : Entries} {c next : Cursor}
    (h : entries fuel room before c = .ok (es, next)) :
    ∃ t ms, c.rest = t ++ .scalar '}' :: next.rest ∧ Spells room t (.members ms) ∧
      es = before.insertAll ms

namespace SoundWith

variable {fuel room : Nat} {c next : Cursor}

/-- One step of a value, given the items and the members inside it. -/
theorem value_succ (ih : SoundWith fuel) {v : Value}
    (h : Json.value (fuel + 1) room c = .ok (v, next)) :
    ∃ t, c.rest = t ++ next.rest ∧ Spells room t (.value v) := by
  -- What begins here is told by its first character.
  rcases c.rest_cases with ⟨t, ht⟩ | ⟨t, ht⟩ | ⟨t, ht⟩ | ⟨hquote, hbracket, hbrace⟩
  · rw [value_of_quote ht] at h
    obtain ⟨⟨s, next⟩, hread, heq⟩ := exists_of_map_eq_ok h
    obtain ⟨rfl, rfl⟩ := Prod.mk.inj heq
    obtain ⟨body, hbody, hrest⟩ := exists_enclosed_of_stringBody hread
    exact ⟨_, ht.trans hrest, .string hbody⟩
  · rw [value_of_bracket ht] at h
    cases room with
    | zero => cases h
    | succ room =>
      obtain ⟨space, hspace, ⟨rfl, hrest⟩ | ⟨mid, hrest, hinside⟩⟩ := exists_of_afterOpening ht h
      · exact ⟨_, hrest, .emptyArray hspace⟩
      · obtain ⟨⟨vs, next⟩, hread, heq⟩ := exists_of_map_eq_ok hinside
        obtain ⟨rfl, rfl⟩ := Prod.mk.inj heq
        obtain ⟨u, hu, hspells⟩ := ih.items hread
        exact ⟨_, by rw [hrest, hu]; simp [enclosed], .array hspace hspells⟩
  · rw [value_of_brace ht] at h
    cases room with
    | zero => cases h
    | succ room =>
      obtain ⟨space, hspace, ⟨rfl, hrest⟩ | ⟨mid, hrest, hinside⟩⟩ := exists_of_afterOpening ht h
      · exact ⟨_, hrest, .emptyObject hspace⟩
      · obtain ⟨⟨es, next⟩, hread, heq⟩ := exists_of_map_eq_ok hinside
        obtain ⟨rfl, rfl⟩ := Prod.mk.inj heq
        obtain ⟨u, ms, hu, hspells, rfl⟩ := ih.entries hread
        exact ⟨_, by rw [hrest, hu]; simp [enclosed], .object hspace hspells⟩
  · rw [value_of_head? hquote hbracket hbrace] at h
    exact spells_of_scalar h room

/-- Items that are read are items. -/
theorem items_succ (ih : SoundWith fuel) {vs : List Value}
    (h : Json.items (fuel + 1) room c = .ok (vs, next)) :
    ∃ t, c.rest = t ++ .scalar ']' :: next.rest ∧ Spells room t (.items vs) := by
  rw [Json.items_succ] at h
  obtain ⟨⟨v, afterItem⟩, hread, h⟩ := exists_of_bind_eq_ok h
  obtain ⟨t, ht, hspells⟩ := ih.value hread
  rcases exists_of_afterValue h with ⟨rfl, space, hspace, hrest⟩ | ⟨comma, mid, hcomma, hrest, h⟩
  · exact ⟨_, by rw [ht, hrest, List.append_assoc], .lastItem hspells hspace⟩
  · obtain ⟨⟨vs, next⟩, hmore, heq⟩ := exists_of_map_eq_ok h
    obtain ⟨rfl, rfl⟩ := Prod.mk.inj heq
    obtain ⟨u, hu, hspells'⟩ := ih.items hmore
    exact ⟨_, by rw [ht, hrest, hu]; simp, .item hspells hcomma hspells'⟩

/-- Entries that are read are members, of which the last of each key counts. -/
theorem entries_succ (ih : SoundWith fuel) {before es : Entries}
    (h : Json.entries (fuel + 1) room before c = .ok (es, next)) :
    ∃ t ms, c.rest = t ++ .scalar '}' :: next.rest ∧ Spells room t (.members ms) ∧
      es = before.insertAll ms := by
  rw [Json.entries_succ] at h
  obtain ⟨⟨k, afterKey⟩, hkey, h⟩ := exists_of_bind_eq_ok h
  obtain ⟨⟨v, afterMember⟩, hread, h⟩ := exists_of_bind_eq_ok h
  obtain ⟨name, hname, hrest⟩ := exists_name_of_key hkey
  obtain ⟨t, ht, hspells⟩ := ih.value hread
  rcases exists_of_afterValue h with ⟨rfl, space, hspace, hend⟩ | ⟨comma, mid, hcomma, hend, h⟩
  · exact ⟨_, _, by rw [hrest, ht, hend]; simp, .lastMember hname hspells hspace, rfl⟩
  · obtain ⟨u, ms, hu, hspells', rfl⟩ := ih.entries h
    exact ⟨_, _, by rw [hrest, ht, hend, hu]; simp, .member hname hspells hcomma hspells', rfl⟩

end SoundWith

/-- So it is with any fuel. -/
theorem soundWith (fuel : Nat) : SoundWith fuel := by
  induction fuel with
  | zero => exact ⟨(nomatch ·), (nomatch ·), (nomatch ·)⟩
  | succ fuel ih => exact ⟨ih.value_succ, ih.items_succ, ih.entries_succ⟩

/-- A document that is read. -/
theorem isDocument_of_read {limit : Nat} {t : Text} {v : Value} (h : read limit t = .ok v) :
    IsDocument limit t v := by
  by_cases hmark : t.head? = some (.scalar '\uFEFF')
  · rw [read_of_mark hmark] at h
    cases h
  rw [read_eq hmark] at h
  obtain ⟨space, hspace, hstart⟩ := exists_spaces ⟨0, t⟩
  cases hvalue : value (2 * t.length + 2) limit (.ofDocument t) with
  | error e =>
    rw [hvalue] at h
    cases h
  | ok r =>
    obtain ⟨v', next⟩ := r
    rw [hvalue, finish] at h
    split at h
    · next hempty =>
      obtain rfl := Except.ok.inj h
      obtain ⟨u, hu, hspells⟩ := (soundWith _).value hvalue
      obtain ⟨space', hspace', hend⟩ := exists_spaces next
      rw [List.isEmpty_iff.mp hempty, List.append_nil] at hend
      -- What was read and what was skipped on both sides is the whole text.
      obtain rfl : t = space ++ (u ++ space') := by
        rw [← hend, ← hu]
        exact hstart
      exact .mk hspace hspells hspace'
    · cases h

end SourceEditor.Json

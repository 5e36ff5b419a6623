import SourceEditor.Character.Alphabetic
import SourceEditor.Proofs.Character.Classes
import SourceEditor.Proofs.Compile.Lines
import Mathlib.Data.Nat.Digits.Defs

/-!
# Places of errors

A line of the compiler names a place by two numbers between colons, with blanks and the word for
errors behind them. The source line of a diagnostic is the first number at the leftmost such place
in front of the first line feed. Whatever numbers and colons a path holds, the place that the
compiler puts behind it is the leftmost one, because no other place can begin in the path and end
behind it.

* `Diagnostic.BeginsPlace`: the place of an error at the front of a text.
* `Diagnostic.NamesFirst`: the leftmost place of a text and the number that it names.
* `Diagnostic.namesAt_path_of_lt`: a place that begins in a path ends in it.
* `Diagnostic.line?_place`: what line a text names, and what becomes of a path with a place.
-/

namespace SourceEditor

namespace Character

/-- A blank is neither a letter nor a decimal. -/
theorem not_isBlank_of_isLetter_or_isDecimal {c : Character}
    (h : isLetter c = true ∨ isDecimal c = true) : isBlank c = false := by
  have hneither : (isLetter c || isDecimal c) = true := Bool.or_eq_true _ _ |>.mpr h
  rw [Bool.eq_false_iff]
  intro hblank
  rw [eq_false_of_isBlank (p := fun c => isLetter c || isDecimal c) (by decide +kernel) hblank]
    at hneither
  exact Bool.false_ne_true hneither

end Character

/-- The number that decimals of any script stand for, the most significant first. -/
def Numeral.Denotes (digits : Text) (n : Nat) : Prop :=
  ∃ values : List Nat, digits.map Character.decimalValue? = values.map some ∧
    n = Nat.ofDigits 10 values.reverse

/-- The value of some digits is that of the library, whose digits come in the other order. -/
theorem Numeral.valueOf_eq_ofDigits (values : List Nat) :
    valueOf values = Nat.ofDigits 10 values.reverse := by
  rw [Nat.ofDigits_eq_foldr, List.foldr_reverse]
  simp [valueOf, Nat.add_comm]

namespace Diagnostic

/-- Decimals of any script, at least one. -/
def IsField (t : Text) : Prop :=
  t ≠ [] ∧ ∀ c ∈ t, Character.isDecimal c = true

/-- The place of an error begins a text: a field between colons, and another one, with blanks and
the word for errors behind them. The place names a source line by the first field. -/
inductive BeginsPlace : Text → Text → Prop
  | mk {line column blanks : Text} (hline : IsField line) (hcolumn : IsField column)
      (hne : blanks ≠ []) (hblanks : ∀ c ∈ blanks, Character.isBlank c = true) (rest : Text) :
      BeginsPlace (.scalar ':' :: (line ++ .scalar ':' :: (column ++ .scalar ':' ::
        (blanks ++ (("error:" : Text) ++ rest))))) line

/-- The place of an error begins at an offset of a text, before the first line feed. -/
def NamesAt (t : Text) (p : Nat) (line : Text) : Prop :=
  .scalar '\n' ∉ t.take p ∧ BeginsPlace (t.drop p) line

/-- The leftmost place of an error in a text. -/
structure NamesFirst (t : Text) (p : Nat) (line : Text) : Prop where
  namesAt : NamesAt t p line
  first : ∀ q < p, ∀ line', ¬ NamesAt t q line'

variable {t line column : Text} {p : Nat}

/-! ## Fields and blanks -/

/-- A field ends where a colon stands. -/
theorem IsField.colon_notMem (h : IsField line) : .scalar ':' ∉ line := by
  intro hmem
  have hcolon := h.2 _ hmem
  revert hcolon
  decide

/-- A field is found where digits stand before a colon. -/
theorem field?_eq_some_iff {digits rest : Text} :
    field? t = some (digits, rest) ↔ IsField digits ∧ t = digits ++ .scalar ':' :: rest := by
  constructor
  · intro h
    unfold field? at h
    dsimp only at h
    split at h
    · next rest' hdrop =>
      split at h
      · cases h
      · next hne =>
        -- The digits are those that were taken, and the colon is where they end.
        obtain ⟨rfl, rfl⟩ := Prod.mk.inj (Option.some.inj h)
        refine ⟨⟨by simpa using hne, fun c hc => List.all_eq_true.mp List.all_takeWhile c hc⟩, ?_⟩
        rw [← hdrop, List.takeWhile_append_dropWhile]
    · cases h
  · rintro ⟨hfield, rfl⟩
    exact field?_append hfield.2 hfield.1 rest

/-- An error is announced by its word behind blanks. -/
theorem isError_iff :
    isError t = true ↔ ∃ blanks rest, blanks ≠ [] ∧ (∀ c ∈ blanks, Character.isBlank c = true) ∧
      t = blanks ++ (("error:" : Text) ++ rest) := by
  cases t with
  | nil => simp [isError]
  | cons c t =>
    rw [isError, Bool.and_eq_true, List.isPrefixOf_iff_prefix]
    constructor
    · rintro ⟨hc, rest, hrest⟩
      refine ⟨c :: t.takeWhile Character.isBlank, rest, List.cons_ne_nil _ _, ?_, ?_⟩
      · exact List.forall_mem_cons.mpr
          ⟨hc, fun d hd => List.all_eq_true.mp List.all_takeWhile d hd⟩
      · rw [hrest, List.cons_append, List.takeWhile_append_dropWhile]
    · rintro ⟨blanks, rest, hne, hblanks, ht⟩
      obtain ⟨b, blanks, rfl⟩ := List.exists_cons_of_ne_nil hne
      obtain ⟨rfl, rfl⟩ := List.cons.inj ht
      obtain ⟨hb, hblanks⟩ := List.forall_mem_cons.mp hblanks
      -- The word begins with a letter, so that the blanks end there.
      have hword : (blanks ++ (("error:" : Text) ++ rest)).dropWhile Character.isBlank =
          ("error:" : Text) ++ rest := List.dropWhile_append_of_pos hblanks
      exact ⟨hb, rest, hword.symm⟩

/-- The digits of a line are found where a place begins. -/
theorem lineDigitsHere?_eq_some_iff : lineDigitsHere? t = some line ↔ BeginsPlace t line := by
  constructor
  · intro h
    unfold lineDigitsHere? at h
    split at h
    · next t =>
      simp only [Option.bind_eq_bind, Option.bind_eq_some_iff, Prod.exists,
        Option.ite_none_right_eq_some, Option.some.injEq] at h
      obtain ⟨_, _, hline?, _, _, hcolumn?, herror, rfl⟩ := h
      obtain ⟨hline, rfl⟩ := field?_eq_some_iff.mp hline?
      obtain ⟨hcolumn, rfl⟩ := field?_eq_some_iff.mp hcolumn?
      obtain ⟨blanks, rest, hne, hblanks, rfl⟩ := isError_iff.mp herror
      exact .mk hline hcolumn hne hblanks rest
    · cases h
  · rintro ⟨hline, hcolumn, hne, hblanks, rest⟩
    have herror := isError_iff.mpr ⟨_, rest, hne, hblanks, rfl⟩
    simp only [lineDigitsHere?, field?_eq_some_iff.mpr ⟨hline, rfl⟩,
      field?_eq_some_iff.mpr ⟨hcolumn, rfl⟩, Option.bind_eq_bind, Option.bind_some, herror, if_true]

/-! ## The leftmost place -/

/-- At the beginning of a text, this is what is looked for. -/
theorem namesAt_zero : NamesAt t 0 line ↔ lineDigitsHere? t = some line := by
  simp [NamesAt, lineDigitsHere?_eq_some_iff]

/-- Behind a character of the same line, it is what is looked for in the rest. -/
theorem namesAt_succ {c : Character} :
    NamesAt (c :: t) (p + 1) line ↔ c ≠ .scalar '\n' ∧ NamesAt t p line := by
  simp only [NamesAt, List.take_succ_cons, List.drop_succ_cons, List.mem_cons, not_or, and_assoc,
    ne_comm, ne_eq]

/-- No place means that no offset has one. -/
theorem lineDigits?_eq_none_iff : lineDigits? t = none ↔ ∀ p line, ¬ NamesAt t p line := by
  induction t with
  | nil =>
    refine iff_of_true rfl fun p line h => ?_
    have hplace := h.2
    rw [List.drop_nil] at hplace
    cases hplace
  | cons c t ih =>
    -- No place is named here, and none further on.
    rw [lineDigits?, Option.or_eq_none_iff]
    constructor
    · rintro ⟨hhere, hrest⟩ (_ | p) line h
      · rw [namesAt_zero, hhere] at h
        cases h
      · obtain ⟨hc, h⟩ := namesAt_succ.mp h
        rw [if_neg hc] at hrest
        exact ih.mp hrest p line h
    · intro h
      refine ⟨Option.eq_none_iff_forall_ne_some.mpr fun line hhere =>
        h 0 line (namesAt_zero.mpr hhere), ?_⟩
      split
      · rfl
      · next hc => exact ih.mpr fun p line hp => h (p + 1) line (namesAt_succ.mpr ⟨hc, hp⟩)

/-- The digits that are read are those of the leftmost place. -/
theorem NamesFirst.lineDigits?_eq (h : NamesFirst t p line) : lineDigits? t = some line := by
  induction t generalizing p with
  | nil => exact absurd h.namesAt (lineDigits?_eq_none_iff.mp rfl p line)
  | cons c t ih =>
    obtain ⟨hat, hfirst⟩ := h
    rw [lineDigits?]
    cases p with
    | zero => rw [namesAt_zero.mp hat, Option.some_or]
    | succ p =>
      obtain ⟨hc, hat⟩ := namesAt_succ.mp hat
      -- Nothing begins here, and the line goes on.
      have hhere : lineDigitsHere? (c :: t) = none :=
        Option.eq_none_iff_forall_ne_some.mpr fun line' h =>
          hfirst 0 (Nat.succ_pos p) line' (namesAt_zero.mpr h)
      rw [hhere, Option.none_or, if_neg hc]
      refine ih ⟨hat, fun q hq line' h => ?_⟩
      exact hfirst (q + 1) (Nat.succ_lt_succ hq) line' (namesAt_succ.mpr ⟨hc, h⟩)

/-- If there is a place at all, there is a leftmost one. -/
theorem exists_namesFirst (h : NamesAt t p line) : ∃ p line, NamesFirst t p line := by
  classical
  have hex : ∃ p line, NamesAt t p line := ⟨p, line, h⟩
  obtain ⟨first, hfirst⟩ := Nat.find_spec hex
  exact ⟨Nat.find hex, first, hfirst, fun q hq line' h => Nat.find_min hex hq ⟨line', h⟩⟩

/-- The first place of a text is found. -/
theorem lineDigits?_eq_some_iff : lineDigits? t = some line ↔ ∃ p, NamesFirst t p line := by
  constructor
  · intro h
    have hex : ∃ p line, NamesAt t p line := by
      by_contra hno
      rw [lineDigits?_eq_none_iff.mpr fun p line hp => hno ⟨p, line, hp⟩] at h
      cases h
    obtain ⟨_, _, hat⟩ := hex
    obtain ⟨p, line', hfirst⟩ := exists_namesFirst hat
    obtain rfl := Option.some.inj (hfirst.lineDigits?_eq.symm.trans h)
    exact ⟨p, hfirst⟩
  · rintro ⟨p, h⟩
    exact h.lineDigits?_eq

/-- The line of a place is a field. -/
theorem BeginsPlace.isField (h : BeginsPlace t line) : IsField line := by
  cases h with
  | mk hline => exact hline

/-! ## The number -/

/-- Every decimal digit has a value. -/
theorem map_decimalValue? {digits : Text} (h : ∀ c ∈ digits, Character.isDecimal c = true) :
    digits.map Character.decimalValue? =
      (digits.filterMap Character.decimalValue?).map some := by
  induction digits with
  | nil => rfl
  | cons c digits ih =>
    obtain ⟨hc, hdigits⟩ := List.forall_mem_cons.mp h
    obtain ⟨value, hvalue⟩ := Option.isSome_iff_exists.mp hc
    rw [List.map_cons, List.filterMap_cons_some hvalue, List.map_cons, hvalue, ih hdigits]

/-- The value that is computed of a field is the number that the field denotes. -/
theorem IsField.denotes_iff (h : IsField line) {n : Nat} :
    Numeral.Denotes line n ↔ n = Numeral.valueOf (line.filterMap Character.decimalValue?) := by
  rw [Numeral.valueOf_eq_ofDigits, Numeral.Denotes, map_decimalValue? h.2]
  -- Every decimal has one value, so that the digits decide about the number.
  constructor
  · rintro ⟨values, hvalues, rfl⟩
    rw [List.map_injective_iff.mpr (Option.some_injective _) hvalues]
  · exact fun hn => ⟨_, rfl, hn⟩

/-- A text names no line exactly if no place is in it. -/
theorem line?_eq_none_iff : line? t = .ok none ↔ ∀ p line, ¬ NamesAt t p line := by
  rw [← lineDigits?_eq_none_iff]
  unfold line?
  cases lineDigits? t with
  | none => simp
  | some digits =>
    dsimp only
    split <;> simp

/-- It names the line of its first place, unless that has too many digits. -/
theorem line?_eq_some_iff {n : Nat} : line? t = .ok (some n) ↔
    ∃ p line, NamesFirst t p line ∧ line.length ≤ Numeral.digitLimit ∧
      Numeral.Denotes line n := by
  have hread : line? t = .ok (some n) ↔ ∃ line, lineDigits? t = some line ∧
      line.length ≤ Numeral.digitLimit ∧
      n = Numeral.valueOf (line.filterMap Character.decimalValue?) := by
    unfold line?
    cases lineDigits? t with
    | none => simp
    | some line =>
      by_cases hlength : line.length ≤ Numeral.digitLimit
      · simp [hlength, eq_comm]
      · simp [hlength]
  rw [hread]
  constructor
  · rintro ⟨line, hline, hlength, hn⟩
    obtain ⟨p, hfirst⟩ := lineDigits?_eq_some_iff.mp hline
    exact ⟨p, line, hfirst, hlength, hfirst.namesAt.2.isField.denotes_iff.mpr hn⟩
  · rintro ⟨p, line, hfirst, hlength, hn⟩
    exact ⟨line, hfirst.lineDigits?_eq, hlength, hfirst.namesAt.2.isField.denotes_iff.mp hn⟩

/-! ## A place behind a path -/

/-- What stands before a colon, and what stands before the first colon. -/
theorem append_colon_cases {s x l y : Text} (hl : .scalar ':' ∉ l)
    (h : s ++ .scalar ':' :: x = l ++ .scalar ':' :: y) :
    (s = l ∧ x = y) ∨ ∃ more, s = l ++ .scalar ':' :: more ∧ y = more ++ .scalar ':' :: x := by
  rcases List.append_eq_append_iff.mp h with ⟨more, rfl, hmore⟩ | ⟨more, rfl, hmore⟩
  · cases more with
    | nil => exact .inl ⟨(List.append_nil s).symm, (List.cons.inj hmore).2⟩
    | cons c more =>
      -- The colon would stand in what has none.
      obtain ⟨rfl, -⟩ := List.cons.inj hmore
      simp at hl
  · cases more with
    | nil => exact .inl ⟨List.append_nil l, (List.cons.inj hmore).2.symm⟩
    | cons c more =>
      obtain ⟨rfl, hy⟩ := List.cons.inj hmore
      exact .inr ⟨more, rfl, hy⟩

/-- A text begins with one field at most. -/
theorem IsField.append_colon_inj (h : IsField line) (h' : IsField column) {s s' : Text}
    (heq : line ++ .scalar ':' :: s = column ++ .scalar ':' :: s') : line = column ∧ s = s' := by
  have hread := (field?_eq_some_iff.mpr ⟨h, rfl⟩).symm.trans (field?_eq_some_iff.mpr ⟨h', heq⟩)
  exact Prod.mk.inj (Option.some.inj hread)

/-- Blanks do not begin where a field begins. -/
theorem IsField.append_ne (h : IsField line) {blanks : Text} (hne : blanks ≠ [])
    (hblanks : ∀ c ∈ blanks, Character.isBlank c = true) (s s' : Text) :
    line ++ s ≠ blanks ++ s' := by
  intro heq
  obtain ⟨c, line, rfl⟩ := List.exists_cons_of_ne_nil h.1
  obtain ⟨b, blanks, rfl⟩ := List.exists_cons_of_ne_nil hne
  obtain ⟨rfl, -⟩ := List.cons.inj heq
  have hblank := hblanks c List.mem_cons_self
  rw [Character.not_isBlank_of_isLetter_or_isDecimal (.inr (h.2 c List.mem_cons_self))] at hblank
  cases hblank

/-- No colon stands between the column and the end of the word for errors. -/
theorem colon_notMem_blanks_append_error {blanks : Text}
    (hblanks : ∀ c ∈ blanks, Character.isBlank c = true) :
    .scalar ':' ∉ blanks ++ ("error" : Text) := by
  rw [List.mem_append, not_or]
  refine ⟨fun hmem => ?_, by decide⟩
  have hcolon := hblanks _ hmem
  revert hcolon
  decide

/-- A place that begins in front of two fields ends with the colon before them at the latest: this
colon cannot be a part of it with the fields behind it. -/
theorem BeginsPlace.of_append {digits s rest : Text} (hline : IsField line)
    (hcolumn : IsField column) (hs : s ≠ [])
    (h : BeginsPlace (s ++ .scalar ':' :: (line ++ .scalar ':' :: (column ++ rest))) digits) :
    BeginsPlace (s ++ [.scalar ':']) digits := by
  obtain ⟨c, s, rfl⟩ := List.exists_cons_of_ne_nil hs
  rw [List.cons_append] at h
  generalize hwhole : s ++ .scalar ':' :: (line ++ .scalar ':' :: (column ++ rest)) = whole at h
  cases h with
  | @mk digits column' blanks hdigits hcolumn' hne hblanks more =>
    -- The colon in question is the second one of the place, the third one, or a later one.
    rcases append_colon_cases hdigits.colon_notMem hwhole with ⟨rfl, hsecond⟩ | ⟨s, rfl, hsecond⟩
    · have hthird := (hline.append_colon_inj hcolumn' hsecond).2
      exact absurd hthird (hcolumn.append_ne hne hblanks _ _)
    rcases append_colon_cases hcolumn'.colon_notMem hsecond.symm with
      ⟨rfl, hthird⟩ | ⟨s, rfl, hthird⟩
    · exact absurd hthird (hline.append_ne hne hblanks _ _)
    -- The word for errors ends with the first colon behind the third one.
    have herror : s ++ .scalar ':' :: (line ++ .scalar ':' :: (column ++ rest)) =
        (blanks ++ ("error" : Text)) ++ .scalar ':' :: more := by
      rw [← hthird, List.append_assoc]
      rfl
    have hends : ∃ more', s ++ [.scalar ':'] = blanks ++ (("error:" : Text) ++ more') := by
      rcases append_colon_cases (colon_notMem_blanks_append_error hblanks) herror with
        ⟨rfl, -⟩ | ⟨s, rfl, -⟩
      · exact ⟨[], by rw [List.append_assoc]; rfl⟩
      · exact ⟨s ++ [.scalar ':'], by simp [Text.ofChars]⟩
    obtain ⟨more', hmore'⟩ := hends
    have hplace := BeginsPlace.mk hdigits hcolumn' hne hblanks more'
    rw [← hmore'] at hplace
    simpa using hplace

/-- A place that begins in a path ends in it, or with the colon behind it. -/
theorem namesAt_path_of_lt {path digits rest : Text} (hline : IsField line)
    (hcolumn : IsField column)
    (h : NamesAt (path ++ .scalar ':' :: (line ++ .scalar ':' :: (column ++ rest))) p digits)
    (hp : p < path.length) : NamesAt (path ++ [.scalar ':']) p digits := by
  obtain ⟨hbefore, hplace⟩ := h
  rw [List.take_append_of_le_length hp.le] at hbefore
  rw [List.drop_append_of_le_length hp.le] at hplace
  rw [NamesAt, List.take_append_of_le_length hp.le, List.drop_append_of_le_length hp.le]
  have hne : path.drop p ≠ [] := by simpa using hp
  exact ⟨hbefore, hplace.of_append hline hcolumn hne⟩

/-- Behind a path without a place of its own, the place of an error is the leftmost one. -/
theorem namesFirst_path {path blanks : Text} (hpath : .scalar '\n' ∉ path)
    (hnone : line? (path ++ [.scalar ':']) = .ok none) (hline : IsField line)
    (hcolumn : IsField column) (hne : blanks ≠ [])
    (hblanks : ∀ c ∈ blanks, Character.isBlank c = true) (rest : Text) :
    NamesFirst (path ++ .scalar ':' :: (line ++ .scalar ':' :: (column ++ .scalar ':' ::
      (blanks ++ (("error:" : Text) ++ rest))))) path.length line where
  namesAt := by
    rw [NamesAt, List.take_left, List.drop_left]
    exact ⟨hpath, .mk hline hcolumn hne hblanks rest⟩
  first q hq line' h :=
    line?_eq_none_iff.mp hnone q line' (namesAt_path_of_lt hline hcolumn h hq)

/-! ## Other words -/

/-- A character at which no place begins may be left out. -/
theorem lineDigits?_cons_eq_none {c : Character} (hhere : lineDigitsHere? (c :: t) = none)
    (hrest : lineDigits? t = none) : lineDigits? (c :: t) = none := by
  rw [lineDigits?, hhere, hrest, Option.none_or, ite_self]

/-- What holds no colon adds no place to what follows it. -/
theorem lineDigits?_append_eq_none {s : Text} (hs : .scalar ':' ∉ s)
    (hrest : lineDigits? t = none) : lineDigits? (s ++ t) = none := by
  induction s with
  | nil => exact hrest
  | cons c s ih =>
    obtain ⟨hc, hs⟩ := not_or.mp (mt List.mem_cons.mpr hs)
    refine lineDigits?_cons_eq_none ?_ (ih hs)
    unfold lineDigitsHere?
    split
    · next h => exact absurd (List.cons.inj h).1.symm hc
    · rfl

/-- No field begins with a blank. -/
theorem field?_space (t : Text) : field? (.scalar ' ' :: t) = none := by
  rw [Option.eq_none_iff_forall_ne_some]
  rintro ⟨digits, rest⟩ h
  obtain ⟨hdigits, ht⟩ := field?_eq_some_iff.mp h
  have hne : [Character.scalar ' '] ≠ [] := List.cons_ne_nil _ _
  exact hdigits.append_ne hne (by decide) _ t ht.symm

/-- A word of letters has no colon. -/
theorem colon_notMem_of_isLetter {word : Text} (hword : ∀ c ∈ word, Character.isLetter c = true) :
    .scalar ':' ∉ word := by
  intro hmem
  have hcolon := hword _ hmem
  revert hcolon
  decide

/-- Another word in place of the one for errors makes no place. -/
theorem isError_word {word : Text} (hword : ∀ c ∈ word, Character.isLetter c = true)
    (hother : word ≠ ("error" : Text)) (rest : Text) :
    isError (.scalar ' ' :: (word ++ .scalar ':' :: rest)) = false := by
  rw [Bool.eq_false_iff]
  intro h
  obtain ⟨blanks, rest', hne, hblanks, heq⟩ := isError_iff.mp h
  obtain ⟨b, blanks, rfl⟩ := List.exists_cons_of_ne_nil hne
  obtain ⟨-, hblanks⟩ := List.forall_mem_cons.mp hblanks
  have hends : (blanks ++ ("error" : Text)) ++ .scalar ':' :: rest' =
      word ++ .scalar ':' :: rest := by
    rw [(List.cons.inj heq).2, List.append_assoc]
    rfl
  -- Both words end with the first colon, and what comes before them is blank.
  rcases append_colon_cases (colon_notMem_of_isLetter hword) hends with ⟨rfl, -⟩ | ⟨more, hmore, -⟩
  · cases blanks with
    | nil => exact hother rfl
    | cons b blanks =>
      have hblank := hblanks b List.mem_cons_self
      rw [Character.not_isBlank_of_isLetter_or_isDecimal
        (.inl (hword b List.mem_cons_self))] at hblank
      cases hblank
  · refine colon_notMem_blanks_append_error hblanks ?_
    rw [hmore]
    simp

/-- Behind a path without a place of its own, another word than the one for errors makes no place,
and the message behind it decides. -/
theorem lineDigits?_word {word message : Text} (hline : IsField line) (hcolumn : IsField column)
    (hword : ∀ c ∈ word, Character.isLetter c = true) (hother : word ≠ ("error" : Text))
    (hmessage : lineDigits? message = none) :
    lineDigits? (.scalar ':' :: (line ++ .scalar ':' :: (column ++ .scalar ':' ::
      (.scalar ' ' :: (word ++ .scalar ':' :: .scalar ' ' :: message))))) = none := by
  have hfields : lineDigitsHere? (.scalar ':' :: (line ++ .scalar ':' :: (column ++ .scalar ':' ::
      (.scalar ' ' :: (word ++ .scalar ':' :: .scalar ' ' :: message))))) = none := by
    simp [lineDigitsHere?, field?_eq_some_iff.mpr ⟨hline, rfl⟩,
      field?_eq_some_iff.mpr ⟨hcolumn, rfl⟩, isError_word hword hother]
  have hfield : lineDigitsHere? (.scalar ':' :: (column ++ .scalar ':' ::
      (.scalar ' ' :: (word ++ .scalar ':' :: .scalar ' ' :: message)))) = none := by
    simp [lineDigitsHere?, field?_eq_some_iff.mpr ⟨hcolumn, rfl⟩, field?_space]
  have hspace (t : Text) : lineDigitsHere? (.scalar ':' :: .scalar ' ' :: t) = none := by
    simp [lineDigitsHere?, field?_space]
  -- From the message to the front, part by part.
  refine lineDigits?_cons_eq_none hfields (lineDigits?_append_eq_none hline.colon_notMem ?_)
  refine lineDigits?_cons_eq_none hfield (lineDigits?_append_eq_none hcolumn.colon_notMem ?_)
  refine lineDigits?_cons_eq_none (hspace _) (lineDigits?_cons_eq_none rfl ?_)
  refine lineDigits?_append_eq_none (colon_notMem_of_isLetter hword) ?_
  exact lineDigits?_cons_eq_none (hspace _) (lineDigits?_cons_eq_none rfl hmessage)

/-! ## Diagnostics -/

/-- A place that another word announces names no line. -/
theorem line?_word {path word message : Text}
    (hnone : line? (path ++ [.scalar ':']) = .ok none) (hline : IsField line)
    (hcolumn : IsField column) (hword : ∀ c ∈ word, Character.isLetter c = true)
    (hother : word ≠ ("error" : Text)) (hmessage : line? message = .ok none) :
    line? (path ++ .scalar ':' :: (line ++ .scalar ':' :: (column ++ .scalar ':' ::
      (.scalar ' ' :: (word ++ .scalar ':' :: .scalar ' ' :: message))))) = .ok none := by
  rw [line?_eq_none_iff] at hnone hmessage ⊢
  intro p digits h
  -- A place begins in the path, and is one of its own, or behind the path.
  rcases Nat.lt_or_ge p path.length with hp | hp
  · exact hnone p digits (namesAt_path_of_lt hline hcolumn h hp)
  · obtain ⟨k, rfl⟩ := Nat.exists_eq_add_of_le hp
    have hbehind := lineDigits?_word hline hcolumn hword hother
      (lineDigits?_eq_none_iff.mpr hmessage)
    refine lineDigits?_eq_none_iff.mp hbehind k digits ?_
    -- What stands behind the path sees the rest of the text from there on.
    obtain ⟨hbefore, hplace⟩ := h
    rw [List.take_length_add_append, List.mem_append, not_or] at hbefore
    rw [List.drop_length_add_append] at hplace
    exact ⟨hbefore.2, hplace⟩

/-- A text names a source line exactly if a place of an error begins before its first line feed, and
the line is the number that the leftmost such place names; only if that has too many digits is it
not read. So, whatever stands in a path without a place of its own, a place behind it names its own
line, and with another word than the one for errors none is named. -/
theorem line?_place :
    (∀ t : Text,
      (line? t ≠ .ok none ↔ ∃ p line, NamesAt t p line) ∧
      (∀ n, line? t = .ok (some n) ↔ ∃ p line, NamesFirst t p line ∧ line.length ≤ 4300 ∧
        Numeral.Denotes line n) ∧
      ∀ e, line? t = .error e ↔ ∃ p line, NamesFirst t p line ∧ 4300 < line.length ∧
        e = ⟨line.length⟩) ∧
    ∀ path line column : Text, .scalar '\n' ∉ path → line? (path ++ ":") = .ok none →
      IsField line → IsField column →
      (∀ n message, line.length ≤ 4300 → Numeral.Denotes line n →
        line? (path ++ ":" ++ line ++ ":" ++ column ++ ": error: " ++ message) = .ok (some n)) ∧
      ∀ word message, (∀ c ∈ word, Character.isLetter c = true) → word ≠ ("error" : Text) →
        line? message = .ok none →
        line? (path ++ ":" ++ line ++ ":" ++ column ++ ": " ++ word ++ ": " ++ message) =
          .ok none := by
  refine ⟨fun t => ⟨?_, fun n => line?_eq_some_iff, fun e => ?_⟩,
    fun path line column hpath hnone hline hcolumn => ⟨fun n message hlength hn => ?_,
      fun word message hword hother hmessage => ?_⟩⟩
  · rw [ne_eq, line?_eq_none_iff]
    simp only [not_forall, not_not]
  · -- The digits that are too many are those of the leftmost place as well.
    rw [line?_eq_error_iff]
    simp only [lineDigits?_eq_some_iff]
    constructor
    · rintro ⟨line, ⟨p, hfirst⟩, hlength, rfl⟩
      exact ⟨p, line, hfirst, hlength, rfl⟩
    · rintro ⟨p, line, hfirst, hlength, rfl⟩
      exact ⟨line, ⟨p, hfirst⟩, hlength, rfl⟩
  · -- The place behind the path is the leftmost one, so that its number counts.
    have hne : [Character.scalar ' '] ≠ [] := List.cons_ne_nil _ _
    have hfirst := namesFirst_path hpath hnone hline hcolumn hne (by decide)
      (.scalar ' ' :: message)
    refine line?_eq_some_iff.mpr ⟨path.length, line, ?_, hlength, hn⟩
    simpa [Text.ofChars] using hfirst
  · have hword := line?_word hnone hline hcolumn hword hother hmessage
    simpa [Text.ofChars] using hword

/-- A path that ends like a place and a message that holds one: the place between them is named, and
none is if the place tells of a warning. -/
theorem line?_place_warning :
    line? "a:7:12:5: error: x:1:1: error: y" = .ok (some 12) ∧
      line? "a:7:12:5: warning: x:1:1: note: y" = .ok none := by
  have hpath : .scalar '\n' ∉ ("a:7" : Text) := by decide
  have hnone : line? (("a:7" : Text) ++ ":") = .ok none := by decide
  have hline : IsField ("12" : Text) := ⟨by decide, by decide⟩
  have hcolumn : IsField ("5" : Text) := ⟨by decide, by decide⟩
  have hdenotes : Numeral.Denotes ("12" : Text) 12 := ⟨[1, 2], by decide, by decide⟩
  obtain ⟨herror, hword⟩ := line?_place.2 _ _ _ hpath hnone hline hcolumn
  exact ⟨herror 12 "x:1:1: error: y" (by decide) hdenotes,
    hword "warning" "x:1:1: note: y" (by decide) (by decide) (by decide)⟩

end Diagnostic

end SourceEditor

import SourceEditor.Proofs.Json.Soundness

/-!
# How deep the reader gets

A document is refused for its depth only if brackets really stand that deep inside each other in it,
those in quotes not counted. Up to the container that is too deep the reader has gone over whole
values and names, and over the opening characters of the containers around it; the former leave the
depth as it was, and each of the latter adds one.

* `nesting`: how deep the brackets of a text stand inside each other, by one scan over its
  characters.
* `Crosses`: a scan over a piece ends at the depth at which it began, which holds of all pieces that
  a document is made of (`Spells.crosses`).
* `Reaches`: what holds of the result of a part, with one lemma for each way to put parts together,
  and `ReachesWith`: the parts that stand inside each other, by induction on the fuel.
* `nesting_of_read`: a document that is refused for its depth is deeper than the limit.
* `openings_of_read`: so more containers begin in it than may stand inside each other.
-/

namespace SourceEditor.Json

/-- A character that begins an array or an object. -/
def opensContainer (c : Character) : Bool :=
  c == '[' || c == '{'

/-- A character that ends an array or an object. -/
def closesContainer (c : Character) : Bool :=
  c == ']' || c == '}'

/-- The number of characters of a text that begin an array or an object. -/
def openings (t : Text) : Nat :=
  t.countP opensContainer

/-- Where a scan over a document stands. -/
inductive Place
  /-- Between texts in quotes. -/
  | outside
  /-- In a text in quotes. -/
  | quoted
  /-- Behind a backslash in a text in quotes. -/
  | escaped

namespace Place

/-- Where a scan stands behind a character. -/
def after : Place → Character → Place
  | .outside, c => if c = '"' then .quoted else .outside
  | .quoted, c => if c = '"' then .outside else if c = '\\' then .escaped else .quoted
  | .escaped, _ => .quoted

/-- How many containers are open behind a character. -/
def depthAfter : Place → Character → Nat → Nat
  | .outside, c, depth =>
    if opensContainer c then depth + 1 else if closesContainer c then depth - 1 else depth
  | _, _, depth => depth

end Place

/-- The most containers that are open at once in what is left of a document. -/
def nestingFrom (place : Place) (depth : Nat) : Text → Nat
  | [] => depth
  | c :: t => max depth (nestingFrom (place.after c) (place.depthAfter c depth) t)

/-- How deep the containers of a text stand inside each other. -/
def nesting (t : Text) : Nat :=
  nestingFrom .outside 0 t

/-- A piece of a text opens no more than the text. -/
theorem openings_mono {t u : Text} (h : u <:+: t) : openings u ≤ openings t :=
  h.sublist.countP_le

/-- A scan never comes to less than where it is. -/
theorem le_nestingFrom (place : Place) (depth : Nat) (t : Text) :
    depth ≤ nestingFrom place depth t := by
  cases t with
  | nil => exact Nat.le_refl _
  | cons c t => exact Nat.le_max_left _ _

/-- Nor does it if a character is left out at the front. -/
theorem nestingFrom_after_le (place : Place) (depth : Nat) (c : Character) (t : Text) :
    nestingFrom (place.after c) (place.depthAfter c depth) t ≤ nestingFrom place depth (c :: t) :=
  Nat.le_max_right _ _

/-- It never goes deeper than there are openings. -/
theorem nestingFrom_le_add_openings (place : Place) (depth : Nat) (t : Text) :
    nestingFrom place depth t ≤ depth + openings t := by
  induction t generalizing place depth with
  | nil => exact Nat.le_refl _
  | cons c t ih =>
    have hdepth : place.depthAfter c depth ≤ depth + if opensContainer c then 1 else 0 := by
      unfold Place.depthAfter
      grind
    have hrest := ih (place.after c) (place.depthAfter c depth)
    have hcount : openings (c :: t) = openings t + if opensContainer c then 1 else 0 :=
      List.countP_cons
    rw [nestingFrom]
    omega

/-- No more containers stand inside each other than begin. -/
theorem nesting_le_openings (t : Text) : nesting t ≤ openings t :=
  (nestingFrom_le_add_openings _ _ t).trans_eq (Nat.zero_add _)

/-! ## What leaves the depth as it was -/

/-- A character that is neither a quote nor a bracket. -/
def IsPlain (c : Character) : Prop :=
  c ≠ '"' ∧ opensContainer c = false ∧ closesContainer c = false

instance (c : Character) : Decidable (IsPlain c) :=
  inferInstanceAs (Decidable (_ ∧ _ ∧ _))

/-- From one place to another, some characters leave as many containers open as there were, so that
what follows them gets as deep as without them. -/
def Crosses (place : Place) (t : Text) (place' : Place) : Prop :=
  ∀ depth rest, nestingFrom place' depth rest ≤ nestingFrom place depth (t ++ rest)

namespace Crosses

variable {p q r : Place} {t u : Text}

/-- Nothing is crossed in no step. -/
theorem nil (p : Place) : Crosses p [] p :=
  fun _ _ => Nat.le_refl _

/-- Texts are crossed one after the other. -/
theorem append (ht : Crosses p t q) (hu : Crosses q u r) : Crosses p (t ++ u) r := by
  intro depth rest
  rw [List.append_assoc]
  exact (hu depth rest).trans (ht depth (u ++ rest))

/-- A character that keeps the depth is crossed. -/
theorem cons {c : Character} (hc : ∀ depth, p.depthAfter c depth = depth)
    (ht : Crosses (p.after c) t q) : Crosses p (c :: t) q := by
  intro depth rest
  have hle := nestingFrom_after_le p depth c (t ++ rest)
  rw [hc] at hle
  exact (ht depth rest).trans hle

/-- So are characters without a meaning for the depth. -/
theorem plain (h : ∀ c ∈ t, IsPlain c) : Crosses .outside t .outside := by
  induction t with
  | nil => exact .nil _
  | cons c t ih =>
    obtain ⟨hquote, hopens, hcloses⟩ := h c List.mem_cons_self
    refine .cons (fun depth => by simp [Place.depthAfter, hopens, hcloses]) ?_
    rw [Place.after, if_neg hquote]
    exact ih fun x hx => h x (List.mem_cons_of_mem c hx)

/-- A container is closed again. -/
theorem container {opening closing : Character} (hopens : opensContainer opening = true)
    (hcloses : closesContainer closing = true) (ht : Crosses .outside t .outside) :
    Crosses .outside (enclosed opening closing t) .outside := by
  have hopening : opening ≠ '"' := by rintro rfl; cases hopens
  have hclosing : closing ≠ '"' := by rintro rfl; cases hcloses
  have hnot : opensContainer closing = false := by
    rw [closesContainer, Bool.or_eq_true, beq_iff_eq, beq_iff_eq] at hcloses
    rcases hcloses with rfl | rfl <;> rfl
  intro depth rest
  have hbefore := nestingFrom_after_le .outside depth opening (t ++ closing :: rest)
  have hbehind := nestingFrom_after_le .outside (depth + 1) closing rest
  simp only [Place.after, Place.depthAfter, if_neg hopening, if_neg hclosing, hopens, hnot, hcloses,
    if_true, Bool.false_eq_true, if_false, Nat.add_sub_cancel] at hbefore hbehind
  have hinside := ht (depth + 1) (closing :: rest)
  rw [enclosed, List.cons_append, List.append_assoc]
  exact hbehind.trans (hinside.trans hbefore)

end Crosses

/-- White space is crossed. -/
theorem IsSpaces.crosses {t : Text} (h : IsSpaces t) : Crosses .outside t .outside := by
  refine .plain fun c hc => ?_
  have hspace := h c hc
  simp only [Cursor.isSpace, Bool.or_eq_true, beq_iff_eq] at hspace
  rcases hspace with ((rfl | rfl) | rfl) | rfl <;> decide

/-- A mark with its white space is crossed. -/
theorem IsMark.crosses {mark : Character} {t : Text} (h : IsMark mark t)
    (hmark : IsPlain mark) : Crosses .outside t .outside := by
  obtain ⟨hspace, hspace'⟩ := h
  refine hspace.crosses.append (.append (t := [mark]) (.plain fun c hc => ?_) hspace'.crosses)
  rwa [List.mem_singleton.mp hc]

/-- A digit of an escape keeps a scan between the quotes. -/
theorem crosses_hex {c : Character} {n : Nat} {t : Text} {p : Place} (h : hexValue? c = some n)
    (ht : Crosses .quoted t p) : Crosses .quoted (c :: t) p := by
  have hne (x : Character) (hx : hexValue? x = none) : c ≠ x := by
    rintro rfl
    cases hx.symm.trans h
  refine .cons (fun _ => rfl) ?_
  rwa [Place.after, if_neg (hne '"' (by decide)), if_neg (hne '\\' (by decide))]

/-- Four hexadecimal digits are crossed between quotes. -/
theorem IsUnit.crosses {t : Text} {u : Nat} (h : IsUnit t u) : Crosses .quoted t .quoted := by
  obtain ⟨h⟩ := h
  simp only [unit?, Option.bind_eq_bind, Option.bind_eq_some_iff] at h
  obtain ⟨m, ha, n, hb, p, hc, q, hd, -⟩ := h
  -- The backslash takes the scan to the `u`, and that back between the quotes.
  refine .cons (fun _ => rfl) (.cons (fun _ => rfl) ?_)
  exact crosses_hex ha (crosses_hex hb (crosses_hex hc (crosses_hex hd (.nil _))))

/-- So is what stands between quotes. -/
theorem IsBody.crosses {body s : Text} (h : IsBody body s) : Crosses .quoted body .quoted := by
  induction h with
  | nil => exact .nil _
  | plain hquote hback _ _ ih =>
    refine .cons (fun _ => rfl) ?_
    rwa [Place.after, if_neg hquote, if_neg hback]
  | letter _ _ ih => exact .cons (fun _ => rfl) (.cons (fun _ => rfl) ih)
  | unit hunit _ _ ih => exact hunit.crosses.append ih
  | pair hx hy _ _ _ ih => exact hx.crosses.append (hy.crosses.append ih)

/-- A text in quotes is crossed. -/
theorem crosses_quoted {body s : Text} (h : IsBody body s) :
    Crosses .outside (enclosed '"' '"' body) .outside :=
  .cons (fun _ => rfl) (h.crosses.append (.cons (fun _ => rfl) (.nil _)))

/-- The name of a member is crossed. -/
theorem IsName.crosses {name k : Text} (h : IsName name k) : Crosses .outside name .outside := by
  obtain ⟨hbody, hcolon⟩ := h
  exact (crosses_quoted hbody).append (hcolon.crosses (by decide))

/-- A digit is plain. -/
theorem isPlain_of_isAsciiDigit {c : Character} (h : Character.isAsciiDigit c.toNat = true) :
    IsPlain c := by
  have hne (x : Character) (hx : Character.isAsciiDigit x.toNat = false) : c ≠ x := by
    rintro rfl
    cases hx.symm.trans h
  exact ⟨hne _ (by decide), by simp [opensContainer, hne '[' (by decide), hne '{' (by decide)],
    by simp [closesContainer, hne ']' (by decide), hne '}' (by decide)]⟩

/-- Digits are crossed. -/
theorem IsDigits.crosses {t : Text} (h : IsDigits t) : Crosses .outside t .outside :=
  .plain fun c hc => isPlain_of_isAsciiDigit (h.2 c hc)

/-- A number is crossed. -/
theorem NumberParts.IsSpelled.crosses {parts : NumberParts} {t : Text} (h : parts.IsSpelled t) :
    Crosses .outside t .outside := by
  obtain @⟨negative, _, _, fraction, _, power, _, hwhole, hfraction, hpower⟩ := h
  have hsign : Crosses .outside (minusSign negative) .outside :=
    .plain (by cases negative <;> decide)
  have hfraction : Crosses .outside fraction .outside := by
    cases hfraction with
    | none => exact .nil _
    | digits hdigits => exact .append (t := ['.']) (.plain (by decide)) hdigits.crosses
  have hpower : Crosses .outside power .outside := by
    cases hpower with
    | none => exact .nil _
    | @digits e sign _ _ he hsign hdigits =>
      have hletter : Crosses .outside [e] .outside :=
        .plain (by rcases he with rfl | rfl <;> decide)
      have hsign : Crosses .outside sign .outside := .plain (by cases hsign <;> decide)
      exact hletter.append (hsign.append hdigits.crosses)
  exact hsign.append (hwhole.1.crosses.append (hfraction.append hpower))

/-- Every piece of a document is crossed. -/
theorem Spells.crosses {room : Nat} {t : Text} {piece : Piece} (h : Spells room t piece) :
    Crosses .outside t .outside := by
  have hcomma : IsPlain ',' := by decide
  induction h with
  | word hword =>
    have hwords : ∀ word ∈ words, ∀ c ∈ word.1, IsPlain c := by decide
    exact .plain (hwords _ hword)
  | number hnumber =>
    obtain ⟨parts, hspelled, -⟩ := hnumber
    exact hspelled.crosses
  | string hbody => exact crosses_quoted hbody
  | emptyArray hspace => exact .container rfl rfl hspace.crosses
  | array hspace _ ih => exact .container rfl rfl (hspace.crosses.append ih)
  | emptyObject hspace => exact .container rfl rfl hspace.crosses
  | object hspace _ ih => exact .container rfl rfl (hspace.crosses.append ih)
  | lastItem _ hspace ih => exact ih.append hspace.crosses
  | item _ hmark _ ih ihmore => exact ih.append ((hmark.crosses hcomma).append ihmore)
  | lastMember hname _ hspace ih => exact hname.crosses.append (ih.append hspace.crosses)
  | member hname _ hmark _ ih ihmore =>
    exact hname.crosses.append (ih.append ((hmark.crosses hcomma).append ihmore))

/-! ## How deep a part gets -/

/-- A part of the reader comes to a container that is too deep only where the text gets deeper than
there is room for. -/
def Reaches {α : Type} (room : Nat) (t : Text) (m : Except Error α) : Prop :=
  ∀ e d, m = .error e → e.fault = .tooDeep d →
    ∀ depth, depth + room < nestingFrom .outside depth t

namespace Reaches

variable {α β : Type} {room : Nat} {t u : Text} {c : Cursor} {m : Except Error α}

/-- What is crossed has no part in how deep a reader gets. -/
theorem append (hu : Crosses .outside u .outside) (h : Reaches room t m) :
    Reaches room (u ++ t) m :=
  fun e d he hd depth => Nat.lt_of_lt_of_le (h e d he hd depth) (hu depth t)

/-- A result is not too deep. -/
theorem ok (a : α) : Reaches room t (.ok a) :=
  fun _ _ he => nomatch he

/-- Nor is another error. -/
theorem error {e : Error} (h : ∀ d, e.fault ≠ .tooDeep d) :
    Reaches room t (.error e : Except Error α) :=
  fun _ d he hd => absurd (Except.error.inj he ▸ hd) (h d)

/-- A reader gets as deep as its two steps. -/
theorem bind {f : α → Except Error β} (hm : Reaches room t m)
    (hf : ∀ a, m = .ok a → Reaches room t (f a)) : Reaches room t (m >>= f) := by
  cases m with
  | ok a => exact hf a rfl
  | error e => exact fun e' d he hd => hm e' d (congrArg Except.error (Except.error.inj he)) hd

/-- What is made of the result does not matter. -/
theorem map {f : α → β} (hm : Reaches room t m) : Reaches room t (m.map f) := by
  cases m with
  | ok a => exact .ok (f a)
  | error e => exact fun e' d he hd => hm e' d (congrArg Except.error (Except.error.inj he)) hd

/-- The opening character of a container makes room for what is inside it. -/
theorem afterOpening {opening close : Character} {empty : α}
    {inside : Cursor → Except Error (α × Cursor)} (hopens : opensContainer opening = true)
    (hc : c.rest = opening :: t) (h : ∀ next : Cursor, Reaches room next.rest (inside next)) :
    Reaches (room + 1) c.rest (afterOpening close empty inside c) := by
  have hopening : opening ≠ '"' := by rintro rfl; cases hopens
  obtain ⟨space, hspace, hrest⟩ := exists_spaces (c.advance 1)
  rw [Cursor.rest_advance, hc, List.drop_one, List.tail_cons] at hrest
  unfold Json.afterOpening
  split
  · exact .ok _
  · intro e d he hd depth
    have hinside := (h _).append hspace.crosses e d he hd (depth + 1)
    have hbefore := nestingFrom_after_le .outside depth opening t
    rw [Place.after, if_neg hopening, Place.depthAfter, if_pos hopens] at hbefore
    rw [← hrest] at hinside
    rw [hc, Nat.add_comm room, ← Nat.add_assoc]
    exact Nat.lt_of_lt_of_le hinside hbefore

/-- Between values, a reader gets as deep as behind them. -/
theorem afterValue {close : Character} {last : α} {more : Cursor → Except Error (α × Cursor)}
    (h : ∀ next : Cursor, Reaches room next.rest (more next)) :
    Reaches room c.rest (afterValue close last more c) := by
  unfold Json.afterValue
  split
  · next hcomma =>
    obtain ⟨comma, hmark, hrest⟩ := exists_mark_of_head? hcomma
    rw [hrest]
    exact (h _).append (hmark.crosses (by decide))
  · split
    · exact .ok _
    · exact .error (by simp)

end Reaches

/-! ## Texts, numbers and words -/

section Leaves

variable (room : Nat) (t : Text)

/-- Between quotes, nothing is deep. -/
theorem reaches_stringBody (start : Nat) (high : Option Nat) (offset : Nat) (body : Text) :
    Reaches room t (stringBody start high offset body) := by
  fun_induction stringBody start high offset body with
  | case1 | case3 | case4 | case7 | case8 | case10 | case11 => exact .error (by simp)
  | case2 => exact .ok _
  | case5 high offset a b c d rest u hunit hrest hhigh ih => exact ih.map
  | case6 high offset a b c d rest u hunit hrest hhigh ih => exact ih.map
  | case9 high offset c rest _ _ e he ih => exact ih.map
  | case12 high offset c rest _ _ _ _ _ hcontrol ih => exact ih.map

/-- A key is not deep. -/
theorem reaches_key (c : Cursor) : Reaches room t (key c) := by
  by_cases hquote : c.rest.head? = some (.scalar '"')
  · obtain ⟨body, hbody⟩ := List.head?_eq_some_iff.mp hquote
    rw [key_of_quote hbody]
    refine (reaches_stringBody room t _ _ _ body).bind fun k _ => ?_
    dsimp only
    split
    · exact .ok _
    · exact .error (by simp)
  · rw [key_of_head? hquote]
    exact .error (by simp)

/-- What is wrong with a number is never its depth. -/
theorem NumberParts.fault_ne_tooDeep {p : NumberParts} {fault : Fault} (h : p.value = .error fault)
    (d : TooDeep) : fault ≠ .tooDeep d := by
  rintro rfl
  unfold value at h
  split at h
  · cases h
  · split at h
    · split at h <;> cases h
    · cases h

/-- Nothing without containers is deep. -/
theorem reaches_scalar (c : Cursor) : Reaches room t (scalar c) := by
  unfold scalar
  split
  · exact .ok _
  · rw [number_eq]
    split
    · exact .ok _
    · next fault hfault => exact .error (NumberParts.fault_ne_tooDeep hfault)

end Leaves

/-! ## Values inside each other -/

/-- The parts that stand inside each other, with some fuel. -/
structure ReachesWith (fuel : Nat) : Prop where
  /-- A value. -/
  value (room : Nat) (c : Cursor) : Reaches room c.rest (value fuel room c)
  /-- The items of an array. -/
  items (room : Nat) (c : Cursor) : Reaches room c.rest (items fuel room c)
  /-- The members of an object. -/
  entries (room : Nat) (before : Entries) (c : Cursor) :
    Reaches room c.rest (entries fuel room before c)

namespace ReachesWith

variable {fuel : Nat}

/-- A value that is too deep begins a container itself, with no room for any. -/
theorem value_succ (ih : ReachesWith fuel) (room : Nat) (c : Cursor) :
    Reaches room c.rest (Json.value (fuel + 1) room c) := by
  -- A container that begins where no room is left is one too deep.
  have hdeeper {x : Character} {t : Text} (hc : c.rest = x :: t) (hx : x ≠ '"')
      (hopens : opensContainer x = true) (depth : Nat) :
      depth + 0 < nestingFrom .outside depth c.rest := by
    have hbefore := nestingFrom_after_le .outside depth x t
    rw [Place.after, if_neg hx, Place.depthAfter, if_pos hopens] at hbefore
    rw [hc]
    exact Nat.lt_of_lt_of_le (le_nestingFrom .outside (depth + 1) t) hbefore
  rcases c.rest_cases with ⟨t, ht⟩ | ⟨t, ht⟩ | ⟨t, ht⟩ | ⟨hquote, hbracket, hbrace⟩
  · rw [value_of_quote ht]
    exact (reaches_stringBody room c.rest _ _ _ t).map
  · rw [value_of_bracket ht]
    cases room with
    | zero => exact fun _ _ _ _ => hdeeper ht (by decide) rfl
    | succ room => exact .afterOpening rfl ht fun next => (ih.items room next).map
  · rw [value_of_brace ht]
    cases room with
    | zero => exact fun _ _ _ _ => hdeeper ht (by decide) rfl
    | succ room => exact .afterOpening rfl ht fun next => (ih.entries room [] next).map
  · rw [value_of_head? hquote hbracket hbrace]
    exact reaches_scalar room c.rest c

/-- Items get as deep as their values. -/
theorem items_succ (ih : ReachesWith fuel) (room : Nat) (c : Cursor) :
    Reaches room c.rest (Json.items (fuel + 1) room c) := by
  rw [Json.items_succ]
  refine (ih.value room c).bind fun (v, next) hvalue => ?_
  obtain ⟨t, ht, hspells⟩ := (soundWith fuel).value hvalue
  rw [ht]
  exact (Reaches.afterValue fun more => (ih.items room more).map).append hspells.crosses

/-- So do entries. -/
theorem entries_succ (ih : ReachesWith fuel) (room : Nat) (before : Entries) (c : Cursor) :
    Reaches room c.rest (Json.entries (fuel + 1) room before c) := by
  rw [Json.entries_succ]
  refine (reaches_key room c.rest c).bind fun (k, afterKey) hkey => ?_
  obtain ⟨name, hname, hrest⟩ := exists_name_of_key hkey
  rw [hrest]
  refine Reaches.append hname.crosses ((ih.value room afterKey).bind fun (v, next) hvalue => ?_)
  obtain ⟨t, ht, hspells⟩ := (soundWith fuel).value hvalue
  rw [ht]
  exact (Reaches.afterValue (ih.entries room _)).append hspells.crosses

end ReachesWith

/-- A reader that finds something too deep has gone as deep. -/
theorem reachesWith (fuel : Nat) : ReachesWith fuel := by
  induction fuel with
  | zero =>
    exact ⟨fun _ _ => .error (by simp), fun _ _ => .error (by simp), fun _ _ _ => .error (by simp)⟩
  | succ fuel ih => exact ⟨ih.value_succ, ih.items_succ, ih.entries_succ⟩

/-- A document is refused for its depth only if its containers stand deeper inside each other than
they may. -/
theorem nesting_of_read {limit : Nat} {t : Text} {e : Error} {d : TooDeep}
    (h : read limit t = .error e) (hd : e.fault = .tooDeep d) : limit < nesting t := by
  by_cases hmark : t.head? = some (.scalar '\uFEFF')
  · rw [read_of_mark hmark] at h
    cases h
    cases hd
  rw [read_eq hmark] at h
  obtain ⟨space, hspace, ht⟩ := exists_spaces ⟨0, t⟩
  -- Wherever the reader gives up for the depth, the text before it has opened as many containers.
  have hreaches := ((reachesWith (2 * t.length + 2)).value limit (.ofDocument t)).append
    hspace.crosses
  cases hvalue : value (2 * t.length + 2) limit (.ofDocument t) with
  | error e' =>
    rw [hvalue] at h
    cases h
    have hdeep := hreaches e d hvalue hd 0
    rw [Nat.zero_add] at hdeep
    exact hdeep.trans_eq (congrArg nesting ht.symm)
  | ok r =>
    rw [hvalue, finish] at h
    split at h
    · cases h
    · cases h
      cases hd

/-- So more containers begin in such a document than may stand inside each other. -/
theorem openings_of_read {limit : Nat} {t : Text} {e : Error} {d : TooDeep}
    (h : read limit t = .error e) (hd : e.fault = .tooDeep d) : limit < openings t :=
  Nat.lt_of_lt_of_le (nesting_of_read h hd) (nesting_le_openings t)

end SourceEditor.Json

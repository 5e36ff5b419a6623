import SourceEditor.Log.Markup
import Mathlib.Data.List.Infix

/-!
# Escaped lines

A line of the compiler is shown in the log as it is, whatever it holds. The five characters that
could be read as markup are written as entities, and since the sign that begins an entity is one of
them, the entities that stand in the result are just those that the escape has put there. Replacing
them gives the line back, also one that looks as if it had been escaped already.

* `Markup.unescaped`: a text with the entities of the escape replaced, from left to right.
* `Markup.IsInert`: a text in which no tag begins or ends, and no entity but one of the five begins.
* `Markup.escaped_eq_replacedInTurn`: the entities may be put in one kind after the other.
* `Markup.isInert_escaped`, `Markup.unescaped_escaped`: both of an escaped text.
* `Markup.logLine_inert`: what a line of the log is made of.
-/

namespace SourceEditor

/-- One text occurs in another one if it stands somewhere in it. -/
theorem Text.occursIn_iff {needle hay : Text} : occursIn needle hay = true ↔ needle <:+: hay := by
  rw [occursIn]
  induction hay with
  | nil =>
    rw [indexOf?, List.infix_nil]
    cases needle <;> simp
  | cons c hay ih =>
    rw [indexOf?, List.infix_cons_iff, ← List.isPrefixOf_iff_prefix, ← ih]
    split
    · next h => simp [h]
    · next h => simp [h]

namespace Markup

/-- The entities of the escape, each with the character that it shows. -/
def entities : List (Text × Character) :=
  [("&amp;", '&'), ("&lt;", '<'), ("&gt;", '>'), ("&quot;", '"'), ("&#x27;", '\'')]

/-- A text with the entities replaced by what they show. The first `skip` characters belong to an
entity that has been replaced already. -/
def unescapedFrom (skip : Nat) : Text → Text
  | [] => []
  | c :: rest =>
    match skip with
    | skip + 1 => unescapedFrom skip rest
    | 0 =>
      match entities.find? fun e => e.1.isPrefixOf (c :: rest) with
      | some (entity, shown) => shown :: unescapedFrom (entity.length - 1) rest
      | none => c :: unescapedFrom 0 rest

/-- A text with the entities replaced by what they show, from left to right. -/
def unescaped (t : Text) : Text :=
  unescapedFrom 0 t

/-- What an entity shows is not looked at again. -/
example : unescaped "&amp;lt; &lt;&nbsp;" = ("&lt; <&nbsp;" : Text) := by decide

/-- A text shows itself and no markup: it holds no bracket of a tag and no quote, and every
ampersand begins an entity of the escape. -/
structure IsInert (t : Text) : Prop where
  notMem : ∀ c ∈ t, c ∉ Text.ofChars ['<', '>', '"', '\'']
  entity : ∀ i, t[i]? = some ('&' : Character) → ∃ e ∈ entities, e.1 <+: t.drop i

variable {t u : Text} {c : Character}

/-! ## Pieces -/

theorem isInert_nil : IsInert [] where
  notMem := by simp
  entity := by simp

/-- Inert texts may be put together, since an entity never ends before it is complete. -/
theorem IsInert.append (ht : IsInert t) (hu : IsInert u) : IsInert (t ++ u) where
  notMem c hc := by
    rcases List.mem_append.mp hc with hc | hc
    · exact ht.notMem c hc
    · exact hu.notMem c hc
  entity i hi := by
    by_cases hlt : i < t.length
    · rw [List.getElem?_append_left hlt] at hi
      obtain ⟨e, he, hprefix⟩ := ht.entity i hi
      refine ⟨e, he, ?_⟩
      rw [List.drop_append_of_le_length (Nat.le_of_lt hlt)]
      exact hprefix.trans (List.prefix_append _ _)
    · obtain ⟨k, rfl⟩ := Nat.exists_eq_add_of_le (Nat.le_of_not_lt hlt)
      rw [List.getElem?_append_right (Nat.le_add_right _ _), Nat.add_sub_cancel_left] at hi
      rw [List.drop_append, List.drop_eq_nil_of_le (Nat.le_add_right _ _), List.nil_append,
        Nat.add_sub_cancel_left]
      exact hu.entity k hi

theorem isInert_entity {e : Text × Character} (he : e ∈ entities) : IsInert e.1 where
  notMem := by
    revert e
    decide
  entity i hi := by
    have hall : ∀ e ∈ entities, ∀ i < e.1.length, e.1[i]? = some ('&' : Character) →
        ∃ e' ∈ entities, e'.1 <+: e.1.drop i := by decide
    exact hall e he i (List.getElem?_eq_some_iff.mp hi).1 hi

/-- A character that no entity is needed for. -/
theorem isInert_singleton (hc : ∀ e ∈ entities, e.2 ≠ c) : IsInert [c] where
  notMem d hd hmem := by
    obtain rfl := List.mem_singleton.mp hd
    have hshown : ∀ d ∈ Text.ofChars ['<', '>', '"', '\''], ∃ e ∈ entities, e.2 = d := by decide
    obtain ⟨e, he, heq⟩ := hshown d hmem
    exact hc e he heq
  entity i hi := by
    rw [List.getElem?_singleton, Option.ite_none_right_eq_some, Option.some.injEq] at hi
    exact absurd hi.2.symm (hc ("&amp;", '&') (by decide))

/-- A character is escaped by the entity that shows it, or it is no character that an entity shows,
and stays as it is. -/
theorem escapedChar_cases (c : Character) :
    (∃ e ∈ entities, e.2 = c ∧ escapedChar c = e.1) ∨
      (∀ e ∈ entities, e.2 ≠ c) ∧ escapedChar c = [c] := by
  by_cases h : ∃ e ∈ entities, e.2 = c
  · refine .inl ?_
    obtain ⟨e, he, rfl⟩ := h
    have hall : ∀ e ∈ entities, escapedChar e.2 = e.1 := by decide
    exact ⟨e, he, rfl, hall e he⟩
  · refine .inr ⟨fun e he heq => h ⟨e, he, heq⟩, ?_⟩
    simp only [entities, List.mem_cons, List.not_mem_nil, or_false, exists_eq_or_imp,
      exists_eq_left, not_or] at h
    simp [escapedChar, Ne.symm h.1, Ne.symm h.2.1, Ne.symm h.2.2.1, Ne.symm h.2.2.2.1,
      Ne.symm h.2.2.2.2]

/-! ## One kind after the other -/

/-- A text with each character that an entity shows replaced by that entity, the ampersands first:
those that the other entities bring along come too late to be replaced. -/
def replacedInTurn (t : Text) : Text :=
  entities.foldl (fun t e => Text.replaceChar e.2 e.1 t) t

/-- However many kinds of characters are replaced, one part of a text has no effect on another. -/
theorem foldl_replaceChar_append (kinds : List (Text × Character)) (t u : Text) :
    kinds.foldl (fun t e => Text.replaceChar e.2 e.1 t) (t ++ u) =
      kinds.foldl (fun t e => Text.replaceChar e.2 e.1 t) t ++
        kinds.foldl (fun t e => Text.replaceChar e.2 e.1 t) u := by
  induction kinds generalizing t u with
  | nil => rfl
  | cons e kinds ih =>
    simp only [List.foldl_cons]
    rw [Text.replaceChar, List.flatMap_append]
    exact ih _ _

/-- A single character is replaced by its entity, and that entity stays. -/
theorem replacedInTurn_singleton (c : Character) : replacedInTurn [c] = escapedChar c := by
  rcases escapedChar_cases c with ⟨e, he, rfl, heq⟩ | ⟨hc, heq⟩
  · have hall : ∀ e ∈ entities, replacedInTurn [e.2] = e.1 := by decide
    rw [heq, hall e he]
  · have hstays : ∀ kinds ⊆ entities,
        kinds.foldl (fun t e => Text.replaceChar e.2 e.1 t) [c] = [c] := by
      intro kinds hkinds
      induction kinds with
      | nil => rfl
      | cons e kinds ih =>
        obtain ⟨he, hkinds⟩ := List.cons_subset.mp hkinds
        rw [List.foldl_cons, Text.replaceChar, List.flatMap_singleton, if_neg (hc e he).symm]
        exact ih hkinds
    rw [heq]
    exact hstays entities (List.Subset.refl _)

/-- Escaping character by character is the same as replacing one kind after the other. -/
theorem escaped_eq_replacedInTurn (t : Text) : escaped t = replacedInTurn t := by
  induction t with
  | nil => rfl
  | cons c t ih =>
    calc escaped (c :: t) = escapedChar c ++ escaped t := List.flatMap_cons
      _ = replacedInTurn [c] ++ replacedInTurn t := by rw [replacedInTurn_singleton, ih]
      _ = replacedInTurn (c :: t) := (foldl_replaceChar_append entities [c] t).symm

/-! ## Replacing entities -/

/-- An entity is replaced as a whole, whatever stands behind it. -/
theorem unescaped_entity_append {e : Text × Character} (he : e ∈ entities) (t : Text) :
    unescaped (e.1 ++ t) = e.2 :: unescaped t := by
  simp only [entities, List.mem_cons, List.not_mem_nil, or_false] at he
  rcases he with rfl | rfl | rfl | rfl | rfl <;> rfl

/-- No entity begins with a character that none of them shows. -/
theorem unescaped_cons (hc : ∀ e ∈ entities, e.2 ≠ c) (t : Text) :
    unescaped (c :: t) = c :: unescaped t := by
  have hne : c ≠ '&' := (hc ("&amp;", '&') (by decide)).symm
  have hhead : ∀ e ∈ entities, e.1.head? = some ('&' : Character) := by decide
  have hnone : (entities.find? fun e => e.1.isPrefixOf (c :: t)) = none := by
    rw [List.find?_eq_none]
    intro e he hprefix
    obtain ⟨rest, hrest⟩ := List.isPrefixOf_iff_prefix.mp hprefix
    have hbegins := hhead e he
    cases hentity : e.1 with
    | nil => simp [hentity] at hbegins
    | cons d entity =>
      rw [hentity, List.cons_append] at hrest
      rw [hentity, List.head?_cons, Option.some.injEq] at hbegins
      exact hne ((List.cons.inj hrest).1.symm.trans hbegins)
  rw [unescaped, unescapedFrom, hnone]
  rfl

/-! ## Escaped texts -/

theorem isInert_escaped (t : Text) : IsInert (escaped t) := by
  induction t with
  | nil => exact isInert_nil
  | cons c t ih =>
    rw [escaped, List.flatMap_cons]
    refine IsInert.append ?_ ih
    rcases escapedChar_cases c with ⟨e, he, -, heq⟩ | ⟨hc, heq⟩
    · rw [heq]
      exact isInert_entity he
    · rw [heq]
      exact isInert_singleton hc

/-- The escape can be undone. -/
theorem unescaped_escaped (t : Text) : unescaped (escaped t) = t := by
  induction t with
  | nil => rfl
  | cons c t ih =>
    rw [escaped, List.flatMap_cons]
    rcases escapedChar_cases c with ⟨e, he, rfl, heq⟩ | ⟨hc, heq⟩
    · rw [heq, unescaped_entity_append he]
      exact congrArg (e.2 :: ·) ih
    · rw [heq, List.singleton_append, unescaped_cons hc]
      exact congrArg (c :: ·) ih

/-! ## Lines of the log -/

/-- An opening tag of a line: no bracket stands between its own two, unless a colour brings one. -/
def IsOpeningTag (colour tag : Text) : Prop :=
  ∃ attributes, tag = ("<pre " : Text) ++ attributes ++ ">" ∧
    ∀ c ∈ attributes, c ∈ Text.ofChars ['<', '>'] → c ∈ colour

/-- The tag before a line that is shown as an error, and before any other one. -/
def tagFor (colour : Text) (isError : Bool) : Text :=
  if isError then ("<pre class='logline' style='color: " : Text) ++ colour ++ ";'>"
  else "<pre class='logline'>"

theorem openingTag_eq (line colour : Text) :
    openingTag line colour = tagFor colour (decide (("error" : Text) <:+: Text.lowered line)) := by
  have hiff : isErrorLine line = true ↔ ("error" : Text) <:+: Text.lowered line := Text.occursIn_iff
  simp only [openingTag, tagFor, hiff, decide_eq_true_eq]

theorem isOpeningTag_tagFor (colour : Text) (isError : Bool) :
    IsOpeningTag colour (tagFor colour isError) := by
  cases isError with
  | false =>
    refine ⟨"class='logline'", rfl, ?_⟩
    have hnone : ∀ c ∈ (("class='logline'" : String) : Text), c ∉ Text.ofChars ['<', '>'] := by
      decide +kernel
    intro c hc hbracket
    exact absurd hbracket (hnone c hc)
  | true =>
    refine ⟨("class='logline' style='color: " : Text) ++ colour ++ ";'", ?_, ?_⟩
    · have hfront : ("<pre class='logline' style='color: " : Text) =
          ("<pre " : Text) ++ "class='logline' style='color: " := by decide +kernel
      have hend : (";'>" : Text) = (";'" : Text) ++ ">" := by decide
      simp only [tagFor, if_true, hfront, hend, List.append_assoc]
    · -- The attributes themselves hold no bracket.
      have hbefore : ∀ c ∈ (("class='logline' style='color: " : String) : Text),
          c ∉ Text.ofChars ['<', '>'] := by decide +kernel
      have hbehind : ∀ c ∈ ((";'" : String) : Text), c ∉ Text.ofChars ['<', '>'] := by decide
      intro c hc hbracket
      rcases List.mem_append.mp hc with hc | hc
      · exact (List.mem_append.mp hc).resolve_left fun h => hbefore c h hbracket
      · exact absurd hbracket (hbehind c hc)

/-- Whatever a line holds, it brings no markup into the log. The piece of markup that shows it is an
opening tag, which depends on nothing of the line but whether it speaks of an error in upper or
lower case, then a text that shows itself, and the closing tag. Replacing the entities in that text
gives back the line. -/
theorem logLine_inert (colour : Text) :
    ∃ tag : Bool → Text, (∀ isError, IsOpeningTag colour (tag isError)) ∧
      ∀ line, ∃ body, IsInert body ∧ unescaped body = line ∧
        logLine line colour =
          tag (decide (("error" : Text) <:+: Text.lowered line)) ++ body ++ "</pre>" := by
  refine ⟨tagFor colour, isOpeningTag_tagFor colour, fun line => ?_⟩
  refine ⟨escaped line, isInert_escaped line, unescaped_escaped line, ?_⟩
  rw [logLine, openingTag_eq]

/-! ## The style sheet -/

/-- In a text that may stand between quotes, every quote stands behind a backslash. -/
def IsQuotable (t : Text) : Prop :=
  ∀ i, t[i]? = some ('\'' : Character) → ∃ k, i = k + 1 ∧ t[k]? = some ('\\' : Character)

/-- Such texts may be put together. -/
theorem IsQuotable.append (ht : IsQuotable t) (hu : IsQuotable u) : IsQuotable (t ++ u) := by
  intro i hi
  by_cases hlt : i < t.length
  · rw [List.getElem?_append_left hlt] at hi
    obtain ⟨k, rfl, hk⟩ := ht i hi
    exact ⟨k, rfl, by rw [List.getElem?_append_left (by omega), hk]⟩
  · obtain ⟨n, rfl⟩ := Nat.exists_eq_add_of_le (Nat.le_of_not_lt hlt)
    rw [List.getElem?_append_right (Nat.le_add_right _ _), Nat.add_sub_cancel_left] at hi
    obtain ⟨k, rfl, hk⟩ := hu n hi
    refine ⟨t.length + k, rfl, ?_⟩
    rw [List.getElem?_append_right (Nat.le_add_right _ _), Nat.add_sub_cancel_left, hk]

/-- A quote behind a backslash. -/
theorem isQuotable_quote : IsQuotable ("\\'" : Text) := by
  intro i hi
  have hquote : ∀ i < 2, ("\\'" : Text)[i]? = some ('\'' : Character) → i = 1 := by decide
  obtain rfl := hquote i (List.getElem?_eq_some_iff.mp hi).1 hi
  exact ⟨0, rfl, rfl⟩

/-- The name of a font family brings no end of its quotes into the style sheet, whatever it is. -/
theorem logStyle_quotable (points : Int) : ∃ front back : Text, ∀ family, ∃ body, IsQuotable body ∧
    logStyle family points = front ++ ("'" : Text) ++ body ++ ("'" : Text) ++ back := by
  refine ⟨"pre \x7b margin: 0; white-space: pre-wrap; \x7dpre, code, tt \x7b font-family: ",
    ("; font-size: " : Text) ++ Numeral.ofInt points ++ "pt; \x7d", fun family => ?_⟩
  refine ⟨Text.replaceChar '\'' ("\\'" : Text) family, ?_, ?_⟩
  · -- Quotable pieces are quotable together, and each character gives such a piece.
    induction family with
    | nil => exact fun i hi => absurd hi (by simp [Text.replaceChar])
    | cons c family ih =>
      rw [Text.replaceChar, List.flatMap_cons]
      refine IsQuotable.append ?_ ih
      split
      · exact isQuotable_quote
      · next hc =>
        intro i hi
        rw [List.getElem?_singleton, Option.ite_none_right_eq_some, Option.some.injEq] at hi
        exact absurd hi.2 hc
  · -- The quotes are what the texts around the family end and begin with.
    have hfront :
        ("pre \x7b margin: 0; white-space: pre-wrap; \x7dpre, code, tt \x7b font-family: '"
          : Text) =
        ("pre \x7b margin: 0; white-space: pre-wrap; \x7dpre, code, tt \x7b font-family: "
          : Text) ++ ("'" : Text) := by decide +kernel
    have hback : ("'; font-size: " : Text) = ("'" : Text) ++ ("; font-size: " : Text) := by decide
    rw [logStyle, hfront, hback]
    simp only [List.append_assoc]

/-- A line that looks escaped, with a tag and the word for errors in it. -/
example : logLine "<b> &lt; ERROR" "#f00" =
    ("<pre class='logline' style='color: #f00;'>&lt;b&gt; &amp;lt; ERROR</pre>" : Text) := by
  decide +kernel

end Markup

end SourceEditor

import SourceEditor.Files.Path

/-!
# Paths and their texts

A path in normal form is the path that its own text names, so that it can be written down and read
again. Every path that comes from a text is in normal form, also if the home directory is put into
it.

* `Path.IsNormal`: each part counts as one and holds no slash.
* `Path.ofText_text`: a path in normal form, written and read.
-/

namespace SourceEditor

namespace Text

variable (separator : Character)

/-- The pieces of a text are what the library splits it into. -/
theorem pieces_eq_splitOn (t : Text) : pieces separator t = t.splitOn separator := by
  induction t with
  | nil => rfl
  | cons c rest ih =>
    rw [pieces, List.splitOn, List.splitOnP_cons_eq_if_modifyHead, ← List.splitOn, ih]
    by_cases hc : c = separator
    · simp [hc]
    · simp only [hc, if_false, beq_eq_false_iff_ne.mpr hc, Bool.false_eq_true]
      cases hpieces : rest.splitOn separator with
      | nil => exact absurd hpieces (List.splitOnP_ne_nil _ _)
      | cons => rfl

/-- Joined texts are what the library puts the separator between. -/
theorem joined_eq_intercalate (ts : List Text) :
    joined separator ts = [separator].intercalate ts := by
  induction ts with
  | nil => rfl
  | cons t rest ih =>
    cases rest with
    | nil => simp [joined]
    | cons u rest =>
      rw [joined, ih, List.intercalate_cons_cons, List.append_assoc]
      · rfl
      · simp

/-- No piece holds the separator. -/
theorem notMem_of_mem_pieces {t : Text} : ∀ piece ∈ pieces separator t, separator ∉ piece := by
  induction t with
  | nil => simp [pieces]
  | cons c rest ih =>
    rw [pieces]
    split
    · simpa using ih
    · next hc =>
      -- The character comes to the first piece of the rest.
      split
      · simpa using Ne.symm hc
      · next first more hpieces =>
        rw [hpieces] at ih
        obtain ⟨hfirst, hmore⟩ := List.forall_mem_cons.mp ih
        refine List.forall_mem_cons.mpr ⟨fun hmem => ?_, hmore⟩
        rcases List.mem_cons.mp hmem with rfl | hmem
        · exact hc rfl
        · exact hfirst hmem

end Text

namespace Path

/-- A path is in normal form: each of its parts counts as one and holds no slash. -/
def IsNormal (p : Path) : Prop :=
  ∀ part ∈ p.parts, isPart part = true ∧ Character.scalar '/' ∉ part

/-- The path of a text is in normal form. -/
theorem isNormal_ofText (t : Text) : (ofText t).IsNormal := by
  intro part hpart
  obtain ⟨hpiece, hcounts⟩ := List.mem_filter.mp hpart
  exact ⟨hcounts, Text.notMem_of_mem_pieces _ part hpiece⟩

/-- A home directory is the one that some text told from the root names. -/
theorem exists_ofText_of_homeOf {accounts : Accounts} {account : Text} {h : Path}
    (hhome : homeOf accounts account = .ok h) :
    ∃ t : Text, t.head? = some (.scalar '/') ∧ h = ofText t := by
  obtain ⟨huser, hhomes⟩ := List.forall_mem_cons.mp (List.all_eq_true.mp accounts.absolute)
  unfold homeOf at hhome
  split at hhome
  · exact ⟨_, beq_iff_eq.mp huser, (Except.ok.inj hhome).symm⟩
  · split at hhome
    · cases hhome
    · split at hhome
      · cases hhome
      · split at hhome
        · next name found hfound =>
          have hmem : found ∈ accounts.homes.map Prod.snd :=
            List.mem_map.mpr ⟨(name, found), List.mem_of_find?_eq_some hfound, rfl⟩
          exact ⟨found, beq_iff_eq.mp (hhomes found hmem), (Except.ok.inj hhome).symm⟩
        · cases hhome

/-- Home directories are in normal form. -/
theorem isNormal_homeOf {accounts : Accounts} {account : Text} {h : Path}
    (hhome : homeOf accounts account = .ok h) : h.IsNormal := by
  obtain ⟨t, -, rfl⟩ := exists_ofText_of_homeOf hhome
  exact isNormal_ofText t

/-- A path in normal form stays so when the home directory is put into it. -/
theorem IsNormal.expandHome {accounts : Accounts} {p q : Path} (h : p.IsNormal)
    (hq : p.expandHome accounts = .ok q) : q.IsNormal := by
  unfold Path.expandHome at hq
  split at hq
  · next account rest _ hparts =>
    -- The home directory comes in place of the first part.
    cases hhome : homeOf accounts account with
    | error e => simp [hhome, Except.map] at hq
    | ok found =>
      rw [hhome] at hq
      obtain rfl := Except.ok.inj hq
      intro part hpart
      rcases List.mem_append.mp hpart with hpart | hpart
      · exact isNormal_homeOf hhome part hpart
      · exact h part (hparts ▸ List.mem_cons_of_mem _ hpart)
  · obtain rfl := Except.ok.inj hq
    exact h

/-- The parts of a text do not depend on slashes at its beginning. -/
theorem filter_pieces_root (root : Root) (t : Text) :
    (Text.pieces '/' (root.text ++ t)).filter isPart = (Text.pieces '/' t).filter isPart := by
  cases root <;> simp [Root.text, Text.pieces, isPart, Text.ofChars]

/-- A root is found again before a path that does not begin with a slash. -/
theorem rootOf_root_append (root : Root) {t : Text} (ht : ∀ c ∈ t.head?, c ≠ .scalar '/') :
    rootOf (root.text ++ t) = root := by
  have hnone : t.takeWhile (fun c : Character => c == '/') = [] := by
    cases t with
    | nil => rfl
    | cons c rest => exact List.takeWhile_cons_of_neg (by simpa using ht c)
  cases root <;> simp [rootOf, Root.text, Text.ofChars, hnone]

/-- Every path is written as something, the working directory as a dot. -/
theorem isEmpty_text (p : Path) : p.text.isEmpty = false := by
  unfold text
  dsimp only
  split
  · rfl
  · next h => exact Bool.eq_false_iff.mpr h

/-- A path in normal form is the one that its text names. -/
theorem ofText_text {p : Path} (h : p.IsNormal) : ofText p.text = p := by
  obtain ⟨root, parts⟩ := p
  cases parts with
  | nil => cases root <;> decide
  | cons part rest =>
    have hslash : ∀ part' ∈ part :: rest, Character.scalar '/' ∉ part' := fun _ h' => (h _ h').2
    have hparts : Text.pieces '/' (Text.joined '/' (part :: rest)) = part :: rest := by
      rw [Text.pieces_eq_splitOn, Text.joined_eq_intercalate]
      exact List.splitOn_intercalate _ hslash (List.cons_ne_nil _ _)
    -- The first part has a first character, and that is no slash.
    obtain ⟨c, more, hpart⟩ : ∃ c more, part = c :: more := by
      cases part with
      | nil => exact absurd (h [] (by simp)).1 (by decide)
      | cons c more => exact ⟨c, more, rfl⟩
    have hhead : (Text.joined '/' (part :: rest)).head? = some c := by
      cases rest <;> simp [Text.joined, hpart]
    have hne : (root.text ++ Text.joined '/' (part :: rest)).isEmpty = false := by
      cases hjoined : Text.joined '/' (part :: rest) <;> simp [hjoined] at hhead ⊢
    have hc : c ≠ .scalar '/' := by
      rintro rfl
      exact hslash part (by simp) (by simp [hpart])
    have htext : text ⟨root, part :: rest⟩ = root.text ++ Text.joined '/' (part :: rest) := by
      unfold text
      dsimp only
      rw [hne, if_neg Bool.false_ne_true]
    rw [htext]
    unfold ofText
    rw [filter_pieces_root, hparts, rootOf_root_append]
    · rw [List.filter_eq_self.mpr fun part' h' => (h part' h').1]
    · simpa [hhead] using hc

end Path

end SourceEditor

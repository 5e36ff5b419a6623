import SourceEditor.Files.TextFile
import SourceEditor.Proofs.Files.PathText

/-!
# Files that were written

What was written to a file is read from it again. The way to the file is the same as before, since a
file is only put where there is no directory that the way could lead through.

* `FileSystem.plant_spec`: what is planted is there, below directories, and hides nothing.
* `FileSystem.write_eq_ok_iff`, `FileSystem.read_eq_ok_iff`: when a file can be written and read.
* `FileSystem.follow_put`: what a new file changes of the ways that led somewhere.
* `FileSystem.read_write`: what was written is read.
* `Path.IsNamedBy`: the path that a user means with a text.
-/

namespace SourceEditor

namespace FileSystem

variable {fs fs' : FileSystem} {place other : List FileName} {node : Node} {p : Path}
  {content : Bytes}

/-! ## Places -/

/-- What is put at a place is there. -/
theorem node?_put_self (hplace : place ≠ []) : (fs.put place node).node? place = some node := by
  rw [node?, List.isEmpty_eq_false_iff.mpr hplace, if_neg Bool.false_ne_true, put]
  simp

/-- Elsewhere, everything is as it was. -/
theorem node?_put_of_ne (hother : other ≠ place) :
    (fs.put place node).node? other = fs.node? other := by
  -- Leaving out the entries of one place leaves out none of another.
  have hfilter :
      (fun entry : List FileName × Node => decide (entry.1 != place ∧ entry.1 == other)) =
        fun entry => entry.1 == other := by
    ext entry
    by_cases hentry : entry.1 = other
    · simp [hentry, hother]
    · simp [hentry]
  have hfind : (fs.put place node).entries.find? (fun entry => entry.1 == other) =
      fs.entries.find? fun entry => entry.1 == other := by
    rw [put, List.find?_cons_of_neg (by simpa using hother.symm), List.find?_filter, hfilter]
  rw [node?, node?, hfind]

/-- Directories that are put where nothing is yet. -/
def withDirectories (fs : FileSystem) (places : List (List FileName)) : FileSystem :=
  places.foldl (fun fs p => if (fs.node? p).isSome then fs else fs.put p .directory) fs

/-- They take the place of nothing. -/
theorem node?_withDirectories {places : List (List FileName)} (h : (fs.node? other).isSome) :
    (fs.withDirectories places).node? other = fs.node? other := by
  induction places generalizing fs with
  | nil => rfl
  | cons p places ih =>
    by_cases hp : (fs.node? p).isSome
    · rw [withDirectories, List.foldl_cons, if_pos hp]
      exact ih h
    · have hne : other ≠ p := by
        rintro rfl
        exact hp h
      rw [withDirectories, List.foldl_cons, if_neg hp, ← withDirectories, ih, node?_put_of_ne hne]
      rwa [node?_put_of_ne hne]

/-- In the end there is something at each of the places. -/
theorem isSome_node?_withDirectories {places : List (List FileName)} (h : other ∈ places) :
    ((fs.withDirectories places).node? other).isSome := by
  induction places generalizing fs with
  | nil => cases h
  | cons p places ih =>
    rw [withDirectories, List.foldl_cons, ← withDirectories]
    rcases List.mem_cons.mp h with rfl | hmem
    · -- What is put there first stays there.
      have hthere : ((if (fs.node? other).isSome then fs else fs.put other .directory).node?
          other).isSome := by
        split
        · next hsome => exact hsome
        · by_cases hroot : other = []
          · subst hroot
            rfl
          · rw [node?_put_self hroot]
            rfl
      rwa [node?_withDirectories hthere]
    · exact ih hmem

/-- What is planted at a place is there, and there is something at every place above it. What there
was elsewhere has stayed. -/
theorem plant_spec (fs : FileSystem) (node : Node) (hplace : place ≠ []) :
    (fs.plant place node).node? place = some node ∧
      (∀ above, above <+: place → ((fs.plant place node).node? above).isSome) ∧
      ∀ other, other ≠ place → (fs.node? other).isSome →
        (fs.plant place node).node? other = fs.node? other := by
  have hplant : fs.plant place node =
      (fs.withDirectories ((List.range place.length).map place.take)).put place node := rfl
  rw [hplant]
  refine ⟨node?_put_self hplace, fun above habove => ?_, fun other hother hsome => ?_⟩
  · by_cases hself : above = place
    · rw [hself, node?_put_self hplace]
      rfl
    · rw [node?_put_of_ne hself]
      apply isSome_node?_withDirectories
      -- A proper prefix is what the place begins with, up to some name.
      refine List.mem_map.mpr ⟨above.length, List.mem_range.mpr ?_, ?_⟩
      · exact Nat.lt_of_le_of_ne habove.length_le fun hlength => hself (habove.eq_of_length hlength)
      · exact (List.prefix_iff_eq_take.mp habove).symm
  · rw [node?_put_of_ne hother, node?_withDirectories hsome]

/-- Names that led somewhere lead there also after something was put where no directory was. -/
theorem follow_put (hplace : fs.node? place ≠ some .directory) {start found : List FileName}
    {names : List FileName} (h : fs.follow start names = .ok found) :
    (fs.put place node).follow start names = .ok found := by
  -- The induction is on the names; the place from which they are followed moves along.
  induction names generalizing start with
  | nil => exact h
  | cons name rest ih =>
    rw [follow] at h
    split at h
    · cases h
    · cases h
    · cases h
    · next hdirectory =>
      -- The way leads through a directory here, and so not through the place.
      have hother : start ≠ place := by
        rintro rfl
        exact hplace hdirectory
      rw [follow, node?_put_of_ne hother, hdirectory]
      dsimp only
      split at h
      · next hup =>
        rw [if_pos hup]
        exact ih h
      · next hup =>
        rw [if_neg hup]
        split at h
        · cases h
        · next hlength =>
          rw [if_neg hlength]
          exact ih h

/-- A path has its place whatever else is put anywhere but over a directory. -/
theorem place_put (hplace : fs.node? place ≠ some .directory) {found : List FileName}
    (h : fs.place p = .ok found) : (fs.put place node).place p = .ok found := by
  unfold FileSystem.place at h ⊢
  split at h
  · cases h
  · dsimp only at h ⊢
    split at h
    · cases h
    · next hzero =>
      split at h
      · cases h
      · next hlength =>
        rw [if_neg hzero, if_neg hlength]
        exact follow_put hplace h

/-! ## Reading and writing -/

/-- What can be read is a file. -/
theorem read_eq_ok_iff :
    fs.read p = .ok content ↔ ∃ place, fs.place p = .ok place ∧
      fs.node? place = some (.file content) := by
  unfold read
  cases hplace : fs.place p with
  | error e => simp [bind, Except.bind]
  | ok place =>
    cases hnode : fs.node? place with
    | none => simp [bind, Except.bind, hnode]
    | some node => cases node <;> simp [bind, Except.bind, hnode]

/-- There is a file at a place, and it can be opened, or there is room for one. -/
def TakesFile (fs : FileSystem) (place : List FileName) : Prop :=
  fs.node? place = none ∨ ∃ content, fs.node? place = some (.file content)

/-- Where a file may be, there is no directory. -/
theorem TakesFile.ne_directory (h : fs.TakesFile place) : fs.node? place ≠ some .directory := by
  obtain hnone | ⟨content, hfile⟩ := h
  · simp [hnone]
  · simp [hfile]

/-- What can be written to has a place that takes a file. -/
theorem write_eq_ok_iff :
    fs.write p content = .ok fs' ↔ ∃ place, fs.place p = .ok place ∧ fs.TakesFile place ∧
      fs' = fs.put place (.file content) := by
  unfold write TakesFile
  cases hplace : fs.place p with
  | error e => simp [bind, Except.bind]
  | ok place =>
    cases hnode : fs.node? place with
    | none => simp [bind, Except.bind, hnode, eq_comm]
    | some node => cases node <;> simp [bind, Except.bind, hnode, eq_comm]

/-- A file that can be read can be written. -/
theorem exists_write_of_read (h : fs.read p = .ok content) (new : Bytes) :
    ∃ fs', fs.write p new = .ok fs' := by
  obtain ⟨place, hplace, hnode⟩ := read_eq_ok_iff.mp h
  exact ⟨_, write_eq_ok_iff.mpr ⟨place, hplace, .inr ⟨content, hnode⟩, rfl⟩⟩

/-- What was written is read. -/
theorem read_write (h : fs.write p content = .ok fs') : fs'.read p = .ok content := by
  obtain ⟨place, hplace, htakes, rfl⟩ := write_eq_ok_iff.mp h
  -- The root is a directory, so that the place is not the root.
  have hne : place ≠ [] := by
    rintro rfl
    exact htakes.ne_directory rfl
  exact read_eq_ok_iff.mpr ⟨place, place_put htakes.ne_directory hplace, node?_put_self hne⟩

/-- A file that can be read is there. -/
theorem contains_of_read (h : fs.read p = .ok content) : fs.contains p = .ok true := by
  obtain ⟨place, hplace, hnode⟩ := read_eq_ok_iff.mp h
  rw [contains, find?, hplace]
  dsimp only
  rw [hnode]
  rfl

end FileSystem

namespace Path

variable {accounts : Accounts} {p q : Path} {t : Text}

/-- A text told from the root names a path that begins there. -/
theorem root_ofText_ne_relative (h : t.head? = some (.scalar '/')) :
    (ofText t).root ≠ .relative := by
  obtain ⟨rest, rfl⟩ : ∃ rest, t = .scalar '/' :: rest := by
    cases t with
    | nil => cases h
    | cons c rest => exact ⟨rest, by rw [Option.some.inj h]⟩
  show rootOf _ ≠ _
  unfold rootOf
  rw [List.takeWhile_cons_of_pos rfl, List.length_cons]
  split <;> simp_all

/-- The home directory is put into a path once. -/
theorem expandHome_expandHome (h : p.expandHome accounts = .ok q) :
    q.expandHome accounts = .ok q := by
  have hq := h
  unfold expandHome at hq
  split at hq
  · next account rest _ _ =>
    cases hhome : homeOf accounts account with
    | error e => simp [hhome, Except.map] at hq
    | ok found =>
      -- A path below the home directory begins at the root.
      obtain ⟨t, ht, rfl⟩ := exists_ofText_of_homeOf hhome
      rw [hhome] at hq
      obtain rfl := Except.ok.inj hq
      have hroot := root_ofText_ne_relative ht
      unfold expandHome
      split
      · next hrelative _ => exact absurd hrelative hroot
      · rfl
  · obtain rfl := Except.ok.inj hq
    exact h

/-- A text that a user writes means a path: the path that it names, with the home directory put into
it. An empty text means none. -/
def IsNamedBy (accounts : Accounts) (p : Path) (t : Text) : Prop :=
  t ≠ [] ∧ (ofText t).expandHome accounts = .ok p

/-- A path that some text means is meant by its own text. -/
theorem IsNamedBy.text (h : p.IsNamedBy accounts t) : p.IsNamedBy accounts p.text := by
  refine ⟨List.isEmpty_eq_false_iff.mp p.isEmpty_text, ?_⟩
  rw [ofText_text ((isNormal_ofText t).expandHome h.2)]
  exact expandHome_expandHome h.2

end Path

end SourceEditor

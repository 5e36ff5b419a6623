import SourceEditor.Theme.Manager

/-!
# The palettes that a theme manager hands out

A theme manager remembers which palette it handed out last, and announces nothing if the palette in
effect is that one. Whoever keeps to what is handed out has the right palette nevertheless: what the
manager remembers is what was handed out, and it was handed out from the theme in use.

* `ThemeManager.Operation`, `ThemeManager.Stage.perform`: what happens to a manager and around it.
* `ThemeManager.Ledger`: what someone notes who sees the files and the palettes, but not the
  manager.
* `ThemeManager.Ledger.Agrees`: the manager remembers what is noted; every operation keeps it so.
* `ThemeManager.handed_out`: what is handed out in the course of any operations.
-/

namespace SourceEditor.ThemeManager

/-- Something that happens to a theme manager, or around it. -/
inductive Operation
  /-- Someone asks for the palette in effect. -/
  | current
  /-- The mode of a name is set. -/
  | setMode (name : Text)
  /-- The theme in a file is asked for. -/
  | setPath (path : Path)
  /-- The palette in effect may be another one. -/
  | refresh
  /-- The colour of windows changes, without a word to the manager. -/
  | recolour (colour : Rgb)
  /-- The files change, without a word to the manager. -/
  | rewrite (files : FileSystem)

/-- Whether the manager has to see to it that the right palette is the last one handed out. -/
def Operation.isCall : Operation → Bool
  | .recolour _ | .rewrite _ => false
  | _ => true

/-- A theme manager and what it looks at. -/
structure Stage where
  /-- The manager. -/
  manager : ThemeManager
  /-- The files. -/
  files : FileSystem
  /-- The colour of windows. -/
  colour : Rgb

/-- What comes of an operation. -/
structure Outcome where
  /-- The palette that was announced. -/
  emitted : Option Palette := none
  /-- The palette that was given in return. -/
  returned : Option Palette := none
  /-- Why a theme could not be loaded. -/
  error : Option ThemeFile.Error := none

/-- The palette that was handed out in one way or the other. -/
def Outcome.handed? (o : Outcome) : Option Palette :=
  o.emitted.or o.returned

namespace Stage

/-- The palette in effect. -/
def paletteKey (s : Stage) : PaletteKey :=
  s.manager.paletteKey s.colour

/-- Goes through an operation. -/
def perform (s : Stage) : Operation → Outcome × Stage
  | .current =>
    let (palette, manager) := s.manager.current s.colour
    ({ returned := some palette }, { s with manager })
  | .setMode name =>
    let (emitted, manager) := s.manager.setMode (.ofName name) s.colour
    ({ emitted }, { s with manager })
  | .setPath path =>
    match s.manager.setPath s.files path s.colour with
    | (.ok (emitted, manager), files) => ({ emitted }, { s with manager, files })
    | (.error e, files) => ({ error := some e }, { s with files })
  | .refresh =>
    let (emitted, manager) := s.manager.refresh s.colour
    ({ emitted }, { s with manager })
  | .recolour colour => ({}, { s with colour })
  | .rewrite files => ({}, { s with files })

/-- The theme that an operation loads, and its file, if it can be loaded. -/
def loaded? (s : Stage) : Operation → Option (Path × Theme)
  | .setPath path => (ThemeFile.load s.files path).1.toOption.map fun theme => (path, theme)
  | _ => none

end Stage

/-- What is noted of the operations. -/
structure Ledger where
  /-- The last file of which the theme could be loaded, and this theme. -/
  file : Path × Theme
  /-- The palette handed out last, and which one was in effect then. -/
  handed : Option (PaletteKey × Palette) := none

/-- Takes note of an operation. -/
def Ledger.record (l : Ledger) (s : Stage) (op : Operation) : Ledger where
  file := (s.loaded? op).getD l.file
  handed := ((s.perform op).1.handed?.map fun palette =>
    ((s.perform op).2.paletteKey, palette)).or l.handed

/-- Goes through some operations, taking note of them. -/
def run (start : Stage × Ledger) (ops : List Operation) : Stage × Ledger :=
  ops.foldl (fun reached op => ((reached.1.perform op).2, reached.2.record reached.1 op)) start

/-- A manager remembers what is noted, and the last palette that was handed out is one of the theme
in use. -/
structure Ledger.Agrees (l : Ledger) (s : Stage) : Prop where
  path : s.manager.path = l.file.1
  theme : s.manager.theme = l.file.2
  shown : s.manager.shown = l.handed.map Prod.fst
  handed : ∀ key palette, l.handed = some (key, palette) → palette = l.file.2.palette key

variable {s : Stage} {l : Ledger} {op : Operation} {path : Path}

/-! ## Single operations -/

/-- Asking for the theme in a file either loads and announces it or changes nothing but files. -/
theorem perform_setPath_cases (s : Stage) (path : Path) :
    (∃ theme files, s.loaded? (.setPath path) = some (path, theme) ∧
      s.perform (.setPath path) = ({ emitted := some (theme.palette s.paletteKey) },
        { s with manager := { s.manager with path, theme, shown := some s.paletteKey }, files })) ∨
    ∃ e files, s.loaded? (.setPath path) = none ∧
      s.perform (.setPath path) = ({ error := some e }, { s with files }) := by
  rw [Stage.loaded?, Stage.perform, setPath]
  obtain ⟨theme, files⟩ := ThemeFile.load s.files path
  cases theme with
  | ok theme => exact .inl ⟨theme, files, rfl, rfl⟩
  | error e => exact .inr ⟨e, files, rfl, rfl⟩

section Refresh

variable {m : ThemeManager} {colour : Rgb}

/-- A palette that is shown already is not announced. -/
theorem refresh_of_eq (h : m.shown = some (m.paletteKey colour)) : m.refresh colour = (none, m) :=
  if_pos h.symm

/-- Another one is announced, and then it is shown. -/
theorem refresh_of_ne (h : m.shown ≠ some (m.paletteKey colour)) :
    m.refresh colour = (some (m.theme.palette (m.paletteKey colour)),
      { m with shown := some (m.paletteKey colour) }) :=
  if_neg (Ne.symm h)

/-- The palette in effect is announced exactly if it is not the one that is remembered. -/
theorem isSome_refresh_iff :
    (m.refresh colour).1.isSome ↔ m.shown ≠ some (m.paletteKey colour) := by
  by_cases h : m.shown = some (m.paletteKey colour)
  · simp [refresh_of_eq h, h]
  · simp [refresh_of_ne h, h]

/-- Whether or not it is announced, the palette in effect is remembered then, and stays in
effect. -/
theorem shown_refresh :
    (m.refresh colour).2.shown = some (m.paletteKey colour) ∧
      (m.refresh colour).2.paletteKey colour = m.paletteKey colour := by
  by_cases h : m.shown = some (m.paletteKey colour)
  · rw [refresh_of_eq h]
    exact ⟨h, rfl⟩
  · rw [refresh_of_ne h]
    exact ⟨rfl, rfl⟩

end Refresh

/-- A theme that cannot be loaded leaves the manager as it is, and nothing is handed out. -/
theorem perform_of_error (herror : (s.perform op).1.error ≠ none) :
    (s.perform op).2.manager = s.manager ∧ (s.perform op).1.emitted = none ∧
      (s.perform op).1.returned = none := by
  cases op with
  | setPath path =>
    obtain ⟨theme, files, -, hperform⟩ | ⟨e, files, -, hperform⟩ := perform_setPath_cases s path
    · rw [hperform] at herror
      exact absurd rfl herror
    · rw [hperform]
      exact ⟨rfl, rfl, rfl⟩
  | _ => exact absurd rfl herror

/-- After a call that did not fail, the palette that is remembered is the one in effect. -/
theorem shown_perform (hcall : op.isCall = true) (herror : (s.perform op).1.error = none) :
    (s.perform op).2.manager.shown = some (s.perform op).2.paletteKey := by
  cases op with
  | current => rfl
  | setMode name =>
    let m : ThemeManager := { s.manager with mode := .ofName name }
    show (m.refresh s.colour).2.shown = some ((m.refresh s.colour).2.paletteKey s.colour)
    rw [shown_refresh.1, shown_refresh.2]
  | refresh =>
    let m : ThemeManager := s.manager
    show (m.refresh s.colour).2.shown = some ((m.refresh s.colour).2.paletteKey s.colour)
    rw [shown_refresh.1, shown_refresh.2]
  | setPath path =>
    obtain ⟨theme, files, -, hperform⟩ | ⟨e, files, -, hperform⟩ := perform_setPath_cases s path
    · rw [hperform]
      rfl
    · rw [hperform] at herror
      cases herror
  | recolour colour => cases hcall
  | rewrite files => cases hcall

/-! ## Any operations -/

/-- What the manager looks at, and its mode, have no part in what is noted. -/
theorem Ledger.Agrees.congr {s' : Stage} (h : l.Agrees s) (hpath : s'.manager.path = s.manager.path)
    (htheme : s'.manager.theme = s.manager.theme) (hshown : s'.manager.shown = s.manager.shown) :
    l.Agrees s' where
  path := hpath.trans h.path
  theme := htheme.trans h.theme
  shown := hshown.trans h.shown
  handed := h.handed

/-- Looking at the colours anew keeps the ledger right. -/
theorem Ledger.Agrees.refresh (h : l.Agrees s) :
    (l.record s .refresh).Agrees (s.perform .refresh).2 := by
  by_cases hshown : s.manager.shown = some (s.manager.paletteKey s.colour)
  · -- Nothing is announced, and nothing has to be: what was noted is still right.
    have hquiet : s.perform .refresh = ({}, s) := by
      rw [Stage.perform, refresh_of_eq hshown]
    rw [record, hquiet]
    exact h
  · have hloud : s.perform .refresh = ({ emitted := some (s.manager.theme.palette s.paletteKey) },
        { s with manager := { s.manager with shown := some s.paletteKey } }) := by
      rw [Stage.perform, refresh_of_ne hshown]
      rfl
    rw [record, hloud]
    refine ⟨h.path, h.theme, rfl, ?_⟩
    rintro key palette heq
    cases heq
    exact congrArg (Theme.palette · _) h.theme

/-- Every operation keeps the manager to what is noted. -/
theorem Ledger.Agrees.perform (h : l.Agrees s) (op : Operation) :
    (l.record s op).Agrees (s.perform op).2 := by
  cases op with
  | current =>
    refine ⟨h.path, h.theme, rfl, ?_⟩
    rintro key palette heq
    cases heq
    exact congrArg (Theme.palette · _) h.theme
  | setMode name =>
    -- The mode is taken first, and then it is as if there had been nothing but a refresh.
    let taken : Stage := { s with manager := { s.manager with mode := .ofName name } }
    have htaken : l.Agrees taken := h.congr rfl rfl rfl
    exact htaken.refresh
  | setPath path =>
    obtain ⟨theme, files, hloaded, hperform⟩ | ⟨e, files, hloaded, hperform⟩ :=
      perform_setPath_cases s path
    · -- The palette is announced even if it is the same one of the two as before.
      rw [record, hloaded, hperform]
      refine ⟨rfl, rfl, rfl, ?_⟩
      rintro key palette heq
      cases heq
      rfl
    · rw [record, hloaded, hperform]
      exact h.congr rfl rfl rfl
  | refresh => exact h.refresh
  | recolour colour => exact h.congr rfl rfl rfl
  | rewrite files => exact h.congr rfl rfl rfl

/-- So does a run of any operations. -/
theorem Ledger.Agrees.run (h : l.Agrees s) (ops : List Operation) :
    (ThemeManager.run (s, l) ops).2.Agrees (ThemeManager.run (s, l) ops).1 := by
  induction ops generalizing s l with
  | nil => exact h
  | cons op ops ih => exact ih (h.perform op)

/-- A manager that was just loaded has the theme of its file, and has handed out nothing. -/
theorem agrees_load {fs fs' : FileSystem} {mode : ThemeMode} {m : ThemeManager}
    (hload : load fs path mode = (.ok m, fs')) (colour : Rgb) :
    (ThemeFile.load fs path).1 = .ok m.theme ∧
      Ledger.Agrees ⟨(path, m.theme), none⟩ ⟨m, fs', colour⟩ := by
  cases hfile : ThemeFile.load fs path with
  | mk theme files =>
    rw [load, hfile] at hload
    cases theme with
    | ok theme =>
      cases hload
      exact ⟨rfl, rfl, rfl, rfl, by rintro _ _ ⟨⟩⟩
    | error e => cases hload

/-- Once a theme manager is loaded, whatever happens to it and around it: when it was asked for the
palette in effect, was given a mode or a theme that can be loaded, or was told to look anew, the
last palette that was handed out, announced or in return, is the one in effect, from the file that
was loaded last. Setting a mode and looking anew announce it exactly if another one was handed out
last; a new theme always announces it. A theme that cannot be loaded leaves the manager as it is,
and nothing is handed out. -/
theorem handed_out {fs fs' : FileSystem} {mode : Text} {m : ThemeManager}
    (hload : load fs path (.ofName mode) = (.ok m, fs')) (colour : Rgb) (ops : List Operation)
    (op : Operation) :
    let reached := run (⟨m, fs', colour⟩, ⟨(path, m.theme), none⟩) ops
    let outcome := (reached.1.perform op).1
    let s := (reached.1.perform op).2
    let l := reached.2.record reached.1 op
    (ThemeFile.load fs path).1 = .ok m.theme ∧
    (op.isCall = true → outcome.error = none →
      l.handed = some (s.paletteKey, l.file.2.palette s.paletteKey)) ∧
    (op = .refresh ∨ (∃ name, op = .setMode name) →
      (outcome.emitted.isSome ↔ reached.2.handed.map Prod.fst ≠ some s.paletteKey)) ∧
    (∀ path, op = .setPath path → outcome.error = none → outcome.emitted.isSome) ∧
    (outcome.error ≠ none →
      s.manager = reached.1.manager ∧ outcome.emitted = none ∧ outcome.returned = none) := by
  intro reached outcome s l
  obtain ⟨hfile, hstart⟩ := agrees_load hload colour
  have hagrees : reached.2.Agrees reached.1 := hstart.run ops
  have hagrees' : l.Agrees s := hagrees.perform op
  refine ⟨hfile, fun hcall herror => ?_, fun hop => ?_, fun path hop herror => ?_,
    perform_of_error⟩
  · -- What was handed out last is what is remembered, and that is the palette in effect.
    have hshown : l.handed.map Prod.fst = some s.paletteKey :=
      hagrees'.shown.symm.trans (shown_perform hcall herror)
    obtain ⟨⟨key, palette⟩, hhanded, hkey⟩ := Option.map_eq_some_iff.mp hshown
    obtain rfl : key = s.paletteKey := hkey
    rw [hhanded, hagrees'.handed _ _ hhanded]
  · -- A palette is announced exactly if it is not the one that was handed out last.
    rw [← hagrees.shown]
    rcases hop with rfl | ⟨name, rfl⟩
    · let m : ThemeManager := reached.1.manager
      show (m.refresh reached.1.colour).1.isSome ↔
        m.shown ≠ some ((m.refresh reached.1.colour).2.paletteKey reached.1.colour)
      rw [shown_refresh.2, isSome_refresh_iff]
    · let m : ThemeManager := { reached.1.manager with mode := .ofName name }
      show (m.refresh reached.1.colour).1.isSome ↔
        m.shown ≠ some ((m.refresh reached.1.colour).2.paletteKey reached.1.colour)
      rw [shown_refresh.2, isSome_refresh_iff]
  · -- A new path is followed by an announcement, whatever was handed out.
    subst hop
    obtain ⟨theme, files, -, hperform⟩ | ⟨e, files, -, hperform⟩ :=
      perform_setPath_cases reached.1 path
    · show (reached.1.perform (.setPath path)).1.emitted.isSome
      rw [hperform]
      rfl
    · have hfailed : outcome.error = some e := congrArg (fun r => r.1.error) hperform
      rw [hfailed] at herror
      cases herror

/-- The light palette, after the dark one was handed out and a theme could not be loaded. -/
theorem handed_out_light :
    ∃ m files, load .empty (.ofText "theme.json") (.ofName "dark") = (.ok m, files) ∧
      let reached := run (⟨m, files, ⟨0, 0, 0⟩⟩, ⟨(.ofText "theme.json", m.theme), none⟩)
        [.current, .setPath (.ofText "missing/theme.json")]
      let l := reached.2.record reached.1 (.setMode " Light ")
      (reached.1.perform (.setMode " Light ")).1.emitted.isSome ∧
        l.handed = some (.light, l.file.2.light) := by
  have hrun : (match load .empty (.ofText "theme.json") (.ofName "dark") with
      | (.ok m, files) =>
        let reached := run (⟨m, files, ⟨0, 0, 0⟩⟩, ⟨(.ofText "theme.json", m.theme), none⟩)
          [.current, .setPath (.ofText "missing/theme.json")]
        let s := (reached.1.perform (.setMode " Light ")).2
        decide (reached.2.handed.map Prod.fst = some .dark ∧ s.paletteKey = .light)
      | (.error _, _) => false) = true := by decide +kernel
  split at hrun
  · next m files hload =>
    obtain ⟨hdark, hlight⟩ := of_decide_eq_true hrun
    obtain ⟨-, hhanded, hemitted, -⟩ := handed_out hload ⟨0, 0, 0⟩
      [.current, .setPath (.ofText "missing/theme.json")] (.setMode " Light ")
    refine ⟨m, files, hload, ?_, ?_⟩
    · rw [hemitted (.inr ⟨_, rfl⟩), hdark, hlight]
      decide
    · rw [hhanded rfl rfl, hlight]
      rfl
  · exact absurd hrun Bool.false_ne_true

end SourceEditor.ThemeManager

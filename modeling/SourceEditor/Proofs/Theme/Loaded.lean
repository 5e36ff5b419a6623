import SourceEditor.Theme.ThemeFile
import SourceEditor.Proofs.Files.Written
import SourceEditor.Proofs.Json.Completeness
import SourceEditor.Proofs.Json.Depth
import SourceEditor.Proofs.Json.LineEnds
import SourceEditor.Proofs.Json.Written
import SourceEditor.Proofs.Text.Decoding

/-!
# The themes that are loaded

A theme file has two palettes, each of which may leave out any colour. What is left out is the
default of the same palette, and nothing else can take its place. A file that cannot be loaded is
told as such whatever is wrong with it, unless its containers stand too deep inside each other.

* `Palette.Gives`: the colour that some entries have under a name, or the default if they have none.
* `ThemeFile.HasShape`: the documents that are themes.
* `Palette.parse_eq_ok_iff`, `ThemeFile.parse_eq_ok_iff`: what is read from them.
* `ThemeFile.read_eq_ok_iff`, `ThemeFile.exists_of_read_eq_tooDeep`: what is read from a file.
* `ThemeFile.ensure_cases`: the only file that is ever written is one that was not there.
* `ThemeFile.load_palettes`: what loading a theme comes to, whatever stands at the path.
-/

namespace SourceEditor

open Json (Entries Value)

/-! ## Palettes -/

/-- A palette is found by its name. -/
theorem PaletteKey.ofName?_eq_some_iff {name : Text} {palette : PaletteKey} :
    ofName? name = some palette ↔ palette.name = name := by
  unfold ofName?
  constructor
  · intro h
    split at h
    · next hdark => rw [hdark, ← Option.some.inj h]; rfl
    · split at h
      · next hlight => rw [hlight, ← Option.some.inj h]; rfl
      · cases h
  · rintro rfl
    cases palette <;> decide

namespace Palette

/-- The colour of a name: the text that some entries have under it, or the default if they leave it
out. -/
inductive Gives (entries : Entries) (name default : Text) : Text → Prop
  | given {s : Text} (h : entries.get? name = some (.string s)) : Gives entries name default s
  | leftOut (h : entries.get? name = none) : Gives entries name default default

/-- The colours that are among some entries are texts. -/
def HasColours (entries : Entries) : Prop :=
  ∀ (key : ColourKey) (v : Value), entries.get? key.name = some v → ∃ s, v = .string s

/-- A palette has the colours that some entries give, and its own defaults otherwise. -/
def IsGivenBy (p : Palette) (palette : PaletteKey) (entries : Entries) : Prop :=
  ∀ key, Gives entries key.name ((standard palette).colour key) (p.colour key)

variable {p p' : Palette} {palette : PaletteKey} {entries : Entries} {name default s s' : Text}

/-- A name has one colour. -/
theorem Gives.unique (h : Gives entries name default s) (h' : Gives entries name default s') :
    s = s' := by
  cases h with
  | given h =>
    cases h' with
    | given h' => exact Value.string.inj (Option.some.inj (h.symm.trans h'))
    | leftOut h' => cases h.symm.trans h'
  | leftOut h =>
    cases h' with
    | given h' => cases h.symm.trans h'
    | leftOut => rfl

/-- Some entries give one palette. -/
theorem IsGivenBy.unique (h : p.IsGivenBy palette entries) (h' : p'.IsGivenBy palette entries) :
    p = p' := by
  obtain ⟨colour⟩ := p
  obtain ⟨colour'⟩ := p'
  exact congrArg Palette.mk (funext fun key => (h key).unique (h' key))

/-- What gives a palette has colours. -/
theorem IsGivenBy.hasColours (h : p.IsGivenBy palette entries) : HasColours entries := by
  intro key v hv
  have hgives := h key
  generalize p.colour key = s at hgives
  cases hgives with
  | given hs => exact ⟨s, Option.some.inj (hv.symm.trans hs)⟩
  | leftOut hnone => cases hv.symm.trans hnone

/-- This is what is looked at, key by key. -/
theorem hasColours_iff_isGiven :
    HasColours entries ↔ ∀ key ∈ ColourKey.all, isGiven entries key = true := by
  have hall (key : ColourKey) : key ∈ ColourKey.all := by cases key <;> decide
  constructor
  · intro h key _
    unfold isGiven
    cases hv : entries.get? key.name with
    | none => rfl
    | some v =>
      obtain ⟨s, rfl⟩ := h key v hv
      rfl
  · intro h key v hv
    have hgiven := h key (hall key)
    rw [isGiven, hv] at hgiven
    cases v with
    | string s => exact ⟨s, rfl⟩
    | _ => cases hgiven

/-- Entries whose colours are texts are a palette. -/
theorem exists_parse_eq_ok (palette : PaletteKey) (h : HasColours entries) :
    ∃ p, parse palette entries = .ok p ∧ p.IsGivenBy palette entries := by
  have hfind : (ColourKey.all.find? fun key => !isGiven entries key) = none :=
    List.find?_eq_none.mpr fun key hkey hnot => by
      rw [hasColours_iff_isGiven.mp h key hkey] at hnot
      cases hnot
  rw [parse, hfind]
  refine ⟨_, rfl, fun key => ?_⟩
  dsimp only
  cases hv : entries.get? key.name with
  | none => exact .leftOut hv
  | some v =>
    obtain ⟨s, rfl⟩ := h key v hv
    exact .given hv

/-- Nothing else is. -/
theorem hasColours_of_parse (h : parse palette entries = .ok p) : HasColours entries := by
  rw [hasColours_iff_isGiven]
  intro key hkey
  unfold parse at h
  split at h
  · cases h
  · next hfind => simpa using List.find?_eq_none.mp hfind key hkey

/-- A palette is parsed exactly if the entries give it. -/
theorem parse_eq_ok_iff : parse palette entries = .ok p ↔ p.IsGivenBy palette entries := by
  constructor
  · intro h
    obtain ⟨p', hp', hgiven⟩ := exists_parse_eq_ok palette (hasColours_of_parse h)
    obtain rfl := Except.ok.inj (hp'.symm.trans h)
    exact hgiven
  · intro h
    obtain ⟨p', hp', hgiven⟩ := exists_parse_eq_ok palette h.hasColours
    rw [hp', hgiven.unique h]

end Palette

/-! ## Documents -/

namespace ThemeFile

open Palette (Gives HasColours)

/-- The documents that are themes: objects with two objects in which every colour is a text. -/
def HasShape (doc : Value) : Prop :=
  ∃ entries, doc = .object entries ∧ ∀ palette : PaletteKey, ∃ colours,
    Entries.get? palette.name entries = some (.object colours) ∧ HasColours colours

/-- A theme has the palettes of some entries. -/
def IsGivenBy (theme : Theme) (entries : Entries) : Prop :=
  ∀ palette : PaletteKey, ∃ colours, Entries.get? palette.name entries = some (.object colours) ∧
    (theme.palette palette).IsGivenBy palette colours

section Document

variable {path : Path} {doc : Value} {entries : Entries} {key : PaletteKey} {p : Palette}
  {theme : Theme}

/-- A palette of a theme is one that stands under its name. -/
theorem paletteOf_eq_ok_iff : paletteOf path entries key = .ok p ↔
    ∃ colours, entries.get? key.name = some (.object colours) ∧ p.IsGivenBy key colours := by
  constructor
  · intro h
    unfold paletteOf at h
    split at h
    · next colours hcolours =>
      refine ⟨colours, hcolours, Palette.parse_eq_ok_iff.mp ?_⟩
      cases hparse : Palette.parse key colours with
      | ok p' => rw [hparse] at h; cases h; rfl
      | error e => rw [hparse] at h; cases h
    · cases h
  · rintro ⟨colours, hcolours, hgiven⟩
    rw [paletteOf, hcolours]
    dsimp only
    rw [Palette.parse_eq_ok_iff.mpr hgiven]
    rfl

/-- A theme is parsed exactly if an object gives it. -/
theorem parse_eq_ok_iff :
    parse path doc = .ok theme ↔ ∃ entries, doc = .object entries ∧ IsGivenBy theme entries := by
  constructor
  · intro h
    cases doc with
    | object entries =>
      obtain ⟨dark, hdark, h⟩ := Json.exists_of_bind_eq_ok h
      obtain ⟨light, hlight, h⟩ := Json.exists_of_bind_eq_ok h
      cases h
      refine ⟨entries, rfl, fun palette => ?_⟩
      cases palette with
      | dark => exact paletteOf_eq_ok_iff.mp hdark
      | light => exact paletteOf_eq_ok_iff.mp hlight
    | _ => cases h
  · rintro ⟨entries, rfl, hgiven⟩
    rw [parse, paletteOf_eq_ok_iff.mpr (hgiven .dark), paletteOf_eq_ok_iff.mpr (hgiven .light)]
    rfl

/-- A document is a theme exactly if it has the shape of one. -/
theorem exists_parse_eq_ok_iff : (∃ theme, parse path doc = .ok theme) ↔ HasShape doc := by
  constructor
  · rintro ⟨theme, h⟩
    obtain ⟨entries, rfl, hgiven⟩ := parse_eq_ok_iff.mp h
    refine ⟨entries, rfl, fun palette => ?_⟩
    obtain ⟨colours, hcolours, hpalette⟩ := hgiven palette
    exact ⟨colours, hcolours, hpalette.hasColours⟩
  · rintro ⟨entries, rfl, hshape⟩
    have hread (palette : PaletteKey) : ∃ p, paletteOf path entries palette = .ok p := by
      obtain ⟨colours, hcolours, hhas⟩ := hshape palette
      obtain ⟨p, -, hgiven⟩ := Palette.exists_parse_eq_ok palette hhas
      exact ⟨p, paletteOf_eq_ok_iff.mpr ⟨colours, hcolours, hgiven⟩⟩
    obtain ⟨dark, hdark⟩ := hread .dark
    obtain ⟨light, hlight⟩ := hread .light
    exact ⟨⟨dark, light⟩, by rw [parse, hdark, hlight]; rfl⟩

/-- No palette is refused for its depth. -/
theorem paletteOf_ne_tooDeep (d : Json.TooDeep) :
    paletteOf path entries key ≠ .error (.tooDeep d) := by
  unfold paletteOf
  split
  · next colours _ => cases Palette.parse key colours <;> simp [Except.mapError]
  · simp

/-- What is in a document never makes it too deep. -/
theorem parse_ne_tooDeep (d : Json.TooDeep) : parse path doc ≠ .error (.tooDeep d) := by
  cases doc with
  | object entries =>
    rw [parse]
    cases hdark : paletteOf path entries .dark with
    | error e =>
      exact fun h => paletteOf_ne_tooDeep d (hdark.trans (congrArg _ (Except.error.inj h)))
    | ok dark =>
      cases hlight : paletteOf path entries .light with
      | error e =>
        exact fun h => paletteOf_ne_tooDeep d (hlight.trans (congrArg _ (Except.error.inj h)))
      | ok light => exact nofun
  | _ => exact nofun

end Document

/-! ## Files -/

section File

variable {fs fs' : FileSystem} {p : Path} {bytes : Bytes} {theme : Theme}

/-- A text file is read with line feeds for its line ends. -/
theorem read_of_decode {t : Text} (hread : fs.read p = .ok bytes)
    (hdecode : Utf8.decode bytes = .ok t) : TextFile.read fs p = .ok t.withLineFeeds := by
  rw [TextFile.read, hread]
  dsimp only
  rw [hdecode]

/-- What is read of a text file is the text of its bytes. -/
theorem exists_of_textFile_read {t : Text} (h : TextFile.read fs p = .ok t) :
    ∃ bytes u, fs.read p = .ok bytes ∧ Utf8.decode bytes = .ok u ∧ t = u.withLineFeeds := by
  unfold TextFile.read at h
  split at h
  · cases h
  · next bytes hread =>
    split at h
    · cases h
    · next u hdecode => exact ⟨bytes, u, hread, hdecode, (Except.ok.inj h).symm⟩

/-- The theme in a file is that of the document in it, whatever its line ends. -/
theorem read_eq_ok_iff (hread : fs.read p = .ok bytes) : read fs p = .ok theme ↔
    ∃ t doc, Utf8.decode bytes = .ok t ∧ Json.read Json.nestingLimit t = .ok doc ∧
      parse p doc = .ok theme := by
  constructor
  · intro h
    unfold read at h
    split at h
    · cases h
    · next document hdocument =>
      obtain ⟨bytes', t, hbytes, hdecode, rfl⟩ := exists_of_textFile_read hdocument
      obtain rfl := Except.ok.inj (hbytes.symm.trans hread)
      -- The file is read with its line ends made line feeds, which leaves the document what it is.
      rcases Json.read_withLineFeeds_cases Json.nestingLimit t with
        ⟨doc, hfeeds, ht⟩ | ⟨e, e', hfeeds, -, -⟩
      · rw [hfeeds] at h
        exact ⟨t, doc, hdecode, ht, h⟩
      · rw [hfeeds] at h
        dsimp only at h
        split at h <;> cases h
  · rintro ⟨t, doc, hdecode, ht, hparse⟩
    rcases Json.read_withLineFeeds_cases Json.nestingLimit t with
      ⟨doc', hfeeds, ht'⟩ | ⟨e, e', -, ht', -⟩
    · obtain rfl := Except.ok.inj (ht'.symm.trans ht)
      rw [read, read_of_decode hread hdecode]
      dsimp only
      rw [hfeeds]
      exact hparse
    · cases ht'.symm.trans ht

/-- A file that is too deep holds a text that is refused for its depth. -/
theorem exists_of_read_eq_tooDeep {d : Json.TooDeep} (h : read fs p = .error (.tooDeep d)) :
    ∃ bytes t e, fs.read p = .ok bytes ∧ Utf8.decode bytes = .ok t ∧
      Json.read Json.nestingLimit t = .error e ∧ e.fault = .tooDeep d := by
  unfold read at h
  split at h
  · cases h
  · next document hdocument =>
    obtain ⟨bytes, t, hbytes, hdecode, rfl⟩ := exists_of_textFile_read hdocument
    rcases Json.read_withLineFeeds_cases Json.nestingLimit t with
      ⟨doc, hfeeds, -⟩ | ⟨e, e', hfeeds, ht, hfault⟩
    · rw [hfeeds] at h
      exact absurd h (parse_ne_tooDeep d)
    · rw [hfeeds] at h
      dsimp only at h
      split at h
      · next hdeep =>
        cases h
        exact ⟨bytes, t, e', hbytes, hdecode, ht, hfault.symm.trans hdeep⟩
      · cases h

/-- Before a theme is loaded, all files are left alone, but for one that is written where there is
nothing. -/
theorem ensure_cases (h : ensure fs p = .ok fs') :
    (fs.contains p = .ok true ∧ fs' = fs) ∨ ∃ place, fs.place p = .ok place ∧
      fs.node? place = none ∧ fs' = fs.put place (.file (Utf8.encode standardDocument)) := by
  unfold ensure at h
  cases hcontains : fs.contains p with
  | error e => rw [hcontains] at h; cases h
  | ok found =>
    rw [hcontains] at h
    cases found with
    | true => exact .inl ⟨rfl, (Except.ok.inj h).symm⟩
    | false =>
      obtain ⟨place, hplace, -, rfl⟩ := FileSystem.write_eq_ok_iff.mp h
      refine .inr ⟨place, hplace, ?_, rfl⟩
      rw [FileSystem.contains, FileSystem.find?, hplace] at hcontains
      simpa using Except.ok.inj hcontains

/-- Making sure of a theme file touches nothing that is there. -/
theorem node?_ensure (h : ensure fs p = .ok fs') {place : List FileName} {node : FileSystem.Node}
    (hnode : fs.node? place = some node) : fs'.node? place = some node := by
  rcases ensure_cases h with ⟨-, rfl⟩ | ⟨new, -, hnew, rfl⟩
  · exact hnode
  · rw [FileSystem.node?_put_of_ne, hnode]
    rintro rfl
    cases hnew.symm.trans hnode

/-- What stands anywhere before a theme is loaded stands there afterwards. -/
theorem node?_load {place : List FileName} {node : FileSystem.Node}
    (hnode : fs.node? place = some node) : (load fs p).2.node? place = some node := by
  unfold load
  split
  · exact hnode
  · next hensure => exact node?_ensure hensure hnode

/-- A theme file that is there is not written. -/
theorem load_of_read (hread : fs.read p = .ok bytes) : load fs p = (read fs p, fs) := by
  have hensure : ensure fs p = .ok fs := by
    rw [ensure, FileSystem.contains_of_read hread]
    rfl
  rw [load, hensure]

end File

/-! ## Written palettes -/

/-- Entries whose keys and colours are of scalar values are written as an object. -/
theorem isWritten_colours (l : Json.Layout) {name : Text} {colours : Entries}
    (hname : ∃ cs, name = .ofChars cs) (hkeys : colours.keys.Nodup)
    (h : ∀ entry ∈ colours, ∃ cs cs', entry = (.ofChars cs, .string (.ofChars cs'))) :
    Json.IsWritten l 1 (Json.nestingLimit - 1) (name, .object colours) := by
  refine ⟨hname, Json.spells_written_object colours hkeys fun entry hentry => ?_⟩
  obtain ⟨cs, cs', rfl⟩ := h entry hentry
  exact ⟨⟨cs, rfl⟩, Json.spells_writeString rfl _⟩

/-- The default colours are written as an object. -/
theorem isWritten_standard (palette : PaletteKey) : Json.IsWritten .block 1 (Json.nestingLimit - 1)
    (palette.name, (Palette.standard palette).toValue) := by
  have hname : Utf8.isEncodable palette.name = true := by cases palette <;> rfl
  refine isWritten_colours .block (Utf8.isEncodable_iff.mp hname)
    (by cases palette <;> decide) fun entry hentry => ?_
  obtain ⟨key, -, rfl⟩ := List.mem_map.mp hentry
  have hkey : Utf8.isEncodable key.name = true := by cases key <;> rfl
  have hcolour : Utf8.isEncodable ((Palette.standard palette).colour key) = true := by
    cases palette <;> cases key <;> rfl
  obtain ⟨cs, hcs⟩ := Utf8.isEncodable_iff.mp hkey
  obtain ⟨cs', hcs'⟩ := Utf8.isEncodable_iff.mp hcolour
  exact ⟨cs, cs', by rw [hcs, hcs']⟩

/-- The document that is written for a missing file is read as the default theme. -/
theorem read_standardDocument : ∃ doc, Json.read Json.nestingLimit standardDocument = .ok doc ∧
    ∀ path, parse path doc = .ok ⟨.dark, .light⟩ := by
  refine ⟨_, Json.read_eq_ok_iff.mpr (Json.isDocument_write_object .block (by decide) ?_),
    fun path => parse_eq_ok_iff.mpr ⟨_, rfl, fun palette => ?_⟩⟩
  · rintro entry (_ | ⟨_, _ | ⟨_, ⟨⟩⟩⟩)
    · exact isWritten_standard .dark
    · exact isWritten_standard .light
  · cases palette with
    | dark => exact ⟨_, rfl, fun key => .given (by cases key <;> rfl)⟩
    | light => exact ⟨_, rfl, fun key => .given (by cases key <;> rfl)⟩

/-- A missing file is written with the default colours, which are then the theme. -/
theorem load_of_missing {fs : FileSystem} {p : Path} {place : List FileName}
    (hplace : fs.place p = .ok place) (hnode : fs.node? place = none) :
    load fs p = (.ok ⟨.dark, .light⟩, fs.put place (.file (Utf8.encode standardDocument))) := by
  have hwrite : fs.write p (Utf8.encode standardDocument) =
      .ok (fs.put place (.file (Utf8.encode standardDocument))) :=
    FileSystem.write_eq_ok_iff.mpr ⟨place, hplace, .inl hnode, rfl⟩
  have hcontains : fs.contains p = .ok false := by
    rw [FileSystem.contains, FileSystem.find?, hplace]
    dsimp only
    rw [hnode]
    rfl
  have hensure : ensure fs p = .ok (fs.put place (.file (Utf8.encode standardDocument))) := by
    rw [ensure, hcontains]
    exact hwrite
  have hdecode : Utf8.decode (Utf8.encode standardDocument) = .ok standardDocument :=
    Utf8.decode_eq_ok_iff.mpr ⟨by decide +kernel, rfl⟩
  obtain ⟨doc, hdoc, hparse⟩ := read_standardDocument
  rw [load, hensure]
  dsimp only
  rw [(read_eq_ok_iff (FileSystem.read_write hwrite)).mpr ⟨_, doc, hdecode, hdoc, hparse p⟩]

/-- Loading a theme comes to a theme or to an error that is told as one of its file, unless
containers stand too deep inside each other in the file; and it leaves everything in the file system
as it was, but for a missing file, which is written with the default colours. From a file, a theme
is loaded exactly if its bytes are those of a document that has the shape of a theme; and every
colour of either palette, and so that of every category of text, is the one that the document gives
it, or the default of the same palette if it gives none. -/
theorem load_palettes (fs : FileSystem) (p : Path) :
    ((∀ bytes t, fs.read p = .ok bytes → Utf8.isEncodable t = true → Utf8.encode t = bytes →
        Json.nesting t ≤ Json.nestingLimit) →
      (∃ theme, (load fs p).1 = .ok theme) ∨
        ∃ e, (load fs p).1 = .error e ∧ ∀ d, e ≠ .tooDeep d) ∧
    (∀ place node, fs.node? place = some node → (load fs p).2.node? place = some node) ∧
    (∀ place, fs.place p = .ok place → fs.node? place = none → load fs p =
      (.ok ⟨.dark, .light⟩, fs.put place (.file (Utf8.encode standardDocument)))) ∧
    ∀ bytes, fs.read p = .ok bytes →
      ((∃ theme, (load fs p).1 = .ok theme) ↔ ∃ t doc,
        (Utf8.isEncodable t = true ∧ Utf8.encode t = bytes) ∧
        Json.IsDocument Json.nestingLimit t doc ∧ HasShape doc) ∧
      ∀ theme, (load fs p).1 = .ok theme → ∃ t entries,
        (Utf8.isEncodable t = true ∧ Utf8.encode t = bytes) ∧
        Json.IsDocument Json.nestingLimit t (.object entries) ∧
        ∀ palette : PaletteKey, ∃ colours,
          Entries.get? palette.name entries = some (.object colours) ∧
          (∀ key, Gives colours key.name ((Palette.standard palette).colour key)
            ((theme.palette palette).colour key)) ∧
          (∀ c, Gives colours (ColourKey.ofCategory c).name
            ((Palette.standard palette).categoryColour c)
            ((theme.palette palette).categoryColour c)) := by
  refine ⟨fun hnesting => ?_, fun _ _ => node?_load, fun _ => load_of_missing,
    fun bytes hread => ?_⟩
  · cases hload : (load fs p).1 with
    | ok theme => exact .inl ⟨theme, rfl⟩
    | error e =>
      refine .inr ⟨e, rfl, ?_⟩
      -- A document that is too deep is nested beyond the limit, which is excluded.
      rintro d rfl
      unfold load at hload
      split at hload
      · cases hload
      · next fs' hensure =>
        rcases ensure_cases hensure with ⟨-, rfl⟩ | ⟨place, hplace, hnode, rfl⟩
        · obtain ⟨bytes, t, e, hread, hdecode, hrefused, hfault⟩ := exists_of_read_eq_tooDeep hload
          obtain ⟨hencodable, hencode⟩ := Utf8.decode_eq_ok_iff.mp hdecode
          exact absurd (hnesting bytes t hread hencodable hencode)
            (Nat.not_le.mpr (Json.nesting_of_read hrefused hfault))
        · -- What is written for a missing file can be read.
          have hmissing := congrArg Prod.fst (load_of_missing hplace hnode)
          rw [load, hensure] at hmissing
          cases hmissing.symm.trans hload
  · rw [load_of_read hread]
    refine ⟨?_, fun theme htheme => ?_⟩
    · -- A theme is loaded exactly if the bytes are those of a document of the right shape.
      constructor
      · rintro ⟨theme, htheme⟩
        obtain ⟨t, doc, hdecode, hdoc, hparse⟩ := (read_eq_ok_iff hread).mp htheme
        exact ⟨t, doc, Utf8.decode_eq_ok_iff.mp hdecode, Json.read_eq_ok_iff.mp hdoc,
          exists_parse_eq_ok_iff.mp ⟨theme, hparse⟩⟩
      · rintro ⟨t, doc, htext, hdoc, hshape⟩
        obtain ⟨theme, hparse⟩ : ∃ theme, parse p doc = .ok theme :=
          exists_parse_eq_ok_iff.mpr hshape
        exact ⟨theme, (read_eq_ok_iff hread).mpr
          ⟨t, doc, Utf8.decode_eq_ok_iff.mpr htext, Json.read_eq_ok_iff.mpr hdoc, hparse⟩⟩
    · -- Each colour of the theme is the one that the document gives, or the standard one.
      obtain ⟨t, doc, hdecode, hdoc, hparse⟩ := (read_eq_ok_iff hread).mp htheme
      obtain ⟨entries, rfl, hgiven⟩ := parse_eq_ok_iff.mp hparse
      refine ⟨t, entries, Utf8.decode_eq_ok_iff.mp hdecode, Json.read_eq_ok_iff.mp hdoc,
        fun palette => ?_⟩
      obtain ⟨colours, hcolours, hpalette⟩ := hgiven palette
      exact ⟨colours, hcolours, hpalette, fun c => hpalette (.ofCategory c)⟩

/-- A file with one colour for either palette, and not for the same key. -/
theorem load_palettes_left_out :
    ∃ (fs : FileSystem) (p : Path) (theme : Theme), (load fs p).1 = .ok theme ∧
      theme.dark.categoryColour .plain = ("red" : Text) ∧
      theme.dark.categoryColour .keyword = ("#569cd6" : Text) ∧
      theme.light.categoryColour .plain = ("#1e1e1e" : Text) ∧
      theme.light.categoryColour .keyword = ("#123456" : Text) := by
  let p : Path := ⟨.relative, ["theme.json"]⟩
  let light : Entries := [("kw", .string "#123456")]
  let dark : Entries := [("fg", .string "red")]
  let doc : Entries := [("light", .object light), ("dark", .object dark)]
  let t : Text := Json.write .line (.object doc)
  have hwritten (content : Bytes) : ∃ fs, FileSystem.empty.write p content = .ok fs := ⟨_, rfl⟩
  obtain ⟨fs, hfs⟩ := hwritten (Utf8.encode t)
  have hencodable : Utf8.isEncodable t = true := by decide +kernel
  have hdoc : Json.IsDocument Json.nestingLimit t (.object doc) := by
    refine Json.isDocument_write_object .line (by decide) ?_
    simp only [doc, List.forall_mem_cons, List.not_mem_nil, false_implies, implies_true, and_true]
    exact ⟨isWritten_colours .line ⟨_, rfl⟩ (by decide) (List.forall_mem_singleton.mpr ⟨_, _, rfl⟩),
      isWritten_colours .line ⟨_, rfl⟩ (by decide) (List.forall_mem_singleton.mpr ⟨_, _, rfl⟩)⟩
  have hshape : HasShape (.object doc) := by
    refine ⟨doc, rfl, fun palette => ?_⟩
    cases palette with
    | dark => exact ⟨dark, rfl, fun key v h => by cases key <;> cases h; exact ⟨_, rfl⟩⟩
    | light => exact ⟨light, rfl, fun key v h => by cases key <;> cases h; exact ⟨_, rfl⟩⟩
  obtain ⟨hexists, hpalettes⟩ := (load_palettes fs p).2.2.2 _ (FileSystem.read_write hfs)
  obtain ⟨theme, htheme⟩ := hexists.mpr ⟨t, _, ⟨hencodable, rfl⟩, hdoc, hshape⟩
  obtain ⟨t', entries, ht', hdoc', hcolours⟩ := hpalettes theme htheme
  -- The bytes are those of one text, and that is one document.
  obtain rfl : t' = t := Except.ok.inj
    ((Utf8.decode_eq_ok_iff.mpr ht').symm.trans (Utf8.decode_eq_ok_iff.mpr ⟨hencodable, rfl⟩))
  obtain rfl : entries = doc := Value.object.inj (hdoc'.unique hdoc)
  obtain ⟨colours, hdark, -, hofDark⟩ := hcolours .dark
  obtain ⟨colours', hlight, -, hofLight⟩ := hcolours .light
  cases hdark
  cases hlight
  exact ⟨fs, p, theme, htheme, (hofDark .plain).unique (.given rfl),
    (hofDark .keyword).unique (.leftOut rfl), (hofLight .plain).unique (.leftOut rfl),
    (hofLight .keyword).unique (.given rfl)⟩

end ThemeFile

end SourceEditor

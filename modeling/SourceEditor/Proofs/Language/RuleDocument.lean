import SourceEditor.Language.RuleDocument
import SourceEditor.Proofs.Files.Written
import SourceEditor.Proofs.Json.LineEnds
import SourceEditor.Proofs.Text.Decoding

/-!
# Files of rules

A language is only as good as its rule file, which anyone may have written. A file that is missing,
that is no text, no document or no rule set leaves the language without rules. What the reader of
documents refuses for its size alone is told apart from all that: an integer of too many digits, and
containers too deep inside each other.

* `RuleDocument.ofText_withLineFeeds`: the line ends of a document have no part in its rules.
* `RuleDocument.loadFile_eq_some_iff`, `RuleDocument.loadFile_eq_error_iff`: the files that have
  rules, and those that are refused for their size.
* `RuleDocument.load_outcome`: what loading a file can come to.
-/

namespace SourceEditor

namespace RuleDocument

/-- The fault of a document that holds more than can be read. -/
def Excess.fault : Excess → Json.Fault
  | .longNumber digits => .longInteger digits
  | .tooDeep e => .tooDeep e

/-- The line ends of a document have no part in its rules: what they change is the place of an
error, which is not looked at. -/
theorem ofText_withLineFeeds (t : Text) : ofText t.withLineFeeds = ofText t := by
  have hsame := Json.mapError_fault_read_withLineFeeds Json.nestingLimit t
  unfold ofText
  cases hfeeds : Json.read Json.nestingLimit t.withLineFeeds with
  | ok document =>
    cases hread : Json.read Json.nestingLimit t with
    | ok document' =>
      rw [hfeeds, hread] at hsame
      obtain rfl := Except.ok.inj hsame
      rfl
    | error e => simp [hfeeds, hread, Except.mapError] at hsame
  | error e =>
    cases hread : Json.read Json.nestingLimit t with
    | ok document => simp [hfeeds, hread, Except.mapError] at hsame
    | error e' =>
      rw [hfeeds, hread] at hsame
      have hfault : e.fault = e'.fault := Except.error.inj hsame
      simp only [hfault]

/-- A text has the rules of the document that it is, if that is a rule set. -/
theorem ofText_eq_some_iff {t : Text} {rules : RuleSet} :
    ofText t = .ok (some rules) ↔
      ∃ document, Json.read Json.nestingLimit t = .ok document ∧ parse document = .ok rules := by
  unfold ofText
  cases Json.read Json.nestingLimit t with
  | ok document =>
    cases hparse : parse document <;> simp [Except.toOption, hparse]
  | error e =>
    obtain ⟨fault, offset⟩ := e
    cases fault <;> simp

/-- A text is refused for what the reader of documents refuses it for, if that is its size. -/
theorem ofText_eq_error_iff {t : Text} {excess : Excess} :
    ofText t = .error excess ↔
      ∃ e, Json.read Json.nestingLimit t = .error e ∧ e.fault = excess.fault := by
  unfold ofText
  cases Json.read Json.nestingLimit t with
  | ok document => simp
  | error e =>
    obtain ⟨fault, offset⟩ := e
    cases fault <;> cases excess <;> simp [Excess.fault]

section File

variable {fs : FileSystem} {p : Path} {bytes : Bytes}

/-- A file that cannot be read has no rules, and a path that no file can have breaks off. -/
theorem loadFile_of_unread {e : FileError} (hread : fs.read p = .error e) :
    loadFile fs p = if e.isMalformedPath then .error (.path e) else .ok none := by
  unfold loadFile TextFile.read
  rw [hread]

/-- The rules of a file are those of its text. -/
theorem loadFile_of_decode {t : Text} (hread : fs.read p = .ok bytes)
    (hdecode : Utf8.decode bytes = .ok t) :
    loadFile fs p = (ofText t).mapError .excess := by
  unfold loadFile TextFile.read
  rw [hread]
  dsimp only
  rw [hdecode]
  dsimp only
  rw [ofText_withLineFeeds]

/-- A file that is no text has no rules. -/
theorem loadFile_of_not_decode {e : Utf8.Error} (hread : fs.read p = .ok bytes)
    (hdecode : Utf8.decode bytes = .error e) : loadFile fs p = .ok none := by
  unfold loadFile TextFile.read
  rw [hread]
  dsimp only
  rw [hdecode]

/-- The files that have rules are those whose text is a document that is a rule set. -/
theorem loadFile_eq_some_iff (hread : fs.read p = .ok bytes) {rules : RuleSet} :
    loadFile fs p = .ok (some rules) ↔ ∃ t document, Utf8.decode bytes = .ok t ∧
      Json.read Json.nestingLimit t = .ok document ∧ parse document = .ok rules := by
  cases hdecode : Utf8.decode bytes with
  | error e => simp [loadFile_of_not_decode hread hdecode]
  | ok t =>
    rw [loadFile_of_decode hread hdecode]
    simp only [Except.ok.injEq, exists_and_left, exists_eq_left', ← ofText_eq_some_iff]
    cases ofText t <;> simp [Except.mapError]

/-- The files over which loading breaks off are those whose text is refused for its size. -/
theorem loadFile_eq_error_iff (hread : fs.read p = .ok bytes) {failure : LoadError} :
    loadFile fs p = .error failure ↔ ∃ excess t e, failure = .excess excess ∧
      Utf8.decode bytes = .ok t ∧ Json.read Json.nestingLimit t = .error e ∧
      e.fault = excess.fault := by
  cases hdecode : Utf8.decode bytes with
  | error e => simp [loadFile_of_not_decode hread hdecode]
  | ok t =>
    rw [loadFile_of_decode hread hdecode]
    simp only [Except.ok.injEq, exists_and_left, exists_eq_left', ← ofText_eq_error_iff]
    cases ofText t <;> simp [Except.mapError, eq_comm]

/-- Where the path is one that files can have, only the document can break the loading off. -/
theorem loadFile_eq_mapError_load
    (hpath : ∀ e, fs.read p = .error e → e.isMalformedPath = false) :
    loadFile fs p = (load fs p).mapError .excess := by
  unfold load
  cases hload : loadFile fs p with
  | ok rules => rfl
  | error failure =>
    cases failure with
    | excess e => rfl
    | path e =>
      -- No file gives this error, and neither does a path as it should be.
      exfalso
      cases hread : fs.read p with
      | ok bytes =>
        obtain ⟨excess, -, -, hexcess, -⟩ := (loadFile_eq_error_iff hread).mp hload
        cases hexcess
      | error e' =>
        rw [loadFile_of_unread hread, hpath e' hread] at hload
        cases hload

end File

/-- Whatever is wrong with a rule file, there are no rules, but a path that no file can have is an
error of its own, and so is a document that holds more than can be read. There are rules exactly if
the bytes of the file are those of a document that is a rule set; and where there is a file, loading
breaks off exactly if its bytes are those of a text that is refused for a number with too many
digits or for too many containers inside each other. -/
theorem load_outcome (fs : FileSystem) (p : Path) :
    (∀ e, fs.read p = .error e →
      loadFile fs p = if e.isMalformedPath then .error (.path e) else .ok none) ∧
    ∀ bytes, fs.read p = .ok bytes →
      (∀ rules, loadFile fs p = .ok (some rules) ↔ ∃ t document,
        (Utf8.isEncodable t = true ∧ Utf8.encode t = bytes) ∧
        Json.read Json.nestingLimit t = .ok document ∧ parse document = .ok rules) ∧
      (∀ failure, loadFile fs p = .error failure ↔ ∃ excess t e, failure = .excess excess ∧
        (Utf8.isEncodable t = true ∧ Utf8.encode t = bytes) ∧
        Json.read Json.nestingLimit t = .error e ∧ e.fault = excess.fault) ∧
      ∀ digits, loadFile fs p = .error (.excess (.longNumber digits)) → 4300 < digits ∧
        ∃ t, Utf8.encode t = bytes ∧ Json.DigitsInRow digits t := by
  refine ⟨fun e hread => loadFile_of_unread hread,
    fun bytes hread => ⟨fun rules => ?_, fun failure => ?_, ?_⟩⟩
  · simp only [loadFile_eq_some_iff hread, Utf8.decode_eq_ok_iff]
  · simp only [loadFile_eq_error_iff hread, Utf8.decode_eq_ok_iff]
  · rintro digits h
    obtain ⟨excess, t, ⟨fault, offset⟩, hexcess, hdecode, hrefused, rfl⟩ :=
      (loadFile_eq_error_iff hread).mp h
    obtain rfl := LoadError.excess.inj hexcess
    obtain ⟨hlimit, hrow⟩ := Json.digitsInRow_of_read hrefused
    exact ⟨hlimit, t, (Utf8.decode_eq_ok_iff.mp hdecode).2, hrow⟩

/-- A file that holds nothing but an integer with one digit too many is such an error, and one that
is not there is none. -/
theorem load_outcome_long_integer :
    ∃ fs p, fs.read p = .ok (Utf8.encode (List.replicate 4301 (.scalar '1'))) ∧
      loadFile fs p = .error (.excess (.longNumber 4301)) ∧ loadFile .empty p = .ok none := by
  let p : Path := ⟨.relative, ["rules.json"]⟩
  have hwritten : ∀ content, ∃ fs, FileSystem.empty.write p content = .ok fs :=
    fun content => ⟨_, rfl⟩
  have hread : Json.read Json.nestingLimit (List.replicate 4301 (.scalar '1')) =
      .error ⟨.longInteger 4301, 0⟩ := by
    have hone : (List.replicate 4301 (Character.scalar '1')).head? ≠ some (.scalar '0') := by
      simp
    have hrefused := Json.read_of_digits Json.nestingLimit (t := List.replicate 4301 (.scalar '1'))
      (fun c hc => by rw [List.eq_of_mem_replicate hc]; rfl) hone
      (by rw [List.length_replicate]; decide)
    rw [List.length_replicate] at hrefused
    exact hrefused
  have hencodable : Utf8.isEncodable (List.replicate 4301 (.scalar '1')) = true :=
    List.all_eq_true.mpr fun c hc => by rw [List.eq_of_mem_replicate hc]; rfl
  -- From here on, nothing is to be computed from the digits.
  generalize List.replicate 4301 (Character.scalar '1') = t at hread hencodable ⊢
  obtain ⟨fs, hfs⟩ := hwritten (Utf8.encode t)
  have hfile := FileSystem.read_write hfs
  refine ⟨fs, p, hfile, ?_, (load_outcome .empty p).1 .missing rfl⟩
  exact (((load_outcome fs p).2 _ hfile).2.1 (.excess (.longNumber 4301))).mpr
    ⟨.longNumber 4301, t, _, rfl, ⟨hencodable, rfl⟩, hread, rfl⟩

end RuleDocument

namespace Language

variable {l : Language} {fs : FileSystem} {directory : Path}

/-- Where no path can be wrong, a language has no rules also if its own path is. -/
theorem rulesIn_eq_ok_iff {rules : Option RuleSet} : l.rulesIn fs directory = .ok rules ↔
    l.loadRules fs directory = .ok rules ∨
      rules = none ∧ ∃ e, l.loadRules fs directory = .error (.path e) := by
  unfold rulesIn RuleDocument.ofDocument
  cases l.loadRules fs directory with
  | ok found => simp
  | error failure =>
    cases failure with
    | path e => simp [eq_comm]
    | excess e => simp

end Language

end SourceEditor

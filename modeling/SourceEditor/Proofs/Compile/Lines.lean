import SourceEditor.Proofs.Compile.Attempts

/-!
# Lines of the compiler

The lines come from another program as they are. Whatever a line holds, a session that compiles logs
it, goes on compiling, and learns of one source line at most. Only a line number with too many
digits makes it complain, and then the line is in the log all the same.

* `Diagnostic.lineDigits?_of_place`: the digits of the line number where a place of an error begins
  a text.
* `Diagnostic.line?_eq_error_iff`: nothing but the number of its digits keeps a line number from
  being read.
* `Session.compileLine_logs`: what becomes of a session when a line comes.
-/

namespace SourceEditor

namespace Diagnostic

/-- Decimals with a colon behind them are a field, whatever follows. -/
theorem field?_append {digits : Text} (h : ∀ c ∈ digits, Character.isDecimal c = true)
    (hne : digits ≠ []) (rest : Text) :
    field? (digits ++ (':' :: rest : Text)) = some (digits, rest) := by
  have hcolon : ¬ Character.isDecimal ':' = true := by decide
  have htaken : (digits ++ (':' :: rest : Text)).takeWhile Character.isDecimal = digits := by
    rw [List.takeWhile_append_of_pos h, List.takeWhile_cons_of_neg hcolon, List.append_nil]
  have hleft : (digits ++ (':' :: rest : Text)).dropWhile Character.isDecimal =
      (':' :: rest : Text) := by
    rw [List.dropWhile_append_of_pos h, List.dropWhile_cons_of_neg hcolon]
  have hsome : digits.isEmpty = false := by simpa using hne
  unfold field?
  rw [hleft]
  simp only [htaken, hsome, Bool.false_eq_true, if_false]

/-- The digits of the line number, where a text begins with the place of an error. -/
theorem lineDigits?_of_place {line column rest : Text}
    (hline : ∀ c ∈ line, Character.isDecimal c = true) (hne : line ≠ [])
    (hcolumn : ∀ c ∈ column, Character.isDecimal c = true) (hne' : column ≠ [])
    (herror : isError rest = true) :
    lineDigits? (':' :: (line ++ (':' :: (column ++ (':' :: rest : Text)) : Text))) =
      some line := by
  have hhere : lineDigitsHere? (':' :: (line ++ (':' :: (column ++ (':' :: rest : Text)) : Text))) =
      some line := by
    simp [lineDigitsHere?, field?_append hline hne, field?_append hcolumn hne', herror]
  rw [lineDigits?, hhere, Option.some_or]

/-- A line number is refused exactly if it has too many digits. -/
theorem line?_eq_error_iff {t : Text} {e : TooLong} :
    line? t = .error e ↔ ∃ digits, lineDigits? t = some digits ∧
      Numeral.digitLimit < digits.length ∧ e = ⟨digits.length⟩ := by
  unfold line?
  cases lineDigits? t with
  | none => simp
  | some digits =>
    by_cases hlimit : digits.length ≤ Numeral.digitLimit
    · simp [hlimit, Nat.not_lt.mpr hlimit]
    · simp [hlimit, Nat.lt_of_not_le hlimit, eq_comm]

end Diagnostic

namespace Session

variable {s : Session}

theorem refusal_diagnose_eq_some_iff {line : Text} {e : Refusal} :
    (s.diagnose line).refusal = some e ↔ ∃ digits, Diagnostic.lineDigits? line = some digits ∧
      Numeral.digitLimit < digits.length ∧ e = .longNumber ⟨digits.length⟩ := by
  have hrefused : (s.diagnose line).refusal = some e ↔
      ∃ e', Diagnostic.line? line = .error e' ∧ e = .longNumber e' := by
    unfold diagnose
    split
    · next e' hline => simp [hline, eq_comm]
    · next hline => simp [hline, unchanged]
    · next n hline =>
      split
      · simp [hline, unchanged]
      · simp [hline, announce]
  rw [hrefused]
  constructor
  · rintro ⟨e', hline, rfl⟩
    obtain ⟨digits, hdigits, hlong, rfl⟩ := Diagnostic.line?_eq_error_iff.mp hline
    exact ⟨digits, hdigits, hlong, rfl⟩
  · rintro ⟨digits, hdigits, hlong, rfl⟩
    exact ⟨_, Diagnostic.line?_eq_error_iff.mpr ⟨digits, hdigits, hlong, rfl⟩, rfl⟩

/-- The only source line that a line can add is the one that it names. -/
theorem errorLines_diagnose (line : Text) (s : Session) :
    (s.diagnose line).session.errorLines = s.errorLines ∨
      ∃ n, Diagnostic.line? line = .ok (some n) ∧ n ∉ s.errorLines ∧
        (s.diagnose line).session.errorLines = insertLine n s.errorLines := by
  unfold diagnose
  split
  · exact .inl rfl
  · exact .inl rfl
  · next n hline =>
    split
    · exact .inl rfl
    · next hnew =>
      rw [List.contains_iff_mem] at hnew
      exact .inr ⟨n, hline, hnew, rfl⟩

/-- Whatever line comes, a session that compiles logs it, and neither stops compiling nor changes
otherwise but for one more source line at most, which the line names. It complains of a line only if
the line number in it has too many digits. -/
theorem compileLine_logs (h : s.state = .compiling) (line : Text) :
    let r := s.compileLine line
    r.session.log = s.log.push line ∧ r.session.state = .compiling ∧
      r.session.connected = s.connected ∧ r.session.artifact = s.artifact ∧
      (r.session.errorLines = s.errorLines ∨
        ∃ n, Diagnostic.line? line = .ok (some n) ∧ n ∉ s.errorLines ∧
          ∀ m, m ∈ r.session.errorLines ↔ m = n ∨ m ∈ s.errorLines) ∧
      ∀ e, r.refusal = some e ↔ ∃ digits, Diagnostic.lineDigits? line = some digits ∧
        Numeral.digitLimit < digits.length ∧ e = .longNumber ⟨digits.length⟩ := by
  intro r
  let logged : Session := { s with log := s.log.push line }
  obtain ⟨hsession, -, hrefusal⟩ : r.session = (logged.diagnose line).session ∧ _ ∧
      r.refusal = (logged.diagnose line).refusal := compileLine_of_compiling h line
  -- Taking note of the diagnostic touches nothing but the source lines with errors.
  obtain ⟨errorLines, hlines⟩ := exists_session_diagnose_eq line logged
  rw [hsession, hrefusal]
  refine ⟨by rw [hlines], by rw [hlines]; exact h, by rw [hlines], by rw [hlines], ?_,
    fun e => refusal_diagnose_eq_some_iff⟩
  rcases errorLines_diagnose line logged with hsame | ⟨n, hline, hnew, hmore⟩
  · exact .inl hsame
  · refine .inr ⟨n, hline, hnew, fun m => ?_⟩
    rw [hmore]
    exact mem_insertLine

/-- A line number with one digit too many: the line is logged, and the session complains of it. -/
theorem compileLine_logs_long_number :
    let s : Session := { state := .compiling, connected := true }
    let digits : Text := List.replicate 4301 '1'
    let line : Text := ':' :: (digits ++ (":1: error: x" : Text))
    s.state = .compiling ∧ (s.compileLine line).session.log = #[line] ∧
      (s.compileLine line).refusal = some (.longNumber ⟨4301⟩) := by
  intro s digits line
  have hdecimal : ∀ c ∈ digits, Character.isDecimal c = true := by
    intro c hc
    rw [List.eq_of_mem_replicate hc]
    decide
  have hlength : digits.length = 4301 := List.length_replicate
  -- Nothing else has to be known of so many digits.
  clear_value digits
  have hne : digits ≠ [] := List.ne_nil_of_length_pos (by rw [hlength]; omega)
  have hcolumn : ∀ c ∈ ("1" : Text), Character.isDecimal c = true := by decide
  have herror : Diagnostic.isError " error: x" = true := by decide
  have hdigits : Diagnostic.lineDigits? line = some digits :=
    Diagnostic.lineDigits?_of_place hdecimal hne hcolumn (by decide) herror
  obtain ⟨hlog, -, -, -, -, hrefusal⟩ := compileLine_logs (s := s) rfl line
  refine ⟨rfl, hlog, (hrefusal _).mpr ⟨digits, hdigits, ?_, by rw [hlength]⟩⟩
  rw [hlength, Numeral.digitLimit]
  omega

end Session

end SourceEditor

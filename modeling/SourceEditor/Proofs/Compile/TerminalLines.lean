import SourceEditor.Proofs.Compile.Delivery
import SourceEditor.Proofs.Json.Depth
import SourceEditor.Proofs.Json.Written
import SourceEditor.Proofs.Text.Trimming

/-!
# Terminal lines

Which lines report how a compilation ended, and what a stream of lines comes to: the report of the
last of them, whatever stands between them.

* `Terminal.ofLine_eq_iff`: the lines that make a report.
* `Terminal.openings_of_ofLine`: a line that cannot be read holds too many containers.
* `Terminal.ofLine_written`: a written object between blanks makes its report.
* `LineStream.fold_of_allRead`: what a stream comes to if all its lines can be read.
* `LineStream.fold_terminal_lines`: the outcome of a stream.
-/

namespace SourceEditor

/-! ## Blanks around a line -/

namespace Text

/-- Trimming takes off the blanks around a text that begins and ends with other characters. -/
theorem trim_between {before t after : Text} (hbefore : isBlank before = true)
    (hafter : isBlank after = true) (hfirst : ∃ c ∈ t.head?, Character.isBlank c = false)
    (hlast : ∃ c ∈ t.getLast?, Character.isBlank c = false) :
    trim (before ++ (t ++ after)) = t := by
  have hdrop {s : Text} (rest : Text) (h : ∃ c ∈ s.head?, Character.isBlank c = false) :
      (s ++ rest).dropWhile Character.isBlank = s ++ rest := by
    obtain ⟨c, hc, hblank⟩ := h
    obtain ⟨s, rfl⟩ := List.head?_eq_some_iff.mp hc
    exact List.dropWhile_cons_of_neg (by simp [hblank])
  have hend := hdrop [] (s := t.reverse) (by rwa [List.head?_reverse])
  rw [List.append_nil] at hend
  rw [trim, trimWhile, trimEndWhile,
    List.dropWhile_append_of_pos (List.all_eq_true.mp hbefore), hdrop after hfirst,
    List.reverse_append, List.dropWhile_append_of_pos, hend, List.reverse_reverse]
  exact fun c hc => List.all_eq_true.mp hafter c (List.mem_reverse.mp hc)

/-- What trimming leaves stands in the text. -/
theorem trim_isInfix (t : Text) : trim t <:+: t := by
  rw [trim, trimWhile, trimEndWhile_eq_rdropWhile]
  have hend := List.rdropWhile_prefix (p := Character.isBlank) (t.dropWhile Character.isBlank)
  exact hend.isInfix.trans (List.dropWhile_suffix _).isInfix

end Text

/-! ## Reports -/

namespace Terminal

/-- A value makes a report exactly if it is an object with a truth value under `ok`. -/
theorem ofValue?_eq_some_iff {v : Json.Value} {t : Terminal} :
    ofValue? v = some t ↔ v = .object t.entries ∧
      Json.Entries.get? "ok" t.entries = some (.bool t.ok) := by
  constructor
  · intro h
    unfold ofValue? at h
    split at h
    · split at h
      · next hok =>
        obtain rfl := Option.some.inj h
        exact ⟨rfl, hok⟩
      · cases h
    · cases h
  · rintro ⟨rfl, hok⟩
    rw [ofValue?, hok]

/-- A line in braces makes the report of the document that it is. -/
theorem ofLine_of_braces {line : Text} {t : Terminal}
    (hfirst : (Text.trim line).head? = some (.scalar '{'))
    (hlast : (Text.trim line).getLast? = some (.scalar '}')) :
    ofLine line = .ok (some t) ↔
      Json.IsDocument Json.nestingLimit (Text.trim line) (.object t.entries) ∧
      Json.Entries.get? "ok" t.entries = some (.bool t.ok) := by
  rw [ofLine, if_pos ⟨hfirst, hlast⟩, ← Json.read_eq_ok_iff]
  cases Json.read Json.nestingLimit (Text.trim line) with
  | ok v => simp [ofValue?_eq_some_iff]
  | error e =>
    dsimp only
    split <;> simp

/-- A line makes a report exactly if it is an object whose last member `ok` is a truth value, blanks
around it apart. -/
theorem ofLine_eq_iff {line : Text} {t : Terminal} :
    ofLine line = .ok (some t) ↔
      (Text.trim line).head? = some (.scalar '{') ∧ (Text.trim line).getLast? = some (.scalar '}') ∧
        ∃ ms, Json.IsObject (Json.nestingLimit - 1) (Text.trim line) ms ∧
          t.entries = Json.Entries.insertAll [] ms ∧
          (ms.reverse.find? fun member => member.1 = ("ok" : Text)).map Prod.snd =
            some (.bool t.ok) := by
  by_cases hbraces : (Text.trim line).head? = some (.scalar '{') ∧
      (Text.trim line).getLast? = some (.scalar '}')
  · obtain ⟨hfirst, hlast⟩ := hbraces
    -- The braces are no white space, so that the object is all there is.
    have hobject : Json.IsDocument Json.nestingLimit (Text.trim line) (.object t.entries) ↔
        ∃ ms, Json.IsObject (Json.nestingLimit - 1) (Text.trim line) ms ∧
          t.entries = Json.Entries.insertAll [] ms := by
      refine (Json.isDocument_iff_spells ?_ ?_).trans Json.spells_object_iff
      · rw [hfirst]
        rintro c ⟨⟩
        rfl
      · rw [hlast]
        rintro c ⟨⟩
        rfl
    rw [ofLine_of_braces hfirst hlast, hobject]
    constructor
    · rintro ⟨⟨ms, hms, hentries⟩, hok⟩
      rw [hentries, Json.Entries.get?_insertAll, Json.Entries.get?, Option.or_none] at hok
      exact ⟨hfirst, hlast, ms, hms, hentries, hok⟩
    · rintro ⟨-, -, ms, hms, hentries, hok⟩
      refine ⟨⟨ms, hms, hentries⟩, ?_⟩
      rw [hentries, Json.Entries.get?_insertAll, hok, Option.some_or]
  · have hnone : ofLine line = .ok none := if_neg hbraces
    refine iff_of_false ?_ fun h => hbraces ⟨h.1, h.2.1⟩
    rw [hnone]
    simp

/-- A line is too deep to be read only if more containers begin in it than may stand inside each
other. -/
theorem openings_of_ofLine {line : Text} {e : Json.TooDeep} (h : ofLine line = .error e) :
    Json.nestingLimit < Json.openings line := by
  unfold ofLine at h
  extract_lets t at h
  split at h
  · split at h
    · cases h
    · next error hread =>
      split at h
      · next d hd =>
        exact Nat.lt_of_lt_of_le (Json.openings_of_read hread hd)
          (Json.openings_mono (Text.trim_isInfix line))
      · cases h
  · cases h

/-- A written object with a truth value under `ok` makes its report, whatever blanks stand around
it. -/
theorem ofLine_written {before after : Text} (hbefore : Text.isBlank before = true)
    (hafter : Text.isBlank after = true) {es : Json.Entries} {ok : Bool} (hkeys : es.keys.Nodup)
    (h : ∀ e ∈ es, Json.IsWritten .line 1 (Json.nestingLimit - 1) e)
    (hok : Json.Entries.get? "ok" es = some (.bool ok)) :
    ofLine (before ++ (Json.write .line (.object es) ++ after)) = .ok (some ⟨ok, es⟩) := by
  obtain ⟨t, ht⟩ := Json.exists_write_object_eq .line es
  have hfirst : (Json.write .line (.object es)).head? = some (.scalar '{') := by
    rw [ht]
    rfl
  have hlast : (Json.write .line (.object es)).getLast? = some (.scalar '}') := by
    rw [ht, Json.enclosed, ← List.cons_append, List.getLast?_concat]
  have htrim : Text.trim (before ++ (Json.write .line (.object es) ++ after)) =
      Json.write .line (.object es) := by
    refine Text.trim_between hbefore hafter ?_ ?_
    · rw [hfirst]
      exact ⟨_, rfl, by decide⟩
    · rw [hlast]
      exact ⟨_, rfl, by decide⟩
  refine (ofLine_of_braces ?_ ?_).mpr ⟨?_, hok⟩
  · rw [htrim, hfirst]
  · rw [htrim, hlast]
  · rw [htrim]
    exact Json.isDocument_write_object .line hkeys h

/-- The line that reports a truth value and a text under some key. -/
def reportLine (ok : Bool) (key : String) (cs : List Char) : Text :=
  Json.write .line (.object [("ok", .bool ok), (key, .string (.ofChars cs))])

/-- A report of scalar values is made as it was written. -/
theorem ofLine_reportLine {before after : Text} (hbefore : Text.isBlank before = true)
    (hafter : Text.isBlank after = true) (ok : Bool) {key : String}
    (hkey : ("ok" : Text) ≠ (key : Text)) (cs : List Char) :
    ofLine (before ++ (reportLine ok key cs ++ after)) =
      .ok (some ⟨ok, [("ok", .bool ok), (key, .string (.ofChars cs))]⟩) := by
  have hbool : Json.Spells (Json.nestingLimit - 1) (Json.writeAt .line 1 (.bool ok))
      (.value (.bool ok)) := by
    cases ok with
    | true => exact .word (by simp [Json.words, Json.writeAt])
    | false => exact .word (by simp [Json.words, Json.writeAt])
  refine ofLine_written hbefore hafter ?_ ?_ rfl
  · simpa [Json.Entries.keys] using hkey
  · intro e he
    rcases List.mem_cons.mp he with rfl | he
    · exact ⟨⟨_, rfl⟩, hbool⟩
    · rw [List.mem_singleton.mp he]
      exact ⟨⟨_, rfl⟩, Json.spells_writeString rfl _⟩

/-- The report of a product is a success with its place, unless the place is empty. -/
theorem outcome_jar (cs : List Char) :
    outcome ⟨true, [("ok", .bool true), ("jar", .string (.ofChars cs))]⟩ =
      .success (if cs = [] then none else some (.ofChars cs)) := by
  cases cs with
  | nil => rfl
  | cons c cs => rfl

/-- The report of a failure is a failure with its message, unless the message is blank. -/
theorem outcome_message (cs : List Char) :
    outcome ⟨false, [("ok", .bool false), ("message", .string (.ofChars cs))]⟩ =
      .failure (Reason.ofText (.ofChars cs) .unexplained) := rfl

/-- What a line reports, if it can be read and makes a report. -/
def report? (line : Text) : Option Terminal :=
  (ofLine line).toOption.join

theorem report?_of_ok {line : Text} {found? : Option Terminal} (h : ofLine line = .ok found?) :
    report? line = found? := by
  rw [report?, h]
  rfl

/-- A line that can be read reports what it reports. -/
theorem ofLine_of_isOk {line : Text} (h : (ofLine line).isOk = true) :
    ofLine line = .ok (report? line) := by
  cases hread : ofLine line with
  | ok found? => rw [report?_of_ok hread]
  | error e =>
    rw [hread] at h
    cases h

end Terminal

/-! ## Streams -/

namespace LineStream

variable {σ Fault Refusal : Type}

/-- What a stream comes to if all its lines can be read: the receiver has each of them once and in
order, and the last report decides. -/
theorem fold_of_allRead {receive : Receiver σ Refusal}
    (hreceive : ∀ s line, (receive s line).2 = none) {stream : LineStream Fault}
    {found : List (Option Terminal)} (hread : AllRead stream.lines found) (s : σ) :
    (stream.fold receive s).1 = received receive s stream.lines ∧
      (∀ fault, stream.cut = some fault → (stream.fold receive s).2 = .error (.cut fault)) ∧
      (stream.cut = none → (stream.fold receive s).2 = .ok (.ofTerminal (lastReport? found))) := by
  have hall := foldFrom_append hreceive stream.cut none s hread []
  rw [List.append_nil, Option.or_none] at hall
  rw [fold, hall]
  cases stream.cut with
  | none => exact ⟨rfl, fun _ h => (nomatch h), fun _ => rfl⟩
  | some fault => exact ⟨rfl, fun _ h => by rw [Option.some.inj h]; rfl, fun h => (nomatch h)⟩

/-- Lines that can be read, and what each of them reports. -/
theorem allRead_map_report? {lines : List Text}
    (hdeep : ∀ line ∈ lines, ∀ e, Terminal.ofLine line ≠ .error e) :
    AllRead lines (lines.map Terminal.report?) := by
  rw [AllRead, List.forall₂_map_right_iff, List.forall₂_same]
  intro line hline
  cases hread : Terminal.ofLine line with
  | ok found? => rw [Terminal.report?_of_ok hread]
  | error e => exact absurd hread (hdeep line hline e)

theorem lastReport?_map (lines : List Text) :
    lastReport? (lines.map Terminal.report?) = (lines.filterMap Terminal.report?).getLast? := by
  rw [lastReport?, List.filterMap_map]
  rfl

theorem filterMap_report?_eq_nil {lines : List Text}
    (h : ∀ line ∈ lines, Terminal.ofLine line = .ok none) :
    lines.filterMap Terminal.report? = [] :=
  List.filterMap_eq_nil_iff.mpr fun line hline => Terminal.report?_of_ok (h line hline)

/-- The lines that make no report play no part in the last one. -/
theorem filterMap_report?_filter (lines : List Text) :
    (lines.filter fun line => (Terminal.report? line).isSome).filterMap Terminal.report? =
      lines.filterMap Terminal.report? := by
  rw [List.filterMap_filter]
  refine List.filterMap_congr fun line _ => ?_
  cases Terminal.report? line <;> rfl

/-- The lines of a stream, none of which is too deep to be read, go to the receiver, each once and
in order, even if the stream is cut off behind them. The last line that makes a report decides the
outcome, and no other line plays a part in it. A line makes a report exactly if it is an object in
braces whose last member `ok` is a truth value, blanks around it apart; so do the written lines for
a product and for a failure, whatever scalar values their texts hold. Only a line in which more
containers begin than may stand inside each other can be too deep. -/
theorem fold_terminal_lines {receive : Receiver σ Refusal}
    (hreceive : ∀ s line, (receive s line).2 = none) (stream : LineStream Fault)
    (hdeep : ∀ line ∈ stream.lines, ∀ e, Terminal.ofLine line ≠ .error e) (s : σ) :
    ((stream.fold receive s).1 = received receive s stream.lines ∧
      (stream.fold (fun told line => (told ++ [line], (none : Option Refusal))) []).1 =
        stream.lines) ∧
    (∀ fault, stream.cut = some fault → (stream.fold receive s).2 = .error (.cut fault)) ∧
    (stream.cut = none →
      ((∀ line ∈ stream.lines, Terminal.ofLine line = .ok none) →
        (stream.fold receive s).2 = .ok (.failure .noResult)) ∧
      (∀ before line after t, stream.lines = before ++ line :: after →
        Terminal.ofLine line = .ok (some t) → (∀ line ∈ after, Terminal.ofLine line = .ok none) →
        (stream.fold receive s).2 = .ok t.outcome) ∧
      ∀ stream' : LineStream Fault, stream'.cut = none →
        (∀ line ∈ stream'.lines, ∀ e, Terminal.ofLine line ≠ .error e) →
        (stream'.lines.filter fun line => (Terminal.report? line).isSome) =
          (stream.lines.filter fun line => (Terminal.report? line).isSome) →
        (stream'.fold receive s).2 = (stream.fold receive s).2) ∧
    (∀ line t, Terminal.ofLine line = .ok (some t) ↔
      (Text.trim line).head? = some (.scalar '{') ∧ (Text.trim line).getLast? = some (.scalar '}') ∧
        ∃ ms, Json.IsObject (Json.nestingLimit - 1) (Text.trim line) ms ∧
          t.entries = Json.Entries.insertAll [] ms ∧
          (ms.reverse.find? fun member => member.1 = ("ok" : Text)).map Prod.snd =
            some (.bool t.ok)) ∧
    (∀ line e, Terminal.ofLine line = .error e → Json.nestingLimit < Json.openings line) ∧
    ∀ before after cs, Text.isBlank before = true → Text.isBlank after = true →
      (∃ t,
        Terminal.ofLine (before ++ (Terminal.reportLine true "jar" cs ++ after)) = .ok (some t) ∧
        t.outcome = .success (if cs = [] then none else some (.ofChars cs))) ∧
      ∃ t reason,
        Terminal.ofLine (before ++ (Terminal.reportLine false "message" cs ++ after)) =
          .ok (some t) ∧ t.outcome = .failure reason ∧
        (Text.isBlank (.ofChars cs) = true → reason = .unexplained) ∧
        (Text.isBlank (.ofChars cs) = false → reason.text = .ofChars cs) := by
  have hread := allRead_map_report? hdeep
  obtain ⟨hreceived, hcut, hcomplete⟩ := fold_of_allRead hreceive hread s
  refine ⟨⟨hreceived, ?_⟩, hcut, fun hnone => ⟨fun hlines => ?_, ?_, ?_⟩, ?_, ?_, ?_⟩
  · -- Every line comes to the receiver.
    rw [(fold_of_allRead (fun _ _ => rfl) hread []).1, received_record, List.nil_append]
  · -- Without a report, there is no result.
    rw [hcomplete hnone, lastReport?_map, filterMap_report?_eq_nil hlines]
    rfl
  · -- With reports, the last one counts.
    intro before line after t hlines hline hafter
    rw [hcomplete hnone, lastReport?_map, hlines, List.filterMap_append, List.filterMap_cons,
      Terminal.report?_of_ok hline, filterMap_report?_eq_nil hafter]
    simp [Outcome.ofTerminal]
  · -- The last report is one of the lines that make any, which are the same on both sides.
    intro stream' hnone' hdeep' hsame
    obtain ⟨-, -, hcomplete'⟩ := fold_of_allRead hreceive (allRead_map_report? hdeep') s
    rw [hcomplete hnone, hcomplete' hnone', lastReport?_map, lastReport?_map,
      ← filterMap_report?_filter stream'.lines, hsame, filterMap_report?_filter]
  · exact fun line t => Terminal.ofLine_eq_iff
  · exact fun line e => Terminal.openings_of_ofLine
  · intro before after cs hbefore hafter
    refine ⟨⟨_, Terminal.ofLine_reportLine hbefore hafter true (by decide) cs,
      Terminal.outcome_jar cs⟩, _, _,
      Terminal.ofLine_reportLine hbefore hafter false (by decide) cs, Terminal.outcome_message cs,
      fun h => Reason.ofText_of_isBlank h _, fun h => Reason.text_ofText h _⟩

/-- The report of a product between two lines that are none, the last of which is in braces. -/
theorem fold_terminal_lines_product :
    let stream : LineStream Unit :=
      ⟨["compiling", Terminal.reportLine true "jar" "a.jar".toList, "{done}"], none⟩
    let record : Receiver (List Text) Unit := fun told line => (told ++ [line], none)
    (stream.fold record []).1 = stream.lines ∧
      (stream.fold record []).2 = .ok (.success (some "a.jar")) := by
  intro stream record
  have hread : ∀ line ∈ stream.lines, Terminal.ofLine line = .ok (Terminal.report? line) := by
    have hok : ∀ line ∈ stream.lines, (Terminal.ofLine line).isOk = true := by decide +kernel
    exact fun line hline => Terminal.ofLine_of_isOk (hok line hline)
  have hreceive : ∀ told line, (record told line).2 = none := fun _ _ => rfl
  obtain ⟨⟨-, htold⟩, -, houtcome, -, -, hreports⟩ := fold_terminal_lines hreceive stream
    (fun line hline e he => nomatch (hread line hline).symm.trans he) []
  obtain ⟨⟨t, ht, hproduct⟩, -⟩ := hreports [] [] "a.jar".toList rfl rfl
  rw [List.nil_append, List.append_nil] at ht
  refine ⟨htold, ?_⟩
  rw [(houtcome rfl).2.1 ["compiling"] _ ["{done}"] t rfl ht ?_, hproduct]
  · rfl
  · intro line hline
    rw [List.mem_singleton.mp hline, hread _ (by simp [stream])]
    have hnone : (Terminal.report? "{done}").isNone = true := by decide +kernel
    rw [Option.isNone_iff_eq_none.mp hnone]

end LineStream

end SourceEditor

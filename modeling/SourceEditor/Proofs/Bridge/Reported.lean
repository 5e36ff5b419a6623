import SourceEditor.Bridge.Worker
import SourceEditor.Proofs.Compile.Delivery
import SourceEditor.Proofs.Text.Trimming

/-!
# What a compilation reports

Whatever a bridge does with a compile request, the lines of its reply are handed on in order, and
behind them comes one outcome. Only a reply that arrives as a whole decides about success.

* `Bridge.Fault.Tells`: the words that a fault is reported with.
* `Bridge.Reply.Reports`: the lines and the outcome that a reply is reported with.
* `Bridge.runCompilation_reports`: a compilation reports what its reply does.
-/

namespace SourceEditor.Bridge

/-- The kind of a fault is a name: it has something to read, and no blanks around it. -/
def Fault.IsNamed (f : Fault) : Prop :=
  Text.isBlank f.kind = false ∧ Text.trim f.kind = f.kind

/-- The words that a fault is reported with. -/
inductive Fault.Tells (f : Fault) : Text → Prop
  | words (hwords : Text.isBlank f.text = false) : Tells f (Text.trim f.text)
  | kind (hwords : f.text = []) : Tells f f.kind
  /-- Of an unexpected fault with nothing but blanks to say the kind is told, too. -/
  | unexpected (hfault : f.isExpected = false) (hwords : Text.isBlank f.text = true) :
      Tells f f.kind
  | nothing (hfault : f.isExpected = true) (hne : f.text ≠ [])
      (hwords : Text.isBlank f.text = true) : Tells f "Compilation failed"

/-- The lines and the outcome that the reply to a compile request is reported with. -/
inductive Reply.Reports (r : Reply) : List Text → Outcome → Prop
  | unopened {fault : Fault} {reason : Reason} (hopening : r.opening = some fault)
      (hreason : fault.Tells reason.text) : Reports r [] (.failure reason)
  /-- A status that tells no success, with a body that says why. -/
  | rejected {reason : Reason} (hopening : r.opening = none)
      (hstatus : ¬ (200 ≤ r.status ∧ r.status ≤ 299)) (hreading : r.reading = none)
      (hbody : Text.isBlank (Utf8.decodeLossy r.body) = false)
      (hreason : reason.text = Text.trim (Utf8.decodeLossy r.body)) :
      Reports r [] (.failure reason)
  /-- A status that tells no success, with a body that cannot be read or says nothing. -/
  | refused {reason : Reason} (hopening : r.opening = none)
      (hstatus : ¬ (200 ≤ r.status ∧ r.status ≤ 299))
      (hbody : r.reading ≠ none ∨ Text.isBlank (Utf8.decodeLossy r.body) = true)
      (hreason : reason.text =
        Text.trim ("HTTP Error " ++ Numeral.ofInt r.status ++ ": " ++ r.reason)) :
      Reports r [] (.failure reason)
  /-- The lines of the body came to their end. -/
  | complete {found : List (Option Terminal)} (hopening : r.opening = none)
      (hstatus : 200 ≤ r.status ∧ r.status ≤ 299)
      (hread : LineStream.AllRead (bodyLines r.body) found) (hreading : r.reading = none) :
      Reports r (bodyLines r.body) (.ofTerminal (LineStream.lastReport? found))
  /-- A fault came up behind the lines, whatever these said. -/
  | cut {found : List (Option Terminal)} {fault : Fault} {reason : Reason}
      (hopening : r.opening = none) (hstatus : 200 ≤ r.status ∧ r.status ≤ 299)
      (hread : LineStream.AllRead (bodyLines r.body) found) (hreading : r.reading = some fault)
      (hreason : fault.Tells reason.text) : Reports r (bodyLines r.body) (.failure reason)
  /-- A line was too deep to be read. -/
  | tooDeep {before after : List Text} {line : Text} {found : List (Option Terminal)}
      {e : Json.TooDeep} {reason : Reason} (hopening : r.opening = none)
      (hstatus : 200 ≤ r.status ∧ r.status ≤ 299)
      (hlines : bodyLines r.body = before ++ line :: after)
      (hread : LineStream.AllRead before found) (hline : Terminal.ofLine line = .error e)
      (hreason : reason.text = Text.trim e.message) :
      Reports r (before ++ [line]) (.failure reason)

/-! ## Reasons -/

/-- A text with something to read is its own reason, without the blanks around it. -/
theorem text_ofText_trim {t : Text} (h : Text.isBlank t = false) (otherwise : Reason) :
    (Reason.ofText (Text.trim t) otherwise).text = Text.trim t :=
  Reason.text_ofText (by rw [Text.isBlank_trim, h]) otherwise

/-- A blank text says nothing, also without the blanks around it. -/
theorem ofText_trim_of_isBlank {t : Text} (h : Text.isBlank t = true) (otherwise : Reason) :
    Reason.ofText (Text.trim t) otherwise = otherwise :=
  Reason.ofText_of_isBlank (by rw [Text.isBlank_trim, h]) otherwise

/-- What is said of a fault is what is asked for. -/
theorem tells_compileFault {f : Fault} (hnamed : f.IsNamed) :
    f.Tells (Client.compileFault f).reason.text := by
  obtain ⟨hkind, htrim⟩ := hnamed
  unfold Client.compileFault
  cases hwords : Text.isBlank f.text with
  | false =>
    -- The words are the reason, whatever the fault.
    have hne : f.text.isEmpty = false := by
      cases htext : f.text with
      | nil => simp [htext, Text.isBlank] at hwords
      | cons => rfl
    have hreason (otherwise : Reason) :
        f.Tells (Reason.ofText (Text.trim f.text) otherwise).text := by
      rw [text_ofText_trim hwords]
      exact .words hwords
    rw [hne]
    cases f.isExpected
    · exact hreason _
    · exact hreason _
  | true =>
    cases hfault : f.isExpected with
    | false =>
      have hreason : (CompileError.unexpected f).reason.text = f.kind := by
        rw [CompileError.reason, ofText_trim_of_isBlank hwords, Reason.text_ofText hkind]
      rw [if_neg Bool.false_ne_true, hreason]
      exact .unexpected hfault hwords
    | true =>
      rw [if_pos rfl]
      cases htext : f.text with
      | nil =>
        have hreason : (CompileError.transport f.kind).reason.text = f.kind := by
          rw [CompileError.reason, text_ofText_trim hkind, htrim]
        rw [List.isEmpty_nil, if_pos rfl, hreason]
        exact .kind htext
      | cons c rest =>
        -- Nothing but blanks: not even the kind is told.
        rw [htext] at hwords
        rw [List.isEmpty_cons, if_neg Bool.false_ne_true, CompileError.reason,
          ofText_trim_of_isBlank hwords]
        exact .nothing hfault (by simp [htext]) (by rw [htext, hwords])

/-- What is said of a status says something. -/
theorem isBlank_statusMessage (r : Reply) : Text.isBlank r.statusMessage = false := by
  have hbegin : Text.isBlank ("HTTP Error " : Text) = false := by decide
  simp only [Reply.statusMessage, Text.isBlank_append, hbegin, Bool.false_and]

/-- So does what is said of a document that is too deep. -/
theorem isBlank_message (e : Json.TooDeep) : Text.isBlank e.message = false := by
  have hbegin :
      Text.isBlank ("maximum recursion depth exceeded while decoding a JSON " : Text) = false := by
    decide
  simp only [Json.TooDeep.message, Text.isBlank_append, hbegin, Bool.false_and]

/-- A status that tells no success is reported with the body, or else with its own words. -/
theorem exists_reports_of_rejected {r : Reply} (hopening : r.opening = none)
    (hstatus : ¬ (200 ≤ r.status ∧ r.status ≤ 299)) :
    r.Reports [] (.failure (CompileError.transport (Client.rejectionText r)).reason) := by
  -- In silence, what is said of the status is the reason.
  have hsilent (hbody : r.reading ≠ none ∨ Text.isBlank (Utf8.decodeLossy r.body) = true)
      (htext : Client.rejectionText r = r.statusMessage) :
      r.Reports [] (.failure (CompileError.transport (Client.rejectionText r)).reason) := by
    refine .refused hopening hstatus hbody ?_
    rw [htext, CompileError.reason, text_ofText_trim (isBlank_statusMessage r)]
    rfl
  cases hreading : r.reading with
  | some fault =>
    refine hsilent (Or.inl (by simp [hreading])) ?_
    simp only [Client.rejectionText, hreading]
    rfl
  | none =>
    cases hbody : Text.isBlank (Utf8.decodeLossy r.body) with
    | true =>
      refine hsilent (Or.inr hbody) ?_
      simp only [Client.rejectionText, hreading, Text.trim_eq_nil_iff.mpr hbody]
      rfl
    | false =>
      have htext : Client.rejectionText r = Text.trim (Utf8.decodeLossy r.body) := by
        have hne : Text.trim (Utf8.decodeLossy r.body) ≠ [] := by
          simp [Text.trim_eq_nil_iff, hbody]
        simp only [Client.rejectionText, hreading, List.isEmpty_eq_false_iff.mpr hne]
        rfl
      refine .rejected hopening hstatus hreading hbody ?_
      rw [htext, CompileError.reason, text_ofText_trim (by rw [Text.isBlank_trim, hbody]),
        Text.trim_trim]

/-! ## Compilations -/

variable {σ : Type}

/-- Lines that are passed on as signals are told in their order. -/
theorem received_signals (told : List Signal) (lines : List Text) :
    LineStream.received
        (fun told text => (told ++ [Signal.line text], (none : Option Refusal))) told lines =
      told ++ lines.map Signal.line := by
  induction lines generalizing told with
  | nil => exact (List.append_nil told).symm
  | cons line lines ih => exact (ih _).trans (List.append_assoc told [.line line] _)

/-- What every receiver that takes all lines is handed from a reply, and what is reported of it. -/
theorem outcomeOfReply_reports {r : Reply}
    (hnamed : ∀ fault, r.opening = some fault ∨ r.reading = some fault → fault.IsNamed) :
    ∃ lines result, r.Reports lines (reportedOutcome result) ∧
      ∀ {σ : Type} {receive : Receiver σ Refusal}, (∀ s line, (receive s line).2 = none) →
        ∀ s, Client.outcomeOfReply receive s r = (LineStream.received receive s lines, result) := by
  unfold Client.outcomeOfReply
  cases hopening : r.opening with
  | some fault =>
    exact ⟨[], .error (Client.compileFault fault),
      .unopened hopening (tells_compileFault (hnamed fault (Or.inl hopening))), fun _ _ => rfl⟩
  | none =>
    by_cases hstatus : 200 ≤ r.status ∧ r.status ≤ 299
    · have hsuccess : r.isSuccess = true := by simpa [Reply.isSuccess] using hstatus
      obtain ⟨lines, result, hdelivers, hfold⟩ := LineStream.fold_delivers Refusal r.stream
      rw [hsuccess]
      refine ⟨lines, _, ?_, fun hreceive s => by rw [if_pos rfl, hfold hreceive]⟩
      cases hdelivers with
      | complete hread hcut => exact .complete hopening hstatus hread hcut
      | cut hread hcut =>
        exact .cut hopening hstatus hread hcut (tells_compileFault (hnamed _ (Or.inr hcut)))
      | tooDeep hlines hread hline =>
        exact .tooDeep hopening hstatus hlines hread hline
          (text_ofText_trim (isBlank_message _) .unexplained)
    · have hsuccess : r.isSuccess = false := by
        simpa [Reply.isSuccess, -not_and, Bool.eq_false_iff] using hstatus
      rw [hsuccess]
      exact ⟨[], .error (.transport (Client.rejectionText r)),
        exists_reports_of_rejected hopening hstatus, fun _ _ => rfl⟩

/-- Whatever comes back for a compile request, the receiver gets the lines that arrived, in order
and before anything else is known, and one outcome is reported behind them: that of the last
terminal line if the reply arrived as a whole, and otherwise a failure, whatever its lines said.
A failure always says something. The signals of the worker are just these: one for each of the
lines, and behind them one that it has finished, with the outcome. -/
theorem runCompilation_reports (c : Client) (filename code : Text) {receive : Receiver σ Refusal}
    (hreceive : ∀ s line, (receive s line).2 = none) (s : σ) (t : Transport)
    (hnamed : ∀ fault, (t.send (c.compileRequest filename code)).1.opening = some fault ∨
      (t.send (c.compileRequest filename code)).1.reading = some fault → fault.IsNamed) :
    ∃ lines outcome, (t.send (c.compileRequest filename code)).1.Reports lines outcome ∧
      (∀ reason, outcome = .failure reason → Text.isBlank reason.text = false) ∧
      runCompilation c filename code receive s t =
        (lines.foldl (fun s line => (receive s line).1) s, outcome,
          (t.send (c.compileRequest filename code)).2) ∧
      (Worker.compilation filename code).signals c t =
        (lines.map Signal.line ++ [.finished outcome],
          (t.send (c.compileRequest filename code)).2) := by
  obtain ⟨lines, result, hreports, hall⟩ := outcomeOfReply_reports hnamed
  have hrun {σ : Type} {receive : Receiver σ Refusal}
      (hreceive : ∀ s line, (receive s line).2 = none) (s : σ) :
      runCompilation c filename code receive s t =
        (LineStream.received receive s lines, reportedOutcome result,
          (t.send (c.compileRequest filename code)).2) := by
    simp only [runCompilation, Client.compile, hall hreceive s]
  refine ⟨lines, _, hreports, fun reason _ => reason.isBlank_eq_false, hrun hreceive s, ?_⟩
  -- The worker tells of the outcome behind the lines that it passed on.
  let told : Receiver (List Signal) Refusal := fun told text => (told ++ [.line text], none)
  have htold := hrun (show ∀ s line, (told s line).2 = none from fun _ _ => rfl) []
  simp only [Worker.signals, Worker.run, htold, told, received_signals, List.nil_append]

/-- A reply that is cut off behind a line that told of a success. The fault has no words, so that
its kind is the reason. -/
theorem runCompilation_reports_cut :
    let reply : Reply :=
      { body := Utf8.encode "Compiling...\n\x7b\"ok\": true\x7d\n"
        reading := some (.transport "OSError" []) }
    let record : Receiver (List Text) Refusal := fun told line => (told ++ [line], none)
    let told := runCompilation {} "Main.kt" "x" record [] ⟨[reply], []⟩
    reply.Reports told.1 told.2.1 ∧
      told.1 = Text.ofStrings ["Compiling...", "\x7b\"ok\": true\x7d"] ∧
      told.2.1 = .failure ⟨"OSError", by decide⟩ := by
  intro reply record told
  have hnamed : ∀ fault, reply.opening = some fault ∨ reply.reading = some fault →
      fault.IsNamed := by
    rintro fault (h | h)
    · have hnone : (none : Option Fault) = some fault := h
      cases hnone
    · obtain rfl := Option.some.inj h
      exact ⟨by decide, by decide⟩
  obtain ⟨lines, outcome, hreports, -, hrun, -⟩ := runCompilation_reports {} "Main.kt" "x"
    (fun _ _ => rfl : ∀ s line, (record s line).2 = none) [] ⟨[reply], []⟩ hnamed
  refine ⟨?_, by decide +kernel, by decide +kernel⟩
  unfold told
  rw [hrun]
  dsimp only
  rw [← LineStream.received, LineStream.received_record]
  exact hreports

end SourceEditor.Bridge

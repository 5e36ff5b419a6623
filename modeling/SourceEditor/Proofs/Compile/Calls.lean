import SourceEditor.Compile.Session

/-!
# Runs of a session

The calls that a session may get, in any order, and everything that one of them can do.

* `Session.Call`: a call; `Session.Trace.run`: a session after some calls, with its events.
* `Session.Transition`: from a session, through some events, to another session.
* `Session.Call.transition`: every call is a transition. What holds of transitions holds of runs, by
  `Session.Trace.run_induction`.
-/

namespace SourceEditor.Session

/-- Something that happens to a session. Calls come in any order, also when they are late. -/
inductive Call
  | beginConnect
  | healthOk
  | healthFailed (reason : Text)
  | beginCompile
  | compileLine (line : Text)
  | compileFinished (outcome : Outcome)
  deriving DecidableEq, Repr

/-- What a session does on a call. -/
def Call.respond : Call → Session → Response
  | .beginConnect, s => s.beginConnect.2
  | .healthOk, s => s.healthOk
  | .healthFailed reason, s => s.healthFailed reason
  | .beginCompile, s => s.beginCompile.2
  | .compileLine line, s => s.compileLine line
  | .compileFinished outcome, s => s.compileFinished (.done outcome)

/-- A new session after some calls, with all its events. A call that breaks off leaves behind what
it did by then, and the run goes on. -/
def Trace.run (calls : List Call) : Trace :=
  calls.foldl (fun t c => (t.call c.respond).1) {}

/-! ## Error lines -/

theorem mem_insertLine {n m : Nat} {lines : List Nat} :
    m ∈ insertLine n lines ↔ m = n ∨ m ∈ lines := by
  fun_induction insertLine n lines with
  | case1 => simp
  | case2 k rest h => simp
  | case3 k rest h ih => simp only [List.mem_cons, ih]; exact or_left_comm

/-- A new number keeps the error lines strictly increasing. -/
theorem pairwise_insertLine {n : Nat} {lines : List Nat} (h : lines.Pairwise (· < ·))
    (hnew : n ∉ lines) : (insertLine n lines).Pairwise (· < ·) := by
  fun_induction insertLine n lines with
  | case1 => simp
  | case2 k rest hlt =>
    refine List.pairwise_cons.mpr ⟨fun m hm => ?_, h⟩
    rcases List.mem_cons.mp hm with rfl | hm
    · exact hlt
    · exact Nat.lt_trans hlt (List.rel_of_pairwise_cons h hm)
  | case3 k rest hle ih =>
    obtain ⟨hk, hrest⟩ := List.pairwise_cons.mp h
    obtain ⟨hne, hnew⟩ := not_or.mp (mt List.mem_cons.mpr hnew)
    refine List.pairwise_cons.mpr ⟨fun m hm => ?_, ih hrest hnew⟩
    -- The new number is not less than the first one, and not equal to it.
    rcases mem_insertLine.mp hm with rfl | hm
    · omega
    · exact hk m hm

/-! ## Transitions -/

/-- The announcement of the connection, if it is news. -/
def connectionNews (s : Session) (connected : Bool) : List Event :=
  if connected = s.connected then [] else [.connection connected]

/-- The announcement that the errors are gone, if there were any. -/
def clearedNews (s : Session) : List Event :=
  if s.errorLines.isEmpty then [] else [.diagnostics []]

/-- Where the product of a compilation is after an outcome: only a success says so. -/
def artifactAfter (s : Session) : Outcome → Option Text
  | .success artifact => artifact
  | .failure _ => s.artifact

/-- Everything that one call can do to a session, with the events that announce it. -/
inductive Transition (s : Session) : List Event → Session → Prop
  /-- The call comes at the wrong time. -/
  | stay : Transition s [] s
  | connecting (hfree : s.state.isBusy = false) :
      Transition s [.state .connecting] { s with state := .connecting }
  | connected (hstate : s.state = .connecting) :
      Transition s (s.connectionNews true ++ [.state .idle])
        { s with connected := true, state := .idle }
  | unreachable (hstate : s.state = .connecting) (reason : Reason) :
      Transition s (s.connectionNews false ++ [.state (.done (.failure reason))])
        { s with connected := false, state := .done (.failure reason) }
  /-- The connection is lost, but the call breaks off before there is a failure. -/
  | lost (hstate : s.state = .connecting) :
      Transition s (s.connectionNews false) { s with connected := false }
  /-- A compilation without a connection fails at once. -/
  | notConnected (hfree : s.state.isBusy = false) (hconnected : s.connected = false) :
      Transition s [.state (.done (.failure .notConnected))]
        { s with state := .done (.failure .notConnected) }
  | compiling (hfree : s.state.isBusy = false) (hconnected : s.connected = true) :
      Transition s (s.clearedNews ++ [.state .compiling])
        { s with log := #[], artifact := none, errorLines := [], state := .compiling }
  /-- A line is logged that names no line with an error, or one that is known. -/
  | line (hstate : s.state = .compiling) (t : Text)
      (hknown : ∀ n, Diagnostic.line? t = .ok (some n) → n ∈ s.errorLines) :
      Transition s [.line t] { s with log := s.log.push t }
  | diagnostic (hstate : s.state = .compiling) (t : Text) (n : Nat)
      (hline : Diagnostic.line? t = .ok (some n)) (hnew : n ∉ s.errorLines) :
      Transition s [.line t, .diagnostics (insertLine n s.errorLines)]
        { s with log := s.log.push t, errorLines := insertLine n s.errorLines }
  | finished (hstate : s.state = .compiling) (outcome : Outcome) :
      Transition s [.state (.done outcome)]
        { s with state := .done outcome, artifact := s.artifactAfter outcome }

/-- Taking note of the connection changes nothing else, never breaks off, and announces the
connection if it is news. -/
theorem setConnected_eq (connected : Bool) (s : Session) :
    (s.setConnected connected).session = { s with connected } ∧
      (s.setConnected connected).events = s.connectionNews connected ∧
      (s.setConnected connected).refusal = none := by
  unfold setConnected connectionNews
  split
  · next h => subst h; exact ⟨rfl, rfl, rfl⟩
  · exact ⟨rfl, rfl, rfl⟩

/-- What follows the news of the connection up is told behind it. -/
theorem setConnected_andThen (connected : Bool) (s : Session) (next : Session → Response) :
    let r := (s.setConnected connected).andThen next
    r.session = (next { s with connected }).session ∧
      r.events = s.connectionNews connected ++ (next { s with connected }).events ∧
      r.refusal = (next { s with connected }).refusal := by
  obtain ⟨hsession, hevents, hrefusal⟩ := s.setConnected_eq connected
  obtain ⟨hsession', hrefusal'⟩ := Response.session_andThen hrefusal next
  rw [hsession] at hsession' hrefusal'
  exact ⟨hsession', by rw [Response.events_andThen hrefusal, hevents, hsession], hrefusal'⟩

/-- An attempt to connect begins, or is refused. -/
theorem transition_beginConnect (s : Session) :
    Transition s s.beginConnect.2.events s.beginConnect.2.session := by
  unfold beginConnect
  cases hbusy : s.state.isBusy with
  | true => exact .stay
  | false => exact .connecting hbusy

/-- An attempt to connect succeeds, or none is going on. -/
theorem transition_healthOk (s : Session) :
    Transition s s.healthOk.events s.healthOk.session := by
  unfold healthOk
  split
  · next hstate =>
    obtain ⟨hsession, hevents, -⟩ := s.setConnected_andThen true (enter .idle)
    rw [hsession, hevents]
    exact .connected hstate
  · exact .stay

/-- An attempt to connect fails, breaks off, or none is going on. -/
theorem transition_healthFailed (reason : Text) (s : Session) :
    Transition s (s.healthFailed reason).events (s.healthFailed reason).session := by
  unfold healthFailed
  split
  · next hstate =>
    obtain ⟨hsession, hevents, -⟩ := s.setConnected_andThen false (failToConnect reason)
    rw [hsession, hevents, failToConnect]
    -- A blank reason makes no failure, and the connection is lost all the same.
    split
    · exact .unreachable hstate _
    · change Transition s (s.connectionNews false ++ []) _
      rw [List.append_nil]
      exact .lost hstate
  · exact .stay

/-- What a compilation that begins makes of a session: the last one is forgotten, which is announced
if errors go away, and then the compilation is announced. -/
theorem forget_andThen_enter (s : Session) :
    let r := s.forget.andThen (enter .compiling)
    r.session = { s with log := #[], artifact := none, errorLines := [], state := .compiling } ∧
      r.events = s.clearedNews ++ [.state .compiling] ∧ r.refusal = none := by
  unfold forget clearedNews
  dsimp only
  split <;> exact ⟨rfl, rfl, rfl⟩

/-- A compilation begins, fails at once, or is refused. -/
theorem transition_beginCompile (s : Session) :
    Transition s s.beginCompile.2.events s.beginCompile.2.session := by
  unfold beginCompile
  cases hbusy : s.state.isBusy with
  | true => exact .stay
  | false =>
    cases hconnected : s.connected with
    | true =>
      obtain ⟨hsession, hevents, -⟩ := s.forget_andThen_enter
      rw [if_neg Bool.false_ne_true, if_pos rfl, hsession, hevents]
      exact .compiling hbusy hconnected
    | false => exact .notConnected hbusy hconnected

/-- A line that names no source line with an error, or one that is known, leaves nothing to note. -/
theorem diagnose_of_known {line : Text} {s : Session}
    (h : ∀ n, Diagnostic.line? line = .ok (some n) → n ∈ s.errorLines) :
    (diagnose line s).session = s ∧ (diagnose line s).events = [] := by
  unfold diagnose
  split
  · exact ⟨rfl, rfl⟩
  · exact ⟨rfl, rfl⟩
  · next n hline =>
    rw [if_pos (List.contains_iff_mem.mpr (h n hline))]
    exact ⟨rfl, rfl⟩

/-- A line that names a new source line with an error adds it to those that are known. -/
theorem diagnose_of_new {line : Text} {s : Session} {n : Nat}
    (hline : Diagnostic.line? line = .ok (some n)) (hnew : n ∉ s.errorLines) :
    diagnose line s = { s with errorLines := insertLine n s.errorLines }.announce
      (.diagnostics (insertLine n s.errorLines)) := by
  simp only [diagnose, hline, List.contains_iff_mem, hnew, if_false]

/-- A session that compiles takes a line into its log and announces it; the rest is up to what the
line says. -/
theorem compileLine_of_compiling {s : Session} (h : s.state = .compiling) (line : Text) :
    let noted := diagnose line { s with log := s.log.push line }
    (s.compileLine line).session = noted.session ∧
      (s.compileLine line).events = .line line :: noted.events ∧
      (s.compileLine line).refusal = noted.refusal := by
  unfold compileLine
  rw [h]
  exact ⟨rfl, rfl, rfl⟩

/-- A line is logged, or comes too late. -/
theorem transition_compileLine (line : Text) (s : Session) :
    Transition s (s.compileLine line).events (s.compileLine line).session := by
  by_cases hstate : s.state = .compiling
  · obtain ⟨hsession, hevents, -⟩ := compileLine_of_compiling hstate line
    rw [hsession, hevents]
    by_cases hnew : ∃ n, Diagnostic.line? line = .ok (some n) ∧ n ∉ s.errorLines
    · obtain ⟨n, hline, hnew⟩ := hnew
      rw [diagnose_of_new (s := { s with log := s.log.push line }) hline hnew]
      exact .diagnostic hstate line n hline hnew
    · have hknown : ∀ n, Diagnostic.line? line = .ok (some n) → n ∈ s.errorLines := by
        simpa using hnew
      obtain ⟨hsession, hevents⟩ :=
        diagnose_of_known (s := { s with log := s.log.push line }) hknown
      rw [hsession, hevents]
      exact .line hstate line hknown
  · unfold compileLine
    split
    · next h => exact absurd h hstate
    · exact .stay

/-- The outcome is taken, or comes too late. -/
theorem transition_compileFinished (outcome : Outcome) (s : Session) :
    Transition s (s.compileFinished (.done outcome)).events
      (s.compileFinished (.done outcome)).session := by
  unfold compileFinished
  split
  · next hstate => cases outcome <;> exact .finished hstate _
  · exact .stay

/-- Every call is a transition. -/
theorem Call.transition (c : Call) (s : Session) :
    Transition s (c.respond s).events (c.respond s).session := by
  cases c with
  | beginConnect => exact transition_beginConnect s
  | healthOk => exact transition_healthOk s
  | healthFailed reason => exact transition_healthFailed reason s
  | beginCompile => exact transition_beginCompile s
  | compileLine line => exact transition_compileLine line s
  | compileFinished outcome => exact transition_compileFinished outcome s

/-- What holds of a new session without events, and is kept by every transition that appends its
events, holds after any calls. -/
theorem Trace.run_induction {P : List Event → Session → Prop} (start : P [] {})
    (step : ∀ events s more s', P events s → Transition s more s' → P (events ++ more) s')
    (calls : List Call) : P (run calls).events.toList (run calls).session := by
  -- The induction is on the calls made, that is, from the right.
  unfold run
  refine List.foldlRecOn
    (motive := fun t : Session.Trace => P t.events.toList t.session) calls _ start ?_
  intro t ht c _
  have hstep := step _ _ _ _ ht (c.transition t.session)
  simpa only [Trace.call, Array.toList_appendList] using hstep

end SourceEditor.Session

import SourceEditor.Bridge.Worker
import SourceEditor.Proofs.Compile.Consistency
import SourceEditor.Proofs.Text.Trimming

/-!
# Attempts of a session

An attempt to connect or to compile begins with a call at the right time, goes on through the lines
of the compiler, and ends with a report. Only the beginning of a compilation announces one.
-/

namespace SourceEditor

/-- A state in which nothing is going on is neither of the busy ones. -/
theorem CompileState.ne_of_free {state : CompileState} (h : state.isBusy = false) :
    state ≠ .connecting ∧ state ≠ .compiling := by
  constructor <;> rintro rfl <;> simp [isBusy] at h

namespace Session

variable {s : Session}

/-! ## Beginning -/

/-- A session that is free begins to connect. -/
theorem beginConnect_of_free (h : s.state.isBusy = false) :
    s.beginConnect = (true, s.enter .connecting) := by
  simp [beginConnect, h]

/-- A session that is free and connected begins to compile. -/
theorem beginCompile_of_free (h : s.state.isBusy = false) (hconnected : s.connected = true) :
    s.beginCompile = (true, s.forget.andThen (enter .compiling)) := by
  simp [beginCompile, h, hconnected]

/-- Without a connection, a compilation fails at once. -/
theorem beginCompile_of_not_connected (h : s.state.isBusy = false)
    (hconnected : s.connected = false) :
    s.beginCompile = (false, s.enter (.done (.failure .notConnected))) := by
  simp [beginCompile, h, hconnected]

/-- A compilation that begins has no lines yet. -/
theorem log_beginCompile (h : s.beginCompile.1 = true) : s.beginCompile.2.session.log = #[] := by
  -- It begins only in a free session with a connection.
  have hcan := beginCompile_fst s
  rw [h, eq_comm, canCompile, Bool.and_eq_true, Bool.not_eq_true'] at hcan
  rw [beginCompile_of_free hcan.2 hcan.1, s.forget_andThen_enter.1]

/-! ## Going on -/

/-- Looking for an error in a line changes the error lines alone. -/
theorem exists_session_diagnose_eq (line : Text) (s : Session) :
    ∃ errorLines, (diagnose line s).session = { s with errorLines } := by
  unfold diagnose
  split
  · exact ⟨_, rfl⟩
  · exact ⟨_, rfl⟩
  · split
    · exact ⟨_, rfl⟩
    · exact ⟨_, rfl⟩

/-- A line changes the state of no session. -/
theorem state_compileLine (line : Text) (s : Session) :
    (s.compileLine line).session.state = s.state := by
  by_cases hstate : s.state = .compiling
  · obtain ⟨errorLines, h⟩ := exists_session_diagnose_eq line { s with log := s.log.push line }
    rw [(compileLine_of_compiling hstate line).1, h]
  · rw [compileLine_of_ne hstate]
    rfl

/-! ## Ending -/

/-- The good news ends the attempt: the session is connected and idle. -/
theorem healthOk_of_connecting (h : s.state = .connecting) :
    s.healthOk.session = { s with connected := true, state := .idle } ∧
      s.healthOk.events = s.connectionNews true ++ [.state .idle] ∧
      s.healthOk.refusal = none := by
  unfold healthOk
  rw [h]
  exact s.setConnected_andThen true (enter .idle)

/-- A reason that can be read, or the usual words where none is given, ends the attempt. -/
theorem healthFailed_of_readable (h : s.state = .connecting) {reason : Text}
    (hreadable : reason = [] ∨ Text.isBlank reason = false) :
    ∃ why : Reason, why.text = (if reason = [] then unreachableMessage else reason) ∧
      (s.healthFailed reason).session =
        { s with connected := false, state := .done (.failure why) } ∧
      (s.healthFailed reason).events =
        s.connectionNews false ++ [.state (.done (.failure why))] ∧
      (s.healthFailed reason).refusal = none := by
  have hwords : Text.isBlank (if reason = [] then unreachableMessage else reason) = false := by
    split
    · decide
    · next hne => exact hreadable.resolve_left hne
  have hfail (s : Session) : failToConnect reason s = s.enter (.done (.failure ⟨_, hwords⟩)) := by
    simp only [failToConnect, List.isEmpty_iff, Reason.ofText?_of_not_isBlank hwords]
  refine ⟨⟨_, hwords⟩, rfl, ?_⟩
  unfold healthFailed
  rw [h]
  have hended := s.setConnected_andThen false (failToConnect reason)
  rw [hfail] at hended
  exact hended

/-- The outcome ends a compilation. -/
theorem state_compileFinished (h : s.state = .compiling) (outcome : Outcome) :
    (s.compileFinished (.done outcome)).session.state = .done outcome := by
  unfold compileFinished
  rw [h]
  cases outcome <;> rfl

/-- The end of a compilation is taken without breaking off. -/
theorem refusal_compileFinished (state : CompileState) (s : Session) :
    (s.compileFinished state).refusal = none := by
  unfold compileFinished
  split
  · split <;> rfl
  · rfl

/-! ## Announcing a compilation -/

/-- A compilation begins only in a session that is free. -/
theorem Transition.free_of_mem_compiling {s' : Session} {events : List Event}
    (h : Transition s events s') (hmem : Event.state .compiling ∈ events) :
    s.state.isBusy = false := by
  cases h with
  | compiling hfree => exact hfree
  | connected | unreachable | lost =>
    simp only [connectionNews] at hmem
    split at hmem <;> simp at hmem
  | _ => simp at hmem

/-- No call but the one to begin to compile announces a compilation. -/
theorem Call.not_mem_compiling {c : Call} (hc : c ≠ .beginCompile) (s : Session) :
    Event.state .compiling ∉ (c.respond s).events := by
  intro hmem
  -- The session would have to be free, and then the other calls but one do nothing.
  have hfree := (c.transition s).free_of_mem_compiling hmem
  obtain ⟨hconnecting, hcompiling⟩ := CompileState.ne_of_free hfree
  cases c with
  | beginConnect =>
    simp [respond, beginConnect_of_free hfree, enter] at hmem
  | healthOk => simp [respond, healthOk_of_ne hconnecting] at hmem
  | healthFailed => simp [respond, healthFailed_of_ne hconnecting] at hmem
  | beginCompile => exact hc rfl
  | compileLine => simp [respond, compileLine_of_ne hcompiling] at hmem
  | compileFinished => simp [respond, compileFinished_of_ne hcompiling] at hmem

/-- One that does not begin is not announced. -/
theorem not_mem_compiling_beginCompile (h : s.beginCompile.1 = false) :
    Event.state .compiling ∉ s.beginCompile.2.events := by
  unfold beginCompile at h ⊢
  split
  · simp
  · next hfree =>
    rw [if_neg hfree] at h
    split
    · next hconnected => simp [hconnected] at h
    · simp [enter]

end Session

/-- What is said of a bridge that cannot be reached tells where it was looked for, so that it is not
blank. -/
theorem Bridge.Client.isBlank_unreachableMessage (c : Client) :
    Text.isBlank c.unreachableMessage = false := by
  rw [unreachableMessage, Text.isBlank_append, Text.isBlank_append]
  rfl

end SourceEditor

import SourceEditor.Proofs.Compile.Calls

/-!
# What always holds of a session

The parts of a session agree with each other after any calls in any order, and a call that comes at
the wrong time does nothing.

* `Session.Consistent`: the state, the connection, the log, the error lines and the product agree.
* `Session.Transition.consistent`: each call keeps that up.
* `Session.run_consistent`: every run does, and calls at the wrong time change and announce nothing.
-/

namespace SourceEditor.Session

/-- The parts of a session agree with each other. -/
structure Consistent (s : Session) : Prop where
  /-- Nothing compiles, or has compiled, without a connection. -/
  connected : s.state = .compiling ∨ (∃ a, s.state = .done (.success a)) → s.connected = true
  /-- The product is the one that the success told of. -/
  artifact_of_success : ∀ a, s.state = .done (.success a) → s.artifact = a
  /-- A compilation that is running has no product yet. -/
  artifact_of_compiling : s.state = .compiling → s.artifact = none
  /-- The error lines are those that some line of the log names. -/
  mem_errorLines : ∀ n, n ∈ s.errorLines ↔ ∃ t ∈ s.log, Diagnostic.line? t = .ok (some n)
  /-- The error lines stand in increasing order, each once. -/
  increasing : s.errorLines.Pairwise (· < ·)

variable {s s' : Session} {events : List Event}

/-- A new session is consistent. -/
theorem consistent_new : ({} : Session).Consistent where
  connected h := by simp at h
  artifact_of_success _ h := by simp at h
  artifact_of_compiling _ := rfl
  mem_errorLines n := by simp
  increasing := .nil

/-- A line of the log adds the number that it names to the error lines, and nothing else. -/
theorem exists_mem_push_iff {t : Text} {n : Nat} {log : Array Text} :
    (∃ u ∈ log.push t, Diagnostic.line? u = .ok (some n)) ↔
      Diagnostic.line? t = .ok (some n) ∨ ∃ u ∈ log, Diagnostic.line? u = .ok (some n) := by
  simp only [Array.mem_push]
  constructor
  · rintro ⟨u, hu | rfl, hn⟩
    · exact Or.inr ⟨u, hu, hn⟩
    · exact Or.inl hn
  · rintro (hn | ⟨u, hu, hn⟩)
    · exact ⟨t, Or.inr rfl, hn⟩
    · exact ⟨u, Or.inl hu, hn⟩

/-- Each call keeps the parts of a session in agreement. -/
theorem Transition.consistent (h : Transition s events s') (hs : s.Consistent) :
    s'.Consistent := by
  cases h with
  | stay => exact hs
  | connecting | connected | unreachable | notConnected =>
    -- The new state says nothing of the connection or the product.
    exact ⟨by simp, by simp, by simp, hs.mem_errorLines, hs.increasing⟩
  | lost hstate =>
    exact ⟨by simp [hstate], by simp [hstate], by simp [hstate], hs.mem_errorLines,
      hs.increasing⟩
  | compiling _ hconnected => exact ⟨fun _ => hconnected, by simp, by simp, by simp, .nil⟩
  | line hstate t hknown =>
    refine ⟨hs.connected, hs.artifact_of_success, hs.artifact_of_compiling, fun n => ?_,
      hs.increasing⟩
    rw [exists_mem_push_iff, ← hs.mem_errorLines]
    exact ⟨Or.inr, fun h => h.elim (hknown n) id⟩
  | diagnostic hstate t n hline hnew =>
    refine ⟨hs.connected, hs.artifact_of_success, hs.artifact_of_compiling, fun m => ?_,
      pairwise_insertLine hs.increasing hnew⟩
    have hnamed : Diagnostic.line? t = .ok (some m) ↔ m = n := by
      rw [hline]
      simp [eq_comm]
    rw [exists_mem_push_iff, ← hs.mem_errorLines, hnamed]
    exact mem_insertLine
  | finished hstate outcome =>
    -- The session was compiling, and so it is connected.
    refine ⟨fun _ => hs.connected (Or.inl hstate), ?_, by simp, hs.mem_errorLines, hs.increasing⟩
    rintro a ha
    obtain rfl : outcome = .success a := by simpa using ha
    rfl

/-! ## Calls at the wrong time -/

/-- A compilation begins exactly if it can. -/
theorem beginCompile_fst (s : Session) : s.beginCompile.1 = s.canCompile := by
  unfold beginCompile canCompile
  cases s.state.isBusy <;> cases s.connected <;> rfl

/-- A line outside a compilation changes nothing. -/
theorem compileLine_of_ne (h : s.state ≠ .compiling) (line : Text) :
    s.compileLine line = s.unchanged := by
  unfold compileLine
  split
  · next hstate => exact absurd hstate h
  · rfl

/-- Nor does the end of one. -/
theorem compileFinished_of_ne (h : s.state ≠ .compiling) (state : CompileState) :
    s.compileFinished state = s.unchanged := by
  unfold compileFinished
  split
  · next hstate => exact absurd hstate h
  · rfl

/-- Nor does a good reply outside an attempt to connect. -/
theorem healthOk_of_ne (h : s.state ≠ .connecting) : s.healthOk = s.unchanged := by
  unfold healthOk
  split
  · next hstate => exact absurd hstate h
  · rfl

/-- Nor does a bad one. -/
theorem healthFailed_of_ne (h : s.state ≠ .connecting) (reason : Text) :
    s.healthFailed reason = s.unchanged := by
  unfold healthFailed
  split
  · next hstate => exact absurd hstate h
  · rfl

/-- A session is busy while it compiles or connects. -/
theorem isBusy_iff {state : CompileState} :
    state.isBusy = true ↔ state = .compiling ∨ state = .connecting := by
  cases state <;> simp [CompileState.isBusy]

/-- Then nothing else begins. -/
theorem begin_of_isBusy (h : s.state.isBusy = true) :
    s.beginConnect = (false, s.unchanged) ∧ s.beginCompile = (false, s.unchanged) := by
  simp [beginConnect, beginCompile, h]

/-! ## Runs -/

/-- After any calls in any order, the parts of the session agree with each other. A compilation
begins exactly if it could. Lines and outcomes outside a compilation, reports on the health outside
a connection attempt, and attempts to begin something while something is going on leave the whole
session as it is and announce nothing. -/
theorem run_consistent :
    (∀ calls : List Call, (Trace.run calls).session.Consistent) ∧
    ∀ s : Session,
      (s.beginCompile.1 = true ↔ s.canCompile = true) ∧
      (s.state ≠ .compiling →
        (∀ line, s.compileLine line = ⟨s, [], none⟩) ∧
        ∀ outcome, s.compileFinished (.done outcome) = ⟨s, [], none⟩) ∧
      (s.state ≠ .connecting →
        s.healthOk = ⟨s, [], none⟩ ∧ ∀ reason, s.healthFailed reason = ⟨s, [], none⟩) ∧
      (s.state = .compiling ∨ s.state = .connecting →
        s.beginConnect = (false, ⟨s, [], none⟩) ∧ s.beginCompile = (false, ⟨s, [], none⟩)) := by
  refine ⟨fun calls => ?_, fun s => ⟨by rw [beginCompile_fst], fun h => ?_, fun h => ?_, ?_⟩⟩
  · exact Trace.run_induction (P := fun _ s => s.Consistent) consistent_new
      (fun _ _ _ _ hs hstep => hstep.consistent hs) calls
  · exact ⟨compileLine_of_ne h, fun outcome => compileFinished_of_ne h (.done outcome)⟩
  · exact ⟨healthOk_of_ne h, healthFailed_of_ne h⟩
  · exact fun h => begin_of_isBusy (isBusy_iff.mpr h)

/-- A session that has compiled once, and is compiling again after an error. A late report on the
health, and the wish to compile once more, come to nothing; so does a line after the outcome. -/
theorem run_consistent_twice :
    let once : List Call := [.beginConnect, .healthOk, .beginCompile,
      .compileLine "Main.kt:3:1: error: x", .compileFinished (.success (some "a.jar"))]
    let done := (Trace.run once).session
    let again := (Trace.run (once ++ [.beginCompile])).session
    done.Consistent ∧ done.state ≠ .compiling ∧ done.compileLine "late" = ⟨done, [], none⟩ ∧
      again.Consistent ∧ again.state ≠ .connecting ∧ again.healthOk = ⟨again, [], none⟩ ∧
      again.state = .compiling ∧ again.beginCompile = (false, ⟨again, [], none⟩) := by
  intro once done again
  have hdone : done.state ≠ .compiling := by decide
  have hagain : again.state = .compiling := by decide
  have hhealth : again.state ≠ .connecting := by decide
  obtain ⟨-, hlate, -, -⟩ := run_consistent.2 done
  obtain ⟨-, -, hreport, hbegin⟩ := run_consistent.2 again
  exact ⟨run_consistent.1 _, hdone, (hlate hdone).1 _, run_consistent.1 _, hhealth,
    (hreport hhealth).1, hagain, (hbegin (Or.inl hagain)).2⟩

end SourceEditor.Session

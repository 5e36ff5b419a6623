import SourceEditor.Proofs.Compile.Attempts

/-!
# Health checks that fail

A session that waits for a health check is freed by the report that it failed, if the report gives a
reason that can be read, or none at all. A reason of nothing but white space makes the call break
off half way: the connection is gone, but the session waits for its health check still, and goes on
waiting through all other calls, of which none has an effect any more.

* `Session.healthFailed_of_isBlank`: the way in which the call breaks off.
* `Session.Trace.run_append_of_connecting`: what else is called while a session waits is lost.
* `Session.run_healthFailed`: what a failed health check leaves behind, whatever was called before.
-/

namespace SourceEditor.Session

/-- Whether a call reports how a health check ended. -/
def Call.isHealthReport : Call → Bool
  | .healthOk | .healthFailed _ => true
  | _ => false

variable {s : Session}

/-! ## The call -/

/-- A reason of nothing but white space makes the call break off after the connection is gone. -/
theorem healthFailed_of_isBlank (h : s.state = .connecting) {reason : Text} (hne : reason ≠ [])
    (hblank : Text.isBlank reason = true) :
    (s.healthFailed reason).session = { s with connected := false } ∧
      (s.healthFailed reason).events = s.connectionNews false ∧
      (s.healthFailed reason).refusal = some .blankReason := by
  have hfail (s : Session) : failToConnect reason s = ⟨s, [], some .blankReason⟩ := by
    simp [failToConnect, hne, Reason.ofText?_of_isBlank hblank]
  have hended := s.setConnected_andThen false (failToConnect reason)
  rw [hfail] at hended
  unfold healthFailed
  rw [h]
  refine ⟨hended.1.trans (by rw [h]), hended.2.1.trans ?_, hended.2.2⟩
  exact List.append_nil _

/-! ## Waiting -/

/-- A session that waits for its health check does nothing on any other call. -/
theorem Call.respond_of_connecting (h : s.state = .connecting) {c : Call}
    (hc : c.isHealthReport = false) : c.respond s = s.unchanged := by
  have hbegin := begin_of_isBusy (s := s) (by rw [h]; rfl)
  have hne : s.state ≠ .compiling := by rw [h]; nofun
  cases c with
  | beginConnect => exact congrArg Prod.snd hbegin.1
  | healthOk => cases hc
  | healthFailed reason => cases hc
  | beginCompile => exact congrArg Prod.snd hbegin.2
  | compileLine line => exact compileLine_of_ne hne line
  | compileFinished outcome => exact compileFinished_of_ne hne (.done outcome)

/-- Through any other calls, a session that waits for its health check stays as it is, and announces
nothing. -/
theorem Trace.run_append_of_connecting {calls : List Call}
    (h : (Trace.run calls).session.state = .connecting) {later : List Call}
    (hlater : ∀ c ∈ later, c.isHealthReport = false) :
    Trace.run (calls ++ later) = Trace.run calls := by
  rw [Trace.run, List.foldl_append]
  change later.foldl _ (Trace.run calls) = Trace.run calls
  induction later with
  | nil => rfl
  | cons c later ih =>
    have hstep : ((Trace.run calls).call c.respond).1 = Trace.run calls := by
      simp [Trace.call, Call.respond_of_connecting h (hlater c List.mem_cons_self)]
    rw [List.foldl_cons, hstep]
    exact ih fun d hd => hlater d (List.mem_cons_of_mem c hd)

/-! ## The attempt -/

/-- Whatever was called before, a failed health check ends the attempt if its reason can be read or
is empty: the session is disconnected, has failed for a reason that can be read, and can begin to
connect again. If its reason is not empty but white space, the call breaks off, the session is
disconnected but connecting as before, and so it stays until another health check is reported. -/
theorem run_healthFailed (calls : List Call)
    (h : (Trace.run calls).session.state = .connecting) (reason : Text) :
    let s := (Trace.run calls).session
    let r := s.healthFailed reason
    (reason = [] ∨ Text.isBlank reason = false →
      (∃ why : Reason, why.text = (if reason = [] then unreachableMessage else reason) ∧
        r.session = { s with connected := false, state := .done (.failure why) } ∧
        r.events = s.connectionNews false ++ [.state (.done (.failure why))] ∧
        r.refusal = none) ∧
      r.session.beginConnect = (true, r.session.enter .connecting)) ∧
    (reason ≠ [] → Text.isBlank reason = true →
      (r.session = { s with connected := false } ∧ r.events = s.connectionNews false ∧
        r.refusal = some .blankReason) ∧
      ∀ later : List Call, (∀ c ∈ later, c.isHealthReport = false) →
        Trace.run (calls ++ .healthFailed reason :: later) =
          Trace.run (calls ++ [.healthFailed reason])) := by
  intro s r
  refine ⟨fun hreadable => ?_, fun hne hblank => ?_⟩
  · obtain ⟨why, htext, hr⟩ := healthFailed_of_readable h hreadable
    refine ⟨⟨why, htext, hr⟩, beginConnect_of_free ?_⟩
    change (s.healthFailed reason).session.state.isBusy = false
    rw [hr.1]
    rfl
  · have hr := healthFailed_of_isBlank h hne hblank
    refine ⟨hr, fun later hlater => ?_⟩
    -- The call broke off before it took another state.
    have hwaiting : (Trace.run (calls ++ [.healthFailed reason])).session.state = .connecting := by
      rw [Trace.run, List.foldl_append]
      change ((Trace.run calls).session.healthFailed reason).session.state = .connecting
      rw [hr.1]
      exact h
    rw [List.append_cons]
    exact Trace.run_append_of_connecting hwaiting hlater

/-- A session that is connected and tries to connect again: with a single space as the reason, it
ends up disconnected and connecting, and the next attempts to connect and to compile are lost. -/
theorem run_healthFailed_space :
    let calls : List Call := [.beginConnect, .healthOk, .beginConnect]
    let later : List Call := [.beginConnect, .beginCompile]
    (Trace.run calls).session.state = .connecting ∧
      ((Trace.run calls).session.healthFailed " ").refusal = some .blankReason ∧
      Trace.run (calls ++ .healthFailed " " :: later) = Trace.run (calls ++ [.healthFailed " "]) ∧
      (Trace.run (calls ++ .healthFailed " " :: later)).session =
        { state := .connecting, connected := false } := by
  intro calls later
  have hstate : (Trace.run calls).session.state = .connecting := rfl
  obtain ⟨hr, hlater⟩ := (run_healthFailed calls hstate " ").2 (by decide) (by decide)
  refine ⟨hstate, hr.2.2, hlater later (by decide), ?_⟩
  rw [hlater later (by decide)]
  rfl

end SourceEditor.Session

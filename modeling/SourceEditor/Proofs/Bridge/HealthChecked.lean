import SourceEditor.Proofs.Bridge.Requested
import SourceEditor.Proofs.Compile.Attempts

/-!
# What a health check reports

A health check makes one request, gives one of two signals, and so ends the attempt to connect,
whatever comes back from the bridge and whether or not the session was connected before.

* `Bridge.Reply.IsUp`: a reply that shows the bridge to be up.
* `Bridge.Worker.run_healthCheck_of_isUp`, `Bridge.Worker.run_healthCheck_of_not_isUp`: what a
  health check tells whoever gets its signals.
* `Bridge.runHealthCheck_ends`: what a health check makes of the session that waits for it.
-/

namespace SourceEditor

namespace Session

variable {s : Session}

/-- An attempt to connect that begins takes its state and announces it. -/
theorem beginConnect_eq_enter (h : s.beginConnect.1 = true) :
    s.beginConnect.2 = s.enter .connecting := by
  unfold beginConnect at h ⊢
  split
  · next hbusy => simp [hbusy] at h
  · rfl

end Session

namespace Bridge

/-- A reply that shows the bridge to be up: there is one, its status is exactly 200, and its body
comes to an end. -/
structure Reply.IsUp (r : Reply) : Prop where
  opening : r.opening = none
  status : r.status = 200
  reading : r.reading = none

variable {c : Client} {t : Transport}

/-! ## The report -/

/-- A reply is good exactly if the server is up by it. -/
theorem Client.healthOfReply_eq_ok_iff {r : Reply} : healthOfReply r = .ok () ↔ r.IsUp := by
  unfold healthOfReply
  constructor
  · intro h
    cases hopening : r.opening with
    | some fault => simp [hopening] at h
    | none =>
      -- The status is looked at only when nothing went wrong with the body.
      cases hread : if r.isSuccess then r.reading else none with
      | some fault => simp [hopening, hread] at h
      | none =>
        have hstatus : r.status = 200 := by simpa [hopening, hread] using h
        refine ⟨hopening, hstatus, ?_⟩
        simpa [Reply.isSuccess, hstatus] using hread
  · rintro ⟨hopening, hstatus, hreading⟩
    simp [hopening, hstatus, hreading]

theorem Client.unreachableMessage_eq (c : Client) :
    c.unreachableMessage = ("Bridge not reachable at http://" : Text) ++ c.host ++ ":" ++
      Numeral.ofInt c.port ++ " (check adb reverse)" := by
  have hbegin : ("Bridge not reachable at http://" : Text) =
      "Bridge not reachable at " ++ ("http://" : Text) := by decide
  simp only [unreachableMessage, baseUrl, hbegin, List.append_assoc]

namespace Worker

variable {σ : Type} (slots : Slots σ) (s : σ)

/-- If the bridge is up, whoever takes the good news gets nothing else. -/
theorem run_healthCheck_of_isUp (h : (t.send c.healthRequest).1.IsUp)
    (htaken : (slots s .connected).2 = none) :
    healthCheck.run c slots s t =
      ((slots s .connected).1, none, (t.send c.healthRequest).2) := by
  have hgood : slots s .connected = ((slots s .connected).1, none) := Prod.ext rfl htaken
  simp only [run, Client.checkHealth, Client.healthOfReply_eq_ok_iff.mpr h, tellHealth]
  rw [hgood]

/-- However a health check fails, the signal is the same. -/
theorem run_healthCheck_of_not_isUp (h : ¬ (t.send c.healthRequest).1.IsUp) :
    healthCheck.run c slots s t =
      ((slots s (.failed c.unreachableMessage)).1, (slots s (.failed c.unreachableMessage)).2,
        (t.send c.healthRequest).2) := by
  simp only [run, Client.checkHealth]
  cases hreply : Client.healthOfReply (t.send c.healthRequest).1 with
  | ok => exact absurd (Client.healthOfReply_eq_ok_iff.mp hreply) h
  | error e => rfl

end Worker

/-- The report on a bridge that is up. -/
theorem runHealthCheck_of_isUp (h : (t.send c.healthRequest).1.IsUp) :
    runHealthCheck c t = (⟨[.connected]⟩, (t.send c.healthRequest).2) := by
  simp only [runHealthCheck, Worker.signals, Worker.run_healthCheck_of_isUp _ _ h, List.nil_append]

/-- The report on a bridge that is not up. -/
theorem runHealthCheck_of_not_isUp (h : ¬ (t.send c.healthRequest).1.IsUp) :
    runHealthCheck c t = (⟨[.failed c.unreachableMessage]⟩, (t.send c.healthRequest).2) := by
  simp only [runHealthCheck, Worker.signals, Worker.run_healthCheck_of_not_isUp _ _ h,
    List.nil_append]

/-! ## The session -/

/-- A session that is connected to the signals of a worker, and the signals that it got. -/
def attached : Slots (Session × List Signal) := fun (s, told) signal =>
  let response := signal.tell s
  ((response.session, told ++ [signal]), response.refusal)

/-- The words of the signal become the reason, since they are not blank. -/
theorem healthFailed_unreachableMessage {s : Session} (h : s.state = .connecting) (c : Client) :
    ∃ reason : Reason, reason.text = c.unreachableMessage ∧
      (s.healthFailed c.unreachableMessage).session =
        { s with connected := false, state := .done (.failure reason) } ∧
      (s.healthFailed c.unreachableMessage).events =
        s.connectionNews false ++ [.state (.done (.failure reason))] ∧
      (s.healthFailed c.unreachableMessage).refusal = none := by
  have hreadable := c.isBlank_unreachableMessage
  obtain ⟨reason, htext, htold⟩ := Session.healthFailed_of_readable h (Or.inr hreadable)
  have hne : c.unreachableMessage ≠ [] := by
    intro hnil
    simp [hnil, Text.isBlank] at hreadable
  exact ⟨reason, by rw [htext, if_neg hne], htold⟩

/-- A session that has begun to connect is told of one end of its health check. The call does not
break off, so that no other signal follows, and the session is not connecting any more. It is
connected and idle if the bridge is up. Otherwise, whatever went wrong, it is disconnected and has
failed for the reason that the bridge cannot be reached where the client looked for it. The
connection is announced only if it is news. -/
theorem runHealthCheck_ends (c : Client) (t : Transport) {s : Session}
    (hbegin : s.beginConnect.1 = true) :
    let reply := (t.send c.healthRequest).1
    let report := (runHealthCheck c t).1
    let r := report.tell s.beginConnect.2.session
    (runHealthCheck c t).2.requests = t.requests ++ [c.healthRequest] ∧
      Worker.healthCheck.run c attached (s.beginConnect.2.session, []) t =
        ((r.session, report.signals), none, (runHealthCheck c t).2) ∧
      r.refusal = none ∧ r.session.state ≠ .connecting ∧
      (reply.IsUp → report.signals = [.connected] ∧
        r.session = { s with connected := true, state := .idle } ∧
        r.events = s.connectionNews true ++ [.state .idle]) ∧
      (¬ reply.IsUp → ∃ reason : Reason,
        reason.text = ("Bridge not reachable at http://" : Text) ++ c.host ++ ":" ++
          Numeral.ofInt c.port ++ " (check adb reverse)" ∧
        report.signals = [.failed reason.text] ∧
        r.session = { s with connected := false, state := .done (.failure reason) } ∧
        r.events = s.connectionNews false ++ [.state (.done (.failure reason))]) := by
  intro reply report r
  -- The session that waits differs from the one before in its state only.
  let waiting : Session := { s with state := .connecting }
  have hwaiting : s.beginConnect.2.session = waiting :=
    congrArg Response.session (Session.beginConnect_eq_enter hbegin)
  by_cases hup : reply.IsUp
  · have hrun := runHealthCheck_of_isUp hup
    obtain ⟨hsession, hevents, hrefusal⟩ := Session.healthOk_of_connecting (s := waiting) rfl
    have hr : r = waiting.healthOk := by
      simp only [r, report, hrun, hwaiting]
      rfl
    have hattached : (attached (waiting, []) .connected).2 = none := hrefusal
    have hattachedRun := Worker.run_healthCheck_of_isUp attached (waiting, []) hup hattached
    have hreport : report = ⟨[.connected]⟩ := congrArg Prod.fst hrun
    rw [hr, hreport, hrun, hwaiting, hsession, hevents, hattachedRun]
    refine ⟨t.requests_send _, ?_, hrefusal, nofun, fun _ => ⟨rfl, rfl, rfl⟩,
      fun hdown => absurd hup hdown⟩
    rw [attached, Signal.tell, hsession]
    rfl
  · have hrun := runHealthCheck_of_not_isUp hup
    obtain ⟨reason, htext, hsession, hevents, hrefusal⟩ :=
      healthFailed_unreachableMessage (s := waiting) rfl c
    have hr : r = waiting.healthFailed c.unreachableMessage := by
      simp only [r, report, hrun, hwaiting]
      rfl
    have hattachedRun := Worker.run_healthCheck_of_not_isUp attached (waiting, []) hup
    have hreport : report = ⟨[.failed c.unreachableMessage]⟩ := congrArg Prod.fst hrun
    rw [hr, hreport, hrun, hwaiting, hsession, hevents, hattachedRun]
    refine ⟨t.requests_send _, ?_, hrefusal, nofun, fun h => absurd h hup, fun _ => ?_⟩
    · rw [attached, Signal.tell, hsession, hrefusal]
      rfl
    · exact ⟨reason, htext.trans c.unreachableMessage_eq, by rw [htext], rfl, rfl⟩

/-- A session that is connected and checks again, of a bridge that answers with a status of 200 and
then falls silent: it loses the connection, as if nobody had answered. -/
theorem runHealthCheck_ends_cut :
    let c : Client := { host := "10.0.2.2", port := 8080 }
    let reply : Reply := { body := Utf8.encode "ok", reading := some (.incomplete 2 (some 3)) }
    let s : Session := { connected := true }
    let why : Text := "Bridge not reachable at http://10.0.2.2:8080 (check adb reverse)"
    let r := (runHealthCheck c ⟨[reply], []⟩).1.tell s.beginConnect.2.session
    s.beginConnect.1 = true ∧ reply.status = 200 ∧
      ∃ reason : Reason, reason.text = why ∧
        r.session = { connected := false, state := .done (.failure reason) } ∧
        r.events = [.connection false, .state (.done (.failure reason))] := by
  intro c reply s why r
  have hdown : ¬ reply.IsUp := fun h => by cases h.reading
  have hbegin : s.beginConnect.1 = true := rfl
  obtain ⟨-, -, -, -, -, hfailed⟩ := runHealthCheck_ends c ⟨[reply], []⟩ hbegin
  obtain ⟨reason, htext, -, hsession, hevents⟩ := hfailed hdown
  exact ⟨hbegin, rfl, reason, htext, hsession, hevents⟩

end Bridge

end SourceEditor

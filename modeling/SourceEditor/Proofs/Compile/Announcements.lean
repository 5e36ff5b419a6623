import SourceEditor.Proofs.Compile.Replay

/-!
# When a session announces

A session announces a change at the moment of the change. Whoever looks at the session upon an
event finds what the event says, and nothing that is yet to be told; and when all is told, the
session still looks as it did upon the last event.

* `Session.LooksLike`: two sessions that look the same to whoever shows them.
* `Session.Announces`: from a session, through some announcements, each at its time, to another one.
* `Session.Call.announces`: every call announces what it does, each thing at its time.
-/

namespace SourceEditor.Session

/-- A session looks like another one to whoever shows its state, its connection and its errors. The
log and the product are left out: a compilation that begins forgets them before it is announced. -/
structure LooksLike (s t : Session) : Prop where
  state : s.state = t.state
  connected : s.connected = t.connected
  errorLines : s.errorLines = t.errorLines

variable {s s' s'' t : Session} {announcements : List Announcement}

/-- A session looks like itself. -/
theorem LooksLike.refl (s : Session) : s.LooksLike s :=
  ⟨rfl, rfl, rfl⟩

/-- What looks like a session looks like whatever that looks like. -/
theorem LooksLike.trans (h : s.LooksLike s') (h' : s'.LooksLike t) : s.LooksLike t :=
  ⟨h.state.trans h'.state, h.connected.trans h'.connected, h.errorLines.trans h'.errorLines⟩

/-- An observer of a state looks to have heard of it, whatever else the state tells. -/
theorem observe_state_looksLike (s : Session) (state : CompileState) :
    { s with state }.LooksLike (s.observe (.state state)) := by
  cases state with
  | done outcome => cases outcome <;> exact ⟨rfl, rfl, rfl⟩
  | _ => exact ⟨rfl, rfl, rfl⟩

/-- Observers who know sessions that look the same make the same of an event. -/
theorem LooksLike.observe (h : s.LooksLike t) (e : Event) :
    (s.observe e).LooksLike (t.observe e) := by
  cases e with
  | state state =>
    cases state with
    | done outcome => cases outcome <;> exact ⟨rfl, h.connected, h.errorLines⟩
    | _ => exact ⟨rfl, h.connected, h.errorLines⟩
  | line => exact ⟨h.state, h.connected, h.errorLines⟩
  | diagnostics => exact ⟨h.state, h.connected, rfl⟩
  | connection => exact ⟨h.state, rfl, h.errorLines⟩

/-- From one session to another, everything that changes is announced at its time: upon each event,
the session looks just as an observer believes who has heard of all events up to it. -/
inductive Announces : Session → List Announcement → Session → Prop
  /-- Nothing more changes. -/
  | done {s s' : Session} (h : s'.LooksLike s) : Announces s [] s'
  /-- A change is announced, and others may follow. -/
  | next {s s' : Session} {a : Announcement} {rest : List Announcement}
      (h : a.session.LooksLike (s.observe a.event)) (hrest : Announces a.session rest s') :
      Announces s (a :: rest) s'

/-- What a session announces does not depend on how it looks otherwise. -/
theorem Announces.of_looksLike (h : Announces s announcements s') (hlooks : s.LooksLike t) :
    Announces t announcements s' := by
  cases h with
  | done h => exact .done (h.trans hlooks)
  | next h hrest => exact .next (h.trans (hlooks.observe _)) hrest

/-- What is announced first and what is announced next are announced one after the other. -/
theorem Announces.append {more : List Announcement} (h : Announces s announcements s')
    (hmore : Announces s' more s'') : Announces s (announcements ++ more) s'' := by
  induction h with
  | done h => exact hmore.of_looksLike h
  | next h _ ih => exact .next h (ih hmore)

/-- A session announces what makes it look as it does now. -/
theorem announces_announce {e : Event} (h : s'.LooksLike (s.observe e)) :
    Announces s (s'.announce e).announcements (s'.announce e).session :=
  .next h (.done (.refl s'))

/-- A change and what follows it up announce what they do, also if the change breaks off. -/
theorem Announces.andThen {r : Response} (h : Announces s r.announcements r.session)
    {next : Session → Response}
    (hnext : Announces r.session (next r.session).announcements (next r.session).session) :
    Announces s (r.andThen next).announcements (r.andThen next).session := by
  unfold Response.andThen
  split
  · exact h
  · exact h.append hnext

/-! ## Calls -/

/-- A state is announced when it is taken. -/
theorem announces_enter (state : CompileState) (s : Session) :
    Announces s (s.enter state).announcements (s.enter state).session :=
  announces_announce (s.observe_state_looksLike state)

/-- The connection is announced when it changes. -/
theorem announces_setConnected (connected : Bool) (s : Session) :
    Announces s (s.setConnected connected).announcements (s.setConnected connected).session := by
  unfold setConnected
  split
  · exact .done (.refl s)
  · exact announces_announce ⟨rfl, rfl, rfl⟩

/-- A failure to connect is announced, unless there is nothing to say about it. -/
theorem announces_failToConnect (reason : Text) (s : Session) :
    Announces s (failToConnect reason s).announcements (failToConnect reason s).session := by
  unfold failToConnect
  split
  · exact announces_enter _ s
  · exact .done (.refl s)

/-- That the errors go away is announced when they do. -/
theorem announces_forget (s : Session) :
    Announces s s.forget.announcements s.forget.session := by
  unfold forget
  dsimp only
  split
  · next hnone => exact .done ⟨rfl, rfl, (List.isEmpty_iff.mp hnone).symm⟩
  · exact announces_announce ⟨rfl, rfl, rfl⟩

/-- An error is announced when it is noted. -/
theorem announces_diagnose (line : Text) (s : Session) :
    Announces s (diagnose line s).announcements (diagnose line s).session := by
  unfold diagnose
  split
  · exact .done (.refl s)
  · exact .done (.refl s)
  · split
    · exact .done (.refl s)
    · exact announces_announce ⟨rfl, rfl, rfl⟩

/-- Every call announces what it does, each thing at its time, also if it breaks off. -/
theorem Call.announces (c : Call) (s : Session) :
    Announces s (c.respond s).announcements (c.respond s).session := by
  have hstay : Announces s [] s := .done (.refl s)
  cases c with
  | beginConnect =>
    show Announces s s.beginConnect.2.announcements s.beginConnect.2.session
    unfold Session.beginConnect
    split
    · exact hstay
    · exact announces_enter .connecting s
  | healthOk =>
    show Announces s s.healthOk.announcements s.healthOk.session
    unfold Session.healthOk
    split
    · exact (s.announces_setConnected true).andThen (announces_enter .idle _)
    · exact hstay
  | healthFailed reason =>
    show Announces s (s.healthFailed reason).announcements (s.healthFailed reason).session
    unfold Session.healthFailed
    split
    · exact (s.announces_setConnected false).andThen (announces_failToConnect reason _)
    · exact hstay
  | beginCompile =>
    show Announces s s.beginCompile.2.announcements s.beginCompile.2.session
    unfold Session.beginCompile
    split
    · exact hstay
    · split
      · exact s.announces_forget.andThen (announces_enter .compiling _)
      · exact announces_enter _ s
  | compileLine line =>
    show Announces s (s.compileLine line).announcements (s.compileLine line).session
    unfold Session.compileLine
    split
    · exact (announces_announce ⟨rfl, rfl, rfl⟩).andThen (announces_diagnose line _)
    · exact hstay
  | compileFinished outcome =>
    show Announces s (s.compileFinished (.done outcome)).announcements
      (s.compileFinished (.done outcome)).session
    unfold Session.compileFinished
    split
    · -- A success takes note of the product first, which nobody is shown.
      cases outcome with
      | success artifact => exact announces_announce ⟨rfl, rfl, rfl⟩
      | failure reason => exact announces_enter _ s
    · exact hstay

end SourceEditor.Session

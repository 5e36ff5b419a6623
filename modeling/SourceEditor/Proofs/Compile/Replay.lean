import SourceEditor.Proofs.Compile.Calls
import SourceEditor.Proofs.Compile.Delivery

/-!
# What the events of a session tell

An observer who hears nothing but the events of a session knows the session.

* `Session.observe`: what an observer makes of one event; `Session.replay`: of several.
* `Session.Transition.replay_eq`: after the events of a call, the observer who knew the session
  before it knows the session after it.
* `Session.replay_run`: the observer of a run knows the session, and is never told what it knows.
* `Session.replay_feed`: so does one who also hears what comes of a stream.
-/

namespace SourceEditor.Session

/-- What an observer of a session knows before the first event. -/
def unobserved : Session where
  state := .idle
  connected := false
  log := #[]
  errorLines := []
  artifact := none

/-- What an observer who knows `s` knows after an event. That a compilation begins also says that
the log is empty and that there is no product; a success also says where the product is. -/
def observe (s : Session) : Event → Session
  | .state .compiling => { s with state := .compiling, log := #[], artifact := none }
  | .state (.done (.success artifact)) => { s with state := .done (.success artifact), artifact }
  | .state state => { s with state }
  | .line t => { s with log := s.log.push t }
  | .diagnostics errorLines => { s with errorLines }
  | .connection connected => { s with connected }

/-- What an observer who knows `s` knows after some events. -/
def replay (s : Session) (events : List Event) : Session :=
  events.foldl observe s

@[simp]
theorem replay_nil (s : Session) : s.replay [] = s := rfl

/-- An observer hears events one after the other. -/
@[simp]
theorem replay_append (s : Session) (a b : List Event) :
    s.replay (a ++ b) = (s.replay a).replay b :=
  List.foldl_append

/-- A state tells nothing of the error lines. -/
theorem errorLines_observe_state (s : Session) (state : CompileState) :
    (s.observe (.state state)).errorLines = s.errorLines := by
  cases state with
  | done outcome => cases outcome <;> rfl
  | _ => rfl

/-- Events without news about the errors leave an observer's error lines as they are. -/
theorem errorLines_replay {events : List Event} {s : Session}
    (h : ∀ lines, Event.diagnostics lines ∉ events) :
    (s.replay events).errorLines = s.errorLines := by
  refine List.foldlRecOn (motive := fun s' : Session => s'.errorLines = s.errorLines) events _ rfl
    ?_
  intro s' hs' e he
  cases e with
  | state state => rw [errorLines_observe_state, hs']
  | line => exact hs'
  | diagnostics lines => exact absurd he (h lines)
  | connection => exact hs'

/-- An event about the errors or the connection tells an observer who knows `s` something else than
what the observer knows. -/
def IsNews (s : Session) : Event → Prop
  | .diagnostics errorLines => errorLines ≠ s.errorLines
  | .connection connected => connected ≠ s.connected
  | _ => True

/-- Each of some events is news when it comes. -/
def AllNews (s : Session) (events : List Event) : Prop :=
  ∀ before e after, events = before ++ e :: after → (s.replay before).IsNews e

variable {s s' : Session} {events : List Event}

theorem allNews_nil (s : Session) : s.AllNews [] := by
  intro before e after h
  simp at h

/-- The first of some events is news, and then the others are. -/
theorem allNews_cons {e : Event} :
    s.AllNews (e :: events) ↔ s.IsNews e ∧ (s.observe e).AllNews events := by
  constructor
  · intro h
    refine ⟨h [] e events rfl, fun before f after hf => ?_⟩
    exact h (e :: before) f after (by rw [hf, List.cons_append])
  · rintro ⟨hfirst, hrest⟩ before f after hf
    cases before with
    | nil =>
      obtain ⟨rfl, -⟩ := List.cons.inj hf
      exact hfirst
    | cons g before =>
      obtain ⟨rfl, htail⟩ := List.cons.inj hf
      exact hrest before f after htail

/-- Some events are news, and then others are. -/
theorem allNews_append {a b : List Event} :
    s.AllNews (a ++ b) ↔ s.AllNews a ∧ (s.replay a).AllNews b := by
  induction a generalizing s with
  | nil => simp [allNews_nil]
  | cons e a ih =>
    rw [List.cons_append, allNews_cons, allNews_cons, ih, and_assoc]
    rfl

/-! ## One call -/

/-- After the news of a connection, the observer knows it. -/
@[simp]
theorem replay_connectionNews (connected : Bool) (s : Session) :
    s.replay (s.connectionNews connected) = { s with connected } := by
  unfold connectionNews
  split
  · next h => subst h; rfl
  · rfl

/-- After the news that the errors are gone, the observer knows of none. -/
@[simp]
theorem replay_clearedNews (s : Session) :
    s.replay s.clearedNews = { s with errorLines := [] } := by
  unfold clearedNews
  split
  · next h => rw [replay_nil, ← List.isEmpty_iff.mp h]
  · rfl

/-- The events of a call lead an observer from the session before it to the session after it. -/
theorem Transition.replay_eq (h : Transition s events s') : s.replay events = s' := by
  cases h with
  | stay => rfl
  | connecting => rfl
  | connected => rw [replay_append, replay_connectionNews]; rfl
  | unreachable => rw [replay_append, replay_connectionNews]; rfl
  | lost => simp
  | notConnected => rfl
  | compiling => rw [replay_append, replay_clearedNews]; rfl
  | line => rfl
  | diagnostic => rfl
  | finished _ outcome => cases outcome <;> rfl

/-- The news of a connection is news. -/
theorem allNews_connectionNews (connected : Bool) (s : Session) :
    s.AllNews (s.connectionNews connected) := by
  unfold connectionNews
  split
  · exact allNews_nil s
  · next h => exact allNews_cons.mpr ⟨h, allNews_nil _⟩

/-- So is that of errors that are gone. -/
theorem allNews_clearedNews (s : Session) : s.AllNews s.clearedNews := by
  unfold clearedNews
  split
  · exact allNews_nil s
  · next h => exact allNews_cons.mpr ⟨fun e => h (e ▸ rfl), allNews_nil _⟩

/-- A state is always news. -/
theorem allNews_state (s : Session) (state : CompileState) : s.AllNews [.state state] :=
  allNews_cons.mpr ⟨trivial, allNews_nil _⟩

/-- No event of a call tells what an observer of the session knows. -/
theorem Transition.allNews (h : Transition s events s') : s.AllNews events := by
  cases h with
  | stay => exact allNews_nil s
  | connecting => exact allNews_state s _
  | connected =>
    exact allNews_append.mpr ⟨allNews_connectionNews true s, allNews_state _ _⟩
  | unreachable =>
    exact allNews_append.mpr ⟨allNews_connectionNews false s, allNews_state _ _⟩
  | lost => exact allNews_connectionNews false s
  | notConnected => exact allNews_state s _
  | compiling => exact allNews_append.mpr ⟨allNews_clearedNews s, allNews_state _ _⟩
  | line => exact allNews_cons.mpr ⟨trivial, allNews_nil _⟩
  | diagnostic _ t n _ hnew =>
    refine allNews_cons.mpr ⟨trivial, allNews_cons.mpr ⟨fun e => hnew ?_, allNews_nil _⟩⟩
    -- The new number is among the lines announced, so that these are not the old ones.
    have hmem : n ∈ insertLine n s.errorLines := mem_insertLine.mpr (Or.inl rfl)
    rwa [e] at hmem
  | finished => exact allNews_state s _

/-! ## Runs -/

/-- After any calls, also ones that broke off, an observer who heard the events of the session knows
its state, its connection, its log, its error lines and its product. No event about the errors or
the connection told what the observer knew. -/
theorem replay_run (calls : List Call) :
    unobserved.replay (Trace.run calls).events.toList = (Trace.run calls).session ∧
      ∀ before e after, (Trace.run calls).events.toList = before ++ e :: after →
        (unobserved.replay before).IsNews e := by
  refine Trace.run_induction
    (P := fun events s => unobserved.replay events = s ∧ unobserved.AllNews events)
    ⟨rfl, allNews_nil _⟩ ?_ calls
  rintro events s more s' ⟨rfl, hnews⟩ hstep
  exact ⟨by rw [replay_append, hstep.replay_eq], allNews_append.mpr ⟨hnews, hstep.allNews⟩⟩

/-- What comes of a stream in some traces comes of some more calls. -/
theorem Trace.exists_run_feed {Fault : Type} (calls : List Call) (stream : LineStream Fault) :
    ∃ more, ((Trace.run calls).feed stream).1 = Trace.run (calls ++ more) := by
  have hcall (more : List Call) (c : Call) :
      ((Trace.run (calls ++ more)).call c.respond).1 = Trace.run (calls ++ (more ++ [c])) := by
    rw [← List.append_assoc]
    exact (List.foldl_concat (fun t c => (Trace.call t (Call.respond c)).1) {} c
      (calls ++ more)).symm
  -- Every line that is received is a call.
  have hlines : ∃ more, (stream.fold Trace.receive (Trace.run calls)).1 =
      Trace.run (calls ++ more) := by
    refine LineStream.foldFrom_induction (P := fun t => ∃ more, t = Trace.run (calls ++ more)) ?_
      stream.cut none ⟨[], by rw [List.append_nil]⟩ stream.lines
    rintro t line ⟨more, rfl⟩
    exact ⟨_, hcall more (.compileLine line)⟩
  obtain ⟨more, hmore⟩ := hlines
  unfold Trace.feed
  split
  · next t outcome hfold =>
    rw [hfold] at hmore
    obtain rfl : t = _ := hmore
    exact ⟨_, hcall more (.compileFinished outcome)⟩
  · next t e hfold =>
    rw [hfold] at hmore
    exact ⟨more, hmore⟩

/-- So an observer of a stream knows the session that took it in, wherever the stream ends. -/
theorem replay_feed {Fault : Type} (calls : List Call) (stream : LineStream Fault) :
    unobserved.replay ((Trace.run calls).feed stream).1.events.toList =
      ((Trace.run calls).feed stream).1.session := by
  obtain ⟨more, hmore⟩ := Trace.exists_run_feed calls stream
  rw [hmore]
  exact (replay_run (calls ++ more)).1

/-- The connection is lost by a call that breaks off on a blank reason, and the observer hears of it
before the call breaks off. -/
theorem replay_run_blankReason :
    let calls : List Call :=
      [.beginConnect, .healthOk, .beginConnect, .healthFailed " "]
    let events : List Event :=
      [.state .connecting, .connection true, .state .idle, .state .connecting]
    (Trace.run calls).events.toList = events ++ [.connection false] ∧
      (unobserved.replay events).IsNews (.connection false) ∧
      unobserved.replay (events ++ [.connection false]) = (Trace.run calls).session := by
  intro calls events
  have hevents : (Trace.run calls).events.toList = events ++ [.connection false] := by decide
  refine ⟨hevents, (replay_run calls).2 events _ [] hevents, ?_⟩
  rw [← hevents]
  exact (replay_run calls).1

end SourceEditor.Session

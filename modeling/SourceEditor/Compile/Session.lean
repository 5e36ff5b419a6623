import SourceEditor.Compile.State
import SourceEditor.Compile.Diagnostic
import SourceEditor.Compile.Stream

/-!
# Compile sessions

The session of one editor with its compiler. A call changes the session and announces each change as
an event, at once and in order, so that an observer who replays the events knows the session.

* A call is refused, or does nothing, while another attempt is going on.
* `Response.refusal` tells why a call broke off. What it had done by then stays done and announced.
-/

namespace SourceEditor

/-- The session of one editor with its compiler. -/
structure Session where
  /-- Where the session stands. -/
  state : CompileState := .idle
  /-- Whether the compiler is connected. -/
  connected : Bool := false
  /-- The lines of the last compilation. -/
  log : Array Text := #[]
  /-- The source lines with errors, in increasing order, each once. -/
  errorLines : List Nat := []
  /-- Where the last successful compilation left its product. -/
  artifact : Option Text := none
  deriving DecidableEq, Repr

/-- What a session announces. -/
inductive Event
  /-- The session has a new state. -/
  | state (s : CompileState)
  /-- The compiler wrote a line. -/
  | line (t : Text)
  /-- The source lines with errors are now these. -/
  | diagnostics (lines : List Nat)
  /-- The compiler is now connected, or no longer. -/
  | connection (connected : Bool)
  deriving DecidableEq, Repr

/-- Why a call broke off. -/
inductive Refusal
  /-- The reason given for a failure is blank. -/
  | blankReason
  /-- A diagnostic has a line number that is too long. -/
  | longNumber (e : Diagnostic.TooLong)
  deriving DecidableEq, Repr

/-- What is said of a call that broke off. -/
def Refusal.message : Refusal → Text
  | .blankReason => blankReasonMessage
  | .longNumber e => e.message

/-- An event at the moment of its announcement. -/
structure Announcement where
  /-- The event. -/
  event : Event
  /-- The session as whoever hears the event finds it. -/
  session : Session
  deriving DecidableEq, Repr

/-- What a call leaves behind. -/
structure Response where
  /-- The session afterwards. -/
  session : Session
  /-- What the call announced, in order. -/
  announcements : List Announcement := []
  /-- Why the call broke off, if it did. -/
  refusal : Option Refusal := none
  deriving DecidableEq, Repr

namespace Response

/-- The events in order. -/
def events (r : Response) : List Event :=
  r.announcements.map Announcement.event

/-- Follows a change up with another one. -/
def andThen (r : Response) (next : Session → Response) : Response :=
  match r.refusal with
  | some _ => r
  | none =>
    let more := next r.session
    { more with announcements := r.announcements ++ more.announcements }

/-- The events of a change and of what follows it up, if nothing broke off before. -/
theorem events_andThen {r : Response} (h : r.refusal = none) (next : Session → Response) :
    (r.andThen next).events = r.events ++ (next r.session).events := by
  simp only [andThen, h, events, List.map_append]

/-- What follows a change up has the last word on the session and on breaking off. -/
theorem session_andThen {r : Response} (h : r.refusal = none) (next : Session → Response) :
    (r.andThen next).session = (next r.session).session ∧
      (r.andThen next).refusal = (next r.session).refusal := by
  simp only [andThen, h, and_self]

end Response

namespace Session

/-- The words of a failed connection to the usual place of the compiler. -/
def unreachableMessage : Text :=
  "Bridge not reachable at http://127.0.0.1:8177 (check adb reverse)"

/-- Leaves the session as it is. -/
def unchanged (s : Session) : Response :=
  ⟨s, [], none⟩

/-- Announces an event to whoever hears of the session. -/
def announce (s : Session) (e : Event) : Response :=
  ⟨s, [⟨e, s⟩], none⟩

/-- An announcement leaves nothing else behind. -/
@[simp]
theorem events_announce (s : Session) (e : Event) : (s.announce e).events = [e] :=
  rfl

/-- Without a change, the session is the old one. -/
@[simp]
theorem session_unchanged (s : Session) : s.unchanged.session = s :=
  rfl

/-- Without a change, there is nothing to announce. -/
@[simp]
theorem events_unchanged (s : Session) : s.unchanged.events = [] :=
  rfl

/-- Takes a state and announces it. -/
def enter (state : CompileState) (s : Session) : Response :=
  { s with state }.announce (.state state)

/-- Takes note of the connection and announces it if that is news. -/
def setConnected (connected : Bool) (s : Session) : Response :=
  if connected = s.connected then s.unchanged
  else { s with connected }.announce (.connection connected)

/-- Whether a compilation can begin. -/
def canCompile (s : Session) : Bool :=
  s.connected && !s.state.isBusy

/-- Begins to connect, unless something is going on. -/
def beginConnect (s : Session) : Bool × Response :=
  if s.state.isBusy then (false, s.unchanged) else (true, s.enter .connecting)

/-- The compiler answered. -/
def healthOk (s : Session) : Response :=
  match s.state with
  | .connecting => (s.setConnected true).andThen (enter .idle)
  | _ => s.unchanged

/-- Ends in a failure to connect. Without a reason, the usual words are the reason. -/
def failToConnect (reason : Text) (s : Session) : Response :=
  match Reason.ofText? (if reason.isEmpty then unreachableMessage else reason) with
  | some reason => s.enter (.done (.failure reason))
  | none => ⟨s, [], some .blankReason⟩

/-- The compiler could not be reached. -/
def healthFailed (reason : Text) (s : Session) : Response :=
  match s.state with
  | .connecting => (s.setConnected false).andThen (failToConnect reason)
  | _ => s.unchanged

/-- Forgets the last compilation, announcing it if errors go away. -/
def forget (s : Session) : Response :=
  let forgotten : Session := { s with log := #[], artifact := none, errorLines := [] }
  if s.errorLines.isEmpty then forgotten.unchanged else forgotten.announce (.diagnostics [])

/-- Begins to compile, unless something is going on. Without a connection the attempt fails at
once. -/
def beginCompile (s : Session) : Bool × Response :=
  if s.state.isBusy then (false, s.unchanged)
  else if s.connected then (true, s.forget.andThen (enter .compiling))
  else (false, s.enter (.done (.failure .notConnected)))

/-- Puts a number into an increasing list that does not hold it. -/
def insertLine (n : Nat) : List Nat → List Nat
  | [] => [n]
  | m :: rest => if n < m then n :: m :: rest else m :: insertLine n rest

/-- Takes note of the diagnostic in a line, announcing its source line if it is new. -/
def diagnose (line : Text) (s : Session) : Response :=
  match Diagnostic.line? line with
  | .error e => ⟨s, [], some (.longNumber e)⟩
  | .ok none => s.unchanged
  | .ok (some n) =>
    if s.errorLines.contains n then s.unchanged
    else
      let errorLines := insertLine n s.errorLines
      { s with errorLines }.announce (.diagnostics errorLines)

/-- The compiler wrote a line; outside a compilation it is dropped. -/
def compileLine (line : Text) (s : Session) : Response :=
  match s.state with
  | .compiling =>
    ({ s with log := s.log.push line }.announce (.line line)).andThen (diagnose line)
  | _ => s.unchanged

/-- The compilation ended with a state; outside a compilation it is dropped. -/
def compileFinished (state : CompileState) (s : Session) : Response :=
  match s.state with
  | .compiling =>
    match state with
    | .done (.success artifact) => enter state { s with artifact }
    | _ => s.enter state
  | _ => s.unchanged

end Session

/-- A session together with the events that it has announced so far. -/
structure Session.Trace where
  /-- The session. -/
  session : Session := {}
  /-- The events in order. -/
  events : Array Event := #[]

namespace Session.Trace

/-- Makes a call and takes down its events. -/
def call (t : Session.Trace) (make : Session → Response) : Session.Trace × Option Refusal :=
  match t with
  | ⟨session, events⟩ =>
    let r := make session
    (⟨r.session, events ++ r.events⟩, r.refusal)

/-- Takes the lines of a stream into a session. -/
def receive : Receiver Session.Trace Refusal := fun t line =>
  t.call (Session.compileLine line)

/-- Takes the lines of a stream into a session and then its outcome, unless none came out. -/
def feed {Fault : Type} (t : Session.Trace) (stream : LineStream Fault) :
    Session.Trace × Option (StreamError Fault Refusal) :=
  match stream.fold receive t with
  | (t, .ok outcome) => ((t.call (compileFinished (.done outcome))).1, none)
  | (t, .error e) => (t, some e)

end Session.Trace

end SourceEditor

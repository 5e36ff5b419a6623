import SourceEditor.Bridge.Client

/-!
# Bridge workers

What runs in the background for a session: a health check, or a compilation. A worker tells of its
work by signals. Whoever is connected to a signal gets it at once, and may break off over it.

* `Worker.run` runs a worker, whoever gets its signals.
* `Worker.signals` is what a worker tells when nobody breaks off.
-/

namespace SourceEditor.Bridge

/-- A signal of a worker. -/
inductive Signal
  /-- The bridge is up. -/
  | connected
  /-- The bridge is not up, for a reason. -/
  | failed (reason : Text)
  /-- The compiler wrote a line. -/
  | line (text : Text)
  /-- The compilation ended with an outcome. -/
  | finished (outcome : Outcome)
  deriving DecidableEq, Repr

/-- The kinds of signals. Whoever connects to one of them gets all signals of the kind. -/
inductive Signal.Kind
  /-- The bridge is up. -/
  | connected
  /-- The bridge is not up. -/
  | failed
  /-- A line came. -/
  | line
  /-- A compilation ended. -/
  | finished
  deriving DecidableEq, Repr

/-- The kind of a signal. -/
def Signal.kind : Signal → Kind
  | .connected => .connected
  | .failed _ => .failed
  | .line _ => .line
  | .finished _ => .finished

/-- Tells a session of a signal. -/
def Signal.tell : Signal → Session → Response
  | .connected => Session.healthOk
  | .failed reason => Session.healthFailed reason
  | .line text => Session.compileLine text
  | .finished outcome => Session.compileFinished (.done outcome)

/-- What gets the signals of a worker: its state after a signal, and why it broke off if it did. -/
abbrev Slots (σ : Type) := σ → Signal → σ × Option Refusal

/-- The reason of a failure that has no outcome: what there is to say, without the blanks around
it. -/
def CompileError.reason : CompileError → Reason
  | .transport text => Reason.ofText (Text.trim text) .unexplained
  | .unexpected fault =>
    Reason.ofText (Text.trim fault.text) (Reason.ofText fault.kind .unexplained)
  | .tooDeep e => Reason.ofText (Text.trim e.message) .unexplained
  | .refused e => Reason.ofText (Text.trim e.message) .unexplained

/-- The outcome that a compilation is reported with. -/
def reportedOutcome : Except CompileError Outcome → Outcome
  | .ok outcome => outcome
  | .error e => .failure e.reason

/-- Runs a compilation, handing each line to a receiver, and decides the outcome to report. -/
def runCompilation {σ : Type} (c : Client) (filename code : Text)
    (receive : Receiver σ Refusal) (s : σ) (t : Transport) : σ × Outcome × Transport :=
  let (s, result, t) := c.compile filename code receive s t
  (s, reportedOutcome result, t)

/-- What can run in the background. -/
inductive Worker
  /-- A health check of the bridge. -/
  | healthCheck
  /-- The compilation of a document under a file name, as it was when the user asked for it. -/
  | compilation (filename code : Text)
  deriving DecidableEq, Repr

namespace Worker

/-- Whether a worker is a compilation. -/
def isCompilation : Worker → Bool
  | .healthCheck => false
  | .compilation _ _ => true

/-- Tells of the result of a health check. The good news is told where failures are caught: should
it make the slots break off, the bad news follows. Details of a failure are left out. -/
def tellHealth {σ : Type} (c : Client) (slots : Slots σ) (s : σ) :
    Except HealthError Unit → σ × Option Refusal
  | .ok () =>
    match slots s .connected with
    | (s, none) => (s, none)
    | (s, some _) => slots s (.failed c.unreachableMessage)
  | .error _ => slots s (.failed c.unreachableMessage)

/-- Runs a worker: the state of its slots after all its signals, why they broke off at last if they
did, and the transport. -/
def run {σ : Type} (c : Client) (slots : Slots σ) (s : σ) (t : Transport) :
    Worker → σ × Option Refusal × Transport
  | .healthCheck =>
    let (result, t) := c.checkHealth t
    let (s, refusal) := tellHealth c slots s result
    (s, refusal, t)
  | .compilation filename code =>
    let (s, outcome, t) :=
      runCompilation c filename code (fun s text => slots s (.line text)) s t
    let (s, refusal) := slots s (.finished outcome)
    (s, refusal, t)

/-- The signals of a worker in order, if nobody breaks off over them, and the transport. -/
def signals (worker : Worker) (c : Client) (t : Transport) : List Signal × Transport :=
  let (told, _, t) := worker.run c (fun told signal => (told ++ [signal], none)) [] t
  (told, t)

end Worker

/-- The report of a health check: the signals that it gave, in order. -/
structure HealthReport where
  /-- The signals. -/
  signals : List Signal
  deriving DecidableEq, Repr

/-- Runs a health check. -/
def runHealthCheck (c : Client) (t : Transport) : HealthReport × Transport :=
  let (signals, t) := Worker.healthCheck.signals c t
  (⟨signals⟩, t)

/-- Tells a session of a health check, signal by signal. -/
def HealthReport.tell (r : HealthReport) (s : Session) : Response :=
  r.signals.foldl (fun response signal => response.andThen signal.tell) s.unchanged

end SourceEditor.Bridge

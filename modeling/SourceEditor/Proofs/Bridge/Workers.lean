import SourceEditor.Bridge.Worker
import SourceEditor.Proofs.Compile.Calls
import SourceEditor.Proofs.Compile.Delivery

/-!
# Workers

What the workers have in common: each makes one request, and nothing but its signals reaches whoever
is connected to them.

* `Bridge.Worker.transport_run`: a worker makes its request, and no other.
* `Bridge.Worker.run_induction`: what every signal leaves as it is, a worker leaves as it is.
-/

namespace SourceEditor.Bridge

/-- The call that a session gets for a signal. -/
def Signal.call : Signal → Session.Call
  | .connected => .healthOk
  | .failed reason => .healthFailed reason
  | .line text => .compileLine text
  | .finished outcome => .compileFinished outcome

/-- A session is told of a signal by a call. -/
theorem Signal.tell_eq (signal : Signal) (s : Session) : signal.tell s = signal.call.respond s := by
  cases signal <;> rfl

/-- No signal begins a compilation. -/
theorem Signal.call_ne_beginCompile (signal : Signal) : signal.call ≠ .beginCompile := by
  cases signal <;> nofun

/-- What every line of a reply leaves as it is, a compilation leaves as it is. -/
theorem runCompilation_induction {σ : Type} {P : σ → Prop} {receive : Receiver σ Refusal}
    (step : ∀ s line, P s → P (receive s line).1) (c : Client) (filename code : Text) {s : σ}
    (hs : P s) (t : Transport) : P (runCompilation c filename code receive s t).1 := by
  show P (Client.outcomeOfReply receive s (t.send (c.compileRequest filename code)).1).1
  unfold Client.outcomeOfReply
  split
  · exact hs
  · split
    · exact LineStream.foldFrom_induction step _ none hs _
    · exact hs

namespace Worker

variable {σ : Type} (c : Client) (slots : Slots σ) (s : σ) (t : Transport)

/-- The request that a worker makes. -/
def request : Worker → Request
  | .healthCheck => c.healthRequest
  | .compilation filename code => c.compileRequest filename code

/-- A worker makes its request, whoever gets its signals. -/
theorem transport_run (worker : Worker) :
    (worker.run c slots s t).2.2 = (t.send (worker.request c)).2 := by
  cases worker <;> rfl

variable {slots s}

/-- What every signal leaves as it is, a worker leaves as it is. -/
theorem run_induction {P : σ → Prop} (step : ∀ s signal, P s → P (slots s signal).1) (hs : P s)
    (worker : Worker) : P (worker.run c slots s t).1 := by
  cases worker with
  | healthCheck =>
    show P (tellHealth c slots s (c.checkHealth t).1).1
    have hgood := step s .connected hs
    unfold tellHealth
    split
    · split
      · next h => rwa [h] at hgood
      · next h =>
        rw [h] at hgood
        exact step _ _ hgood
    · exact step _ _ hs
  | compilation filename code =>
    exact step _ _
      (runCompilation_induction (fun s line => step s (.line line)) c filename code hs t)

end Worker

end SourceEditor.Bridge

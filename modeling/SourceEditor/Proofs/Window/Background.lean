import SourceEditor.Proofs.Bridge.HealthChecked
import SourceEditor.Proofs.Window.History
import SourceEditor.Proofs.Window.Opened

/-!
# The background of a window

Two things keep a window from beginning what it has begun already: the thread that it holds, and the
state of its session. They are changed by different hands at different times, and yet they never
disagree. A click that is refused starts no thread, and a thread that runs is told to quit by the
very signal that frees the session, so that a window never locks up and never asks for one
compilation twice.

* `InStep`: the thread that is held is the one in the background, and runs what the session is busy
  with.
* `Window.runTask_health`, `Window.runTask_compilation`: a thread that runs finishes, and frees both
  the session and the hold on it.
* `Window.Balanced`: the two are in step, and each compilation that began is asked for or waits.
* `Window.background_inStep`: so it is through every history.
-/

namespace SourceEditor

/-- A thread that checks the health of the bridge, and has not been told to quit. -/
def Thread.health (id : Nat) : Thread where
  id := id
  worker := .healthCheck
  doneSignals := [.connected, .failed]
  onFinished := .health

/-- A thread that compiles a document, and has not been told to quit. -/
def Thread.compilation (id : Nat) (filename code : Text) : Thread where
  id := id
  worker := .compilation filename code
  doneSignals := [.finished]
  onFinished := .compile

/-- The background of a window is what a session of a state is busy with, and the window holds on to
just that. -/
inductive InStep : CompileState → Background → Prop
  | free {state : CompileState} (hfree : state.isBusy = false) (count : Nat) :
      InStep state ⟨[], count, none, none⟩
  | connecting (id count : Nat) : InStep .connecting ⟨[.health id], count, some id, none⟩
  | compiling (id count : Nat) (filename code : Text) :
      InStep .compiling ⟨[.compilation id filename code], count, none, some id⟩

/-- Whether a request is one to compile. -/
def Bridge.Request.isCompilation (r : Bridge.Request) : Bool :=
  r.method == "POST" && ("/compile" : Text).isSuffixOf r.url

/-- How many of the requests made so far are requests to compile. -/
def Bridge.Transport.compilations (t : Bridge.Transport) : Nat :=
  t.requests.countP Bridge.Request.isCompilation

/-- How many of some threads are to compile. -/
def Thread.compilations (threads : List Thread) : Nat :=
  threads.countP fun thread => thread.worker.isCompilation

namespace InStep

variable {state : CompileState} {b : Background}

/-- The thread of a health check is held exactly while the session is connecting. -/
theorem isSome_healthThread_iff (h : InStep state b) :
    b.healthThread.isSome = true ↔ state = .connecting := by
  cases h with
  | free hfree => simp [(CompileState.ne_of_free hfree).1]
  | connecting => simp
  | compiling => simp

/-- The thread of a compilation is held exactly while the session is compiling. -/
theorem isSome_compileThread_iff (h : InStep state b) :
    b.compileThread.isSome = true ↔ state = .compiling := by
  cases h with
  | free hfree => simp [(CompileState.ne_of_free hfree).2]
  | connecting => simp
  | compiling => simp

/-- Never are two threads held. -/
theorem not_both (h : InStep state b) : b.healthThread = none ∨ b.compileThread = none := by
  cases h <;> simp

/-- What waits in the background is the thread that is held, if there is one. -/
theorem map_id_tasks (h : InStep state b) :
    b.tasks.map Thread.id = b.healthThread.toList ++ b.compileThread.toList := by
  cases h <;> rfl

/-- A health check waits exactly while the session is connecting. -/
theorem health_iff (h : InStep state b) :
    (∃ thread ∈ b.tasks, thread.worker = .healthCheck) ↔ state = .connecting := by
  cases h with
  | free hfree => simp [(CompileState.ne_of_free hfree).1]
  | connecting => simp [Thread.health]
  | compiling => simp [Thread.compilation]

/-- A compilation waits exactly while the session is compiling. -/
theorem compilation_iff (h : InStep state b) :
    (∃ thread ∈ b.tasks, ∃ filename code, thread.worker = .compilation filename code) ↔
      state = .compiling := by
  cases h with
  | free hfree => simp [(CompileState.ne_of_free hfree).2]
  | connecting => simp [Thread.health]
  | compiling => simp [Thread.compilation]

/-- Never do two threads wait. -/
theorem length_tasks_le (h : InStep state b) : b.tasks.length ≤ 1 := by
  cases h <;> simp

/-- While nothing is going on, nothing waits and nothing is held. -/
theorem eq_of_free (h : InStep state b) (hfree : state.isBusy = false) :
    b = ⟨[], b.threadCount, none, none⟩ := by
  cases h with
  | free => rfl
  | connecting | compiling => simp [CompileState.isBusy] at hfree

end InStep

/-! ## Requests -/

namespace Bridge

variable (c : Client) (t : Transport)

/-- A request that is made is counted if it is one to compile. -/
theorem compilations_send (r : Request) :
    (t.send r).2.compilations = t.compilations + r.isCompilation.toNat := by
  unfold Transport.send Transport.compilations
  split <;> cases h : r.isCompilation <;> simp [List.countP_append, h]

/-- The request of a worker is one to compile exactly if the worker is to compile. -/
theorem isCompilation_request (worker : Worker) :
    (worker.request c).isCompilation = worker.isCompilation := by
  cases worker with
  | healthCheck => rfl
  | compilation filename code =>
    -- The address ends as it should whatever the host and the port are.
    unfold Request.isCompilation
    rw [Worker.request, Client.compileRequest, Worker.isCompilation, Bool.and_eq_true]
    exact ⟨rfl, List.isSuffixOf_iff_suffix.mpr (List.suffix_append _ _)⟩

/-- A worker asks for a compilation once if it is to compile, and otherwise never. -/
theorem compilations_run {σ : Type} (slots : Slots σ) (s : σ) (worker : Worker) :
    (worker.run c slots s t).2.2.compilations =
      t.compilations + worker.isCompilation.toNat := by
  rw [Worker.transport_run, compilations_send, isCompilation_request]

end Bridge

namespace Window

variable {d : Desktop} {n : Nat} {w w' : Window}

/-- A window whose background is in step with its session, and whose requests to compile, together
with the compilation that may wait, are `n` more than those of the desktop. -/
structure Balanced (d : Desktop) (n : Nat) (w : Window) : Prop where
  inStep : InStep w.session.state w.toBackground
  asked : w.transport.compilations + Thread.compilations w.tasks = d.transport.compilations + n

/-- What a window looks like has no part in its balance. -/
theorem Balanced.congr (h : Balanced d n w) (hsame : w'.compilerSide = w.compilerSide) :
    Balanced d n w' := by
  have hsession : w'.session = w.session := congrArg CompilerSide.session hsame
  have hbackground : w'.toBackground = w.toBackground := congrArg CompilerSide.background hsame
  have htransport : w'.transport = w.transport := congrArg CompilerSide.transport hsame
  constructor
  · rw [hsession, hbackground]
    exact h.inStep
  · rw [htransport, hbackground]
    exact h.asked

/-! ## Clicks -/

/-- While the session is busy, it refuses, whatever is held. -/
theorem connect_of_isBusy (hbusy : w.session.state.isBusy = true) : w.connect = w := by
  unfold connect
  split
  · rfl
  · rw [(Session.begin_of_isBusy hbusy).1]
    rfl

/-- While the session is busy, no compilation begins, whatever is held. -/
theorem compile_of_isBusy (hbusy : w.session.state.isBusy = true) : w.compile = w := by
  unfold compile
  split
  · rfl
  · rw [(Session.begin_of_isBusy hbusy).2]
    rfl

/-- A window that is free starts the thread of a health check and holds on to it. -/
theorem connect_of_free (hfree : w.session.state.isBusy = false) (hhealth : w.healthThread = none) :
    w.connect.session.state = .connecting ∧ w.connect.transport = w.transport ∧
      w.connect.toBackground =
        ⟨w.tasks ++ [.health w.threadCount], w.threadCount + 1, some w.threadCount,
          w.compileThread⟩ := by
  unfold connect
  -- No thread is in the way, and the session accepts.
  rw [hhealth, Option.isSome_none, if_neg Bool.false_ne_true, Session.beginConnect_of_free hfree]
  exact ⟨rfl, rfl, rfl⟩

/-- A window that is free and connected starts the thread of a compilation, with the document as it
is at the click, and holds on to it. -/
theorem compile_of_free (hfree : w.session.state.isBusy = false) (hcompile : w.compileThread = none)
    (hconnected : w.session.connected = true) :
    w.compile.session.state = .compiling ∧ w.compile.transport = w.transport ∧
      w.compile.toBackground =
        ⟨w.tasks ++ [.compilation w.threadCount w.language.compileFilename w.text],
          w.threadCount + 1, w.healthThread, some w.threadCount⟩ := by
  unfold compile
  rw [hcompile, Option.isSome_none, if_neg Bool.false_ne_true,
    Session.beginCompile_of_free hfree hconnected]
  obtain ⟨hsession, -, -⟩ := w.session.forget_andThen_enter
  obtain ⟨_, _, _, _, _, hheard⟩ :=
    w.exists_followSession_eq (w.session.forget.andThen (Session.enter .compiling))
  dsimp only
  rw [if_pos rfl, hheard, hsession]
  exact ⟨rfl, rfl, rfl⟩

/-- Without a connection, the click fails, unless it is refused. -/
theorem compile_of_not_connected (hconnected : w.session.connected = false) :
    (w.compile = w ∨ w.compile.session.state.isBusy = false) ∧
      w.compile.toBackground = w.toBackground ∧ w.compile.transport = w.transport := by
  cases hbusy : w.session.state.isBusy with
  | true =>
    rw [compile_of_isBusy hbusy]
    exact ⟨Or.inl rfl, rfl, rfl⟩
  | false =>
    have hbegin := Session.beginCompile_of_not_connected hbusy hconnected
    unfold compile
    rw [hbegin]
    split
    · exact ⟨Or.inl rfl, rfl, rfl⟩
    · exact ⟨Or.inr rfl, rfl, rfl⟩

/-- The click looks at the thread that is held and the session alone. -/
theorem session_compile (w : Window) : w.compile.session =
    if w.compileThread.isSome then w.session else w.session.beginCompile.2.session := by
  unfold compile
  split
  · rfl
  · dsimp only [runInThread]
    split <;> simp

/-- A click begins a compilation if the session compiles afterwards and did not before. -/
theorem beginsCompiling_iff : w.beginsCompiling .compile = true ↔
    w.session.state ≠ .compiling ∧ w.compile.session.state = .compiling := by
  have hstep : (w.step .compile).1.session = w.compile.session :=
    (session_compile _).trans (session_compile w).symm
  rw [beginsCompiling, hstep]
  simp

/-- While the session is busy, no click begins a compilation. -/
theorem beginsCompiling_of_isBusy (hbusy : w.session.state.isBusy = true) :
    w.beginsCompiling .compile = false := by
  rw [Bool.eq_false_iff, ne_eq, beginsCompiling_iff, compile_of_isBusy hbusy]
  exact fun h => h.1 h.2

/-- Without a connection, no click begins a compilation. -/
theorem beginsCompiling_of_not_connected (hconnected : w.session.connected = false) :
    w.beginsCompiling .compile = false := by
  rw [Bool.eq_false_iff, ne_eq, beginsCompiling_iff]
  rintro ⟨hne, hstate⟩
  rcases (compile_of_not_connected hconnected).1 with hsame | hfree
  · rw [hsame] at hstate
    exact hne hstate
  · simp [hstate, CompileState.isBusy] at hfree

/-- A click on Connect keeps the balance. -/
theorem Balanced.connect (h : Balanced d n w) : Balanced d n w.connect := by
  cases hbusy : w.session.state.isBusy with
  | true => rwa [connect_of_isBusy hbusy]
  | false =>
    have hbackground := h.inStep.eq_of_free hbusy
    have htasks : w.tasks = [] := congrArg Background.tasks hbackground
    have hcompile : w.compileThread = none := congrArg Background.compileThread hbackground
    obtain ⟨hstate', htransport', hbackground'⟩ :=
      connect_of_free hbusy (congrArg Background.healthThread hbackground)
    rw [htasks, hcompile] at hbackground'
    constructor
    · rw [hstate', hbackground']
      exact .connecting _ _
    · -- A health check is no compilation.
      have hasked := h.asked
      rw [htasks] at hasked
      rwa [htransport', hbackground']

/-- A click on Compile keeps the balance: it counts if a compilation begins. -/
theorem Balanced.compile (h : Balanced d n w) :
    Balanced d (n + (w.beginsCompiling .compile).toNat) w.compile := by
  cases hbusy : w.session.state.isBusy with
  | true => rwa [beginsCompiling_of_isBusy hbusy, compile_of_isBusy hbusy]
  | false =>
    have hbackground := h.inStep.eq_of_free hbusy
    have htasks : w.tasks = [] := congrArg Background.tasks hbackground
    have hhealth : w.healthThread = none := congrArg Background.healthThread hbackground
    cases hconnected : w.session.connected with
    | true =>
      obtain ⟨hstate', htransport', hbackground'⟩ :=
        compile_of_free hbusy (congrArg Background.compileThread hbackground) hconnected
      rw [htasks, hhealth] at hbackground'
      rw [beginsCompiling_iff.mpr ⟨(CompileState.ne_of_free hbusy).2, hstate'⟩]
      constructor
      · rw [hstate', hbackground']
        exact .compiling _ _ _ _
      · -- The compilation that waits now is the one that began.
        have hasked : w.transport.compilations = d.transport.compilations + n := by
          simpa [htasks, Thread.compilations] using h.asked
        rw [htransport', hbackground', hasked]
        rfl
    | false =>
      obtain ⟨hfree', hbackground', htransport'⟩ := compile_of_not_connected hconnected
      rw [beginsCompiling_of_not_connected hconnected]
      constructor
      · rw [hbackground', hbackground]
        refine .free (hfree'.elim (fun hsame => ?_) id) _
        rw [hsame, hbusy]
      · rw [htransport', hbackground']
        exact h.asked

/-! ## Signals -/

/-- A signal over which the session does not break off reaches the thread as well. -/
theorem deliver_of_taken (thread : Thread) (signal : Bridge.Signal)
    (h : (signal.call.respond w.session).refusal = none) :
    deliver (w, thread) signal = ((w.followSession (signal.call.respond w.session),
      { thread with quits := thread.quits || thread.doneSignals.contains signal.kind }), none) := by
  have htaken := w.takeSignal_eq signal
  simp only [deliver, htaken, h]

/-- A signal that is none of those that a thread quits upon leaves the thread as it is, also if the
session breaks off over it. -/
theorem snd_deliver {thread : Thread} {signal : Bridge.Signal}
    (h : signal.kind ∉ thread.doneSignals) : (deliver (w, thread) signal).1.2 = thread := by
  have htaken := w.takeSignal_eq signal
  simp only [deliver, htaken]
  cases (signal.call.respond w.session).refusal <;> simp [h]

/-- Taking a line keeps the balance. -/
theorem Balanced.takeLine (h : Balanced d n w) (line : Text) :
    Balanced d n (takeLine w line).1 := by
  rw [takeLine_eq]
  constructor
  · rw [session_followSession, Session.state_compileLine, toBackground_followSession]
    exact h.inStep
  · rw [transport_followSession, toBackground_followSession]
    exact h.asked

/-! ## Threads -/

/-- What a thread leaves of a window is what its worker leaves of it, apart from the end of the
thread. -/
theorem runTask_eq {thread : Thread} {s : Window × Thread} {refusal : Option Refusal}
    {t : Bridge.Transport}
    (h : thread.worker.run w.client deliver (w, thread) w.transport = (s, refusal, t)) :
    w.runTask thread = leaveThread { s.1 with transport := t } s.2 := by
  unfold runTask
  rw [h]

/-- Leaving a thread makes no request. -/
theorem transport_leaveThread (thread : Thread) :
    (w.leaveThread thread).transport = w.transport := by
  unfold leaveThread threadFinished
  split
  · split <;> rfl
  · rfl

/-- The requests that a thread makes are those of its worker. -/
theorem compilations_runTask (thread : Thread) : (w.runTask thread).transport.compilations =
    w.transport.compilations + thread.worker.isCompilation.toNat := by
  have hrun := Bridge.compilations_run w.client w.transport deliver (w, thread) thread.worker
  generalize hran : thread.worker.run w.client deliver (w, thread) w.transport = ran at hrun
  rw [runTask_eq hran, transport_leaveThread, hrun]

/-- The last signal of a worker ends its thread, if the thread quits upon it: the session is told,
and the window hears that the thread has finished. -/
theorem runTask_of_told (thread : Thread) (signal : Bridge.Signal) {refusal : Option Refusal}
    {t : Bridge.Transport}
    (hrun : thread.worker.run w.client deliver (w, thread) w.transport =
      ((deliver (w', thread) signal).1, refusal, t))
    (hrefusal : (signal.call.respond w'.session).refusal = none)
    (hquits : thread.doneSignals.contains signal.kind = true) :
    (w.runTask thread).session = (signal.call.respond w'.session).session ∧
      (w.runTask thread).toBackground = (w'.threadFinished thread.onFinished).toBackground := by
  rw [runTask_eq hrun, deliver_of_taken thread signal hrefusal, leaveThread, hquits, Bool.or_true,
    if_pos rfl]
  -- Whichever handle the slot lets go of, the rest of the background is as it was.
  have hkept := w'.toBackground_followSession (signal.call.respond w'.session)
  cases thread.onFinished with
  | health => exact ⟨rfl, congrArg (fun b : Background => { b with healthThread := none }) hkept⟩
  | compile => exact ⟨rfl, congrArg (fun b : Background => { b with compileThread := none }) hkept⟩

/-- The thread of a health check that the session waits for finishes when it has run: the session is
free, and the window lets go of the thread. -/
theorem runTask_health (hstate : w.session.state = .connecting) (id : Nat) :
    (w.runTask (.health id)).session.state.isBusy = false ∧
      (w.runTask (.health id)).toBackground = { w.toBackground with healthThread := none } := by
  -- The session takes either signal without breaking off, so that the signal reaches the thread.
  by_cases hup : (w.transport.send w.client.healthRequest).1.IsUp
  · obtain ⟨hsession, -, hrefusal⟩ := Session.healthOk_of_connecting hstate
    have hdelivered := deliver_of_taken (.health id) .connected hrefusal
    have hrun := Bridge.Worker.run_healthCheck_of_isUp deliver (w, .health id) hup
      (congrArg Prod.snd hdelivered)
    obtain ⟨htold, hbackground⟩ := runTask_of_told (.health id) .connected hrun hrefusal rfl
    refine ⟨?_, hbackground⟩
    rw [htold, Bridge.Signal.call, Session.Call.respond, hsession]
    rfl
  · obtain ⟨reason, -, hsession, -, hrefusal⟩ :=
      Bridge.healthFailed_unreachableMessage hstate w.client
    have hrun := Bridge.Worker.run_healthCheck_of_not_isUp deliver (w, .health id) hup
    obtain ⟨htold, hbackground⟩ := runTask_of_told (.health id) _ hrun hrefusal rfl
    refine ⟨?_, hbackground⟩
    rw [htold, Bridge.Signal.call, Session.Call.respond, hsession]
    rfl

/-- What the lines of a compilation leave of a window and the thread that compiles: the session goes
on compiling, the background stays as it was, and the thread is told nothing. -/
structure StillCompiles (w : Window) (thread : Thread) (s : Window × Thread) : Prop where
  state : s.1.session.state = .compiling
  background : s.1.toBackground = w.toBackground
  untold : s.2 = thread

/-- A line leaves a compilation going on, also if the session breaks off over it. -/
theorem StillCompiles.deliver_line {thread : Thread} {s : Window × Thread}
    (h : StillCompiles w thread s) (hkind : .line ∉ thread.doneSignals) (line : Text) :
    StillCompiles w thread (deliver s (.line line)).1 where
  state := by
    rw [fst_deliver]
    exact (Session.state_compileLine line _).trans h.state
  background := by
    rw [fst_deliver, toBackground_followSession, h.background]
  untold := by
    have hkeeps : Bridge.Signal.Kind.line ∉ s.2.doneSignals := by rwa [h.untold]
    exact (snd_deliver hkeeps).trans h.untold

/-- The thread of a compilation that the session waits for finishes when it has run: the session is
free, and the window lets go of the thread. -/
theorem runTask_compilation (hstate : w.session.state = .compiling) (id : Nat)
    (filename code : Text) :
    let thread := Thread.compilation id filename code
    (w.runTask thread).session.state.isBusy = false ∧
      (w.runTask thread).toBackground = { w.toBackground with compileThread := none } := by
  intro thread
  -- The compilation goes on through all lines; where one makes the session break off, it fails, and
  -- its end is told like any other.
  have hkind : Bridge.Signal.Kind.line ∉ thread.doneSignals := by
    show Bridge.Signal.Kind.line ∉ [Bridge.Signal.Kind.finished]
    decide
  have hlines := Bridge.runCompilation_induction (P := StillCompiles w thread)
    (fun _ line h => h.deliver_line hkind line) w.client filename code
    (s := (w, thread)) ⟨hstate, rfl, rfl⟩ w.transport
  generalize hran : Bridge.runCompilation w.client filename code
    (fun s line => deliver s (.line line)) (w, thread) w.transport = ran at hlines
  obtain ⟨⟨w', thread'⟩, outcome, t⟩ := ran
  obtain ⟨hstate', hbackground, rfl⟩ := hlines
  have hrun : thread.worker.run w.client deliver (w, thread) w.transport =
      ((deliver (w', thread) (.finished outcome)).1, (deliver (w', thread) (.finished outcome)).2,
        t) := by
    show Bridge.Worker.run _ _ _ _ (.compilation filename code) = _
    rw [Bridge.Worker.run, hran]
  obtain ⟨htold, hfinished⟩ :=
    runTask_of_told thread (.finished outcome) hrun (Session.refusal_compileFinished _ _) rfl
  refine ⟨?_, ?_⟩
  · rw [htold, Bridge.Signal.call, Session.Call.respond, Session.state_compileFinished hstate']
    rfl
  · rw [hfinished, ← hbackground]
    rfl

/-- When the threads have run, none is left and none is held, the session is free, and every
compilation that began has been asked for. -/
theorem Balanced.runTasks_free (h : Balanced d n w) :
    w.runTasks.session.state.isBusy = false ∧
      w.runTasks.toBackground = ⟨[], w.threadCount, none, none⟩ ∧
      w.runTasks.transport.compilations = d.transport.compilations + n := by
  obtain ⟨hstep, hasked⟩ := h
  -- The threads run in a window whose background is empty but for what is held.
  suffices hran : ∀ w' : Window, w'.session.state = w.session.state → w'.transport = w.transport →
      w'.toBackground = { w.toBackground with tasks := [] } →
      (w.toBackground.tasks.foldl runTask w').session.state.isBusy = false ∧
        (w.toBackground.tasks.foldl runTask w').toBackground =
          ⟨[], w.toBackground.threadCount, none, none⟩ ∧
        (w.toBackground.tasks.foldl runTask w').transport.compilations =
          d.transport.compilations + n from hran { w with tasks := [] } rfl rfl rfl
  intro w' hstate htransport hbackground
  rw [← htransport] at hasked
  rw [← hstate] at hstep
  generalize w.toBackground = background at hstep hasked hbackground ⊢
  generalize hstate' : w'.session.state = state at hstep
  -- The state of the session says which thread there is, if there is one at all.
  cases hstep with
  | free hfree count => exact ⟨hstate' ▸ hfree, hbackground, hasked⟩
  | connecting id count =>
    obtain ⟨hfree, hleft⟩ := runTask_health hstate' id
    rw [hbackground] at hleft
    exact ⟨hfree, hleft, (compilations_runTask (Thread.health id)).trans hasked⟩
  | compiling id count filename code =>
    obtain ⟨hfree, hleft⟩ := runTask_compilation hstate' id filename code
    rw [hbackground] at hleft
    exact ⟨hfree, hleft,
      (compilations_runTask (Thread.compilation id filename code)).trans hasked⟩

/-- Running the threads keeps the balance. -/
theorem Balanced.runTasks (h : Balanced d n w) : Balanced d n w.runTasks := by
  obtain ⟨hfree, hbackground, hasked⟩ := h.runTasks_free
  constructor
  · rw [hbackground]
    exact .free hfree _
  · rw [hbackground]
    exact hasked

/-! ## Histories -/

/-- Through every history, what is held and what the session does are in step. -/
theorem History.balanced (h : History d n w) : Balanced d n w := by
  refine h.induction (fun _ _ _ hsame h => h.congr hsame) ?_ (fun _ _ h => h.connect)
    (fun _ _ h => h.compile) (fun _ _ h => h.runTasks) fun _ _ line h => h.takeLine line
  intro w hsession hbackground _ htransport
  -- A window opens with a free session, and with nothing in its background.
  constructor
  · show InStep w.session.state w.toBackground
    rw [hsession, hbackground]
    exact .free rfl 0
  · show w.transport.compilations + Thread.compilations w.toBackground.tasks =
      d.transport.compilations + 0
    rw [htransport, hbackground]
    rfl

/-- Through every history, the thread of a health check is held exactly while the session is
connecting, and that of a compilation exactly while it is compiling; never are both held, and what
waits in the background is the thread that is held. When the threads have run, none is left, neither
is held and the session is free, so that the window can connect again, and compile too if it is
connected: it takes hold of a new thread. The requests to compile that were ever made, with the one
that may still wait, are as many as the clicks that moved the session to a compilation, and a click
without a connection makes none. -/
theorem background_inStep (h : History d n w) :
    let after := (w.step .runTasks).1
    ((w.healthThread.isSome = true ↔ w.session.state = .connecting) ∧
      (w.compileThread.isSome = true ↔ w.session.state = .compiling) ∧
      (w.healthThread = none ∨ w.compileThread = none) ∧
      w.tasks.map Thread.id = w.healthThread.toList ++ w.compileThread.toList ∧
      ((∃ thread ∈ w.tasks, thread.worker = .healthCheck) ↔ w.session.state = .connecting) ∧
      ((∃ thread ∈ w.tasks, ∃ filename code, thread.worker = .compilation filename code) ↔
        w.session.state = .compiling) ∧ w.tasks.length ≤ 1) ∧
    (after.healthThread = none ∧ after.compileThread = none ∧ after.tasks = [] ∧
      after.session.state ≠ .connecting ∧ after.session.state ≠ .compiling ∧
      (after.step .connect).1.session.state = .connecting ∧
      (after.step .connect).1.healthThread = some after.threadCount ∧
      (after.session.connected = true → (after.step .compile).1.session.state = .compiling ∧
        (after.step .compile).1.compileThread = some after.threadCount)) ∧
    (w.transport.compilations + Thread.compilations w.tasks = d.transport.compilations + n ∧
      after.transport.compilations = d.transport.compilations + n) ∧
    (w.session.connected = false → w.beginsCompiling .compile = false ∧
      (w.step .compile).1.toBackground = w.toBackground ∧
      (w.step .compile).1.transport = w.transport) := by
  intro after
  have hbalanced : Balanced d n w := h.balanced
  have hstep : InStep w.session.state w.toBackground := hbalanced.inStep
  -- A step of a window forgets what the window told before, and then is the operation itself.
  have hafter : Balanced d n { w with notices := [] } := hbalanced.congr rfl
  obtain ⟨hfree, hbackground, hasked⟩ := hafter.runTasks_free
  have hhealth : after.healthThread = none := congrArg Background.healthThread hbackground
  have hcompile : after.compileThread = none := congrArg Background.compileThread hbackground
  have htasks : after.tasks = [] := congrArg Background.tasks hbackground
  obtain ⟨hconnecting, hcompiling⟩ := CompileState.ne_of_free hfree
  obtain ⟨hconnect, -, hconnectBackground⟩ :=
    connect_of_free (w := { after with notices := [] }) hfree hhealth
  refine ⟨⟨hstep.isSome_healthThread_iff, hstep.isSome_compileThread_iff, hstep.not_both,
      hstep.map_id_tasks, hstep.health_iff, hstep.compilation_iff, hstep.length_tasks_le⟩,
    ⟨hhealth, hcompile, htasks, hconnecting, hcompiling, hconnect,
      congrArg Background.healthThread hconnectBackground, fun hconnected => ?_⟩,
    ⟨hbalanced.asked, hasked⟩, fun hconnected => ?_⟩
  · obtain ⟨hstate, -, hcompileBackground⟩ :=
      compile_of_free (w := { after with notices := [] }) hfree hcompile hconnected
    exact ⟨hstate, congrArg Background.compileThread hcompileBackground⟩
  · have hclick := compile_of_not_connected (w := { w with notices := [] }) hconnected
    exact ⟨beginsCompiling_of_not_connected hconnected, hclick.2⟩

/-- A window that has connected and is to compile holds the thread of the compilation, which is
asked for when the threads run; then the window lets go of it. -/
theorem background_inStep_compiling :
    let d : Desktop := { transport := { replies := [{}, {}] } }
    ∃ w, History d 1 w ∧ w.compileThread.isSome = true ∧
      (∃ thread ∈ w.tasks, ∃ filename code, thread.worker = .compilation filename code) ∧
      w.transport.compilations = 0 ∧ (w.step .runTasks).1.compileThread = none ∧
      (w.step .runTasks).1.transport.compilations = 1 := by
  intro d
  -- The run is computed; what holds of it is not.
  obtain ⟨w, hw, hbegins, hstate, hsent⟩ := exists_launch_eq (d := d) (P := fun w =>
    let connected := w.run [.connect, .runTasks]
    let clicked := (connected.step .compile).1
    connected.beginsCompiling .compile = true ∧ clicked.session.state = .compiling ∧
      clicked.transport.compilations = 0) (by decide +kernel)
  have hhistory : History d 1 ((w.run [.connect, .runTasks]).step .compile).1 :=
    ((History.launch hw).run (by simp)).compile hbegins
  obtain ⟨⟨-, hheld, -, -, -, hcompilation, -⟩, ⟨-, hfree, -⟩, ⟨-, hasked⟩, -⟩ :=
    background_inStep hhistory
  exact ⟨_, hhistory, hheld.mpr hstate, hcompilation.mpr hstate, hsent, hfree, hasked⟩

end Window

end SourceEditor

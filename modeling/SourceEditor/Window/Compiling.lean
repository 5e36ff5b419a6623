import SourceEditor.Window.State

/-!
# Connecting and compiling

The bridge in the background of a window. A click starts a thread, and the window holds on to it
until it has finished. The thread runs later, with the document as it was at the click; the signals
of its worker reach the session of the window, and the last of them tells the thread to quit.

* `Window.connect` and `Window.compile` look at two things: whether a thread is held, and what the
  session says.
* `Window.deliver` is what a signal of a thread's worker sets off.
* `Window.runTask` runs a thread, and `Window.leaveThread` lets go of it if it was told to quit.
-/

namespace SourceEditor.Window

/-- Starts a thread that runs a worker until it is told to quit by one of some signals. Its number
is a new one. -/
def runInThread (w : Window) (worker : Bridge.Worker) (doneSignals : List Bridge.Signal.Kind)
    (onFinished : FinishedSlot) : Nat × Window :=
  let thread : Thread := { id := w.threadCount, worker, doneSignals, onFinished }
  (thread.id, { w with tasks := w.tasks ++ [thread], threadCount := w.threadCount + 1 })

/-- Begins to connect, unless the thread of a health check is held or the session is busy. -/
def connect (w : Window) : Window :=
  if w.healthThread.isSome then w
  else
    let (accepted, response) := w.session.beginConnect
    let w := w.followSession response
    if accepted then
      let (thread, w) := w.runInThread .healthCheck [.connected, .failed] .health
      { w with healthThread := some thread }
    else w

/-- Begins to compile, unless the thread of a compilation is held or the session does not allow
it. -/
def compile (w : Window) : Window :=
  if w.compileThread.isSome then w
  else
    let (accepted, response) := w.session.beginCompile
    let w := w.followSession response
    if accepted then
      let w := { w with log := #[] }
      let (thread, w) :=
        w.runInThread (.compilation w.language.compileFilename w.text) [.finished] .compile
      { w with compileThread := some thread }
    else w

/-- Takes a signal of a worker into the session. -/
def takeSignal : Bridge.Slots Window := fun w signal =>
  let session := w.session
  -- The window lets go of its session meanwhile, so that the log of the session grows in place.
  let w := { w with session := {} }
  let response := signal.tell session
  (w.followSession response, response.refusal)

/-- Takes a line of the compiler. -/
def takeLine : Receiver Window Refusal := fun w line =>
  w.takeSignal (.line line)

/-- Delivers a signal of the worker of a thread: first to the session and then, unless that broke
off, to the thread, which is told to quit if it is done with the signal. -/
def deliver : Bridge.Slots (Window × Thread) := fun (w, thread) signal =>
  match w.takeSignal signal with
  | (w, some refusal) => ((w, thread), some refusal)
  | (w, none) =>
    let quits := thread.quits || thread.doneSignals.contains signal.kind
    ((w, { thread with quits }), none)

/-- Hears that a thread has finished. -/
def threadFinished (w : Window) : FinishedSlot → Window
  | .health => { w with healthThread := none }
  | .compile => { w with compileThread := none }

/-- Leaves a thread whose worker has run: the thread finishes if it was told to quit by then, and
otherwise stays in the background. -/
def leaveThread (w : Window) (thread : Thread) : Window :=
  if thread.quits then w.threadFinished thread.onFinished
  else { w with tasks := w.tasks ++ [thread] }

/-- Runs a thread. -/
def runTask (w : Window) (thread : Thread) : Window :=
  let ((w, thread), _, transport) := thread.worker.run w.client deliver (w, thread) w.transport
  leaveThread { w with transport } thread

/-- Runs all threads that wait, in order. -/
def runTasks (w : Window) : Window :=
  w.tasks.foldl runTask { w with tasks := [] }

end SourceEditor.Window

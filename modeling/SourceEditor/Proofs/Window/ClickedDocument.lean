import SourceEditor.Proofs.Bridge.Requested
import SourceEditor.Proofs.Window.Background
import SourceEditor.Proofs.Window.Restored

/-!
# The document of a click

A click on Compile is about the document as it is at that moment. Until the compilation runs, the
user may go on with anything: the request that the bridge gets carries what was clicked.

* `Window.Meanwhile`: what a window may become before its threads run.
* `Window.compile_requests`: the request of a compilation, and what it carries for a click.
-/

namespace SourceEditor.Window

variable {d : Desktop} {n : Nat} {w w' : Window}

/-- What a window may become before its threads run: the user does anything, and may edit the text
in any way. -/
inductive Meanwhile (w : Window) : Window → Prop
  | refl : Meanwhile w w
  | step {w' : Window} (h : Meanwhile w w') {a : Action} (ha : a ≠ .runTasks) :
      Meanwhile w (w'.step a).1
  | edit {w' : Window} (h : Meanwhile w w') (b : Buffer) : Meanwhile w (w'.setBuffer b)

/-- Nothing that the user does has a part in what the compiler is busy with. -/
theorem Meanwhile.compilerSide_eq (h : Meanwhile w w') (hbusy : w.session.state.isBusy = true) :
    w'.compilerSide = w.compilerSide := by
  induction h with
  | refl => rfl
  | @step w' _ a ha ih =>
    have hbusy' : w'.session.state.isBusy = true := by
      rw [show w'.session = w.session from congrArg CompilerSide.session ih]
      exact hbusy
    rw [← ih]
    -- Connect and Compile are refused, and nothing else that is done reaches the compiler.
    cases a with
    | connect =>
      show (connect { w' with notices := [] }).compilerSide = w'.compilerSide
      rw [connect_of_isBusy (w := { w' with notices := [] }) hbusy']
      rfl
    | compile =>
      show (compile { w' with notices := [] }).compilerSide = w'.compilerSide
      rw [compile_of_isBusy (w := { w' with notices := [] }) hbusy']
      rfl
    | runTasks => exact absurd rfl ha
    | _ => exact compilerSide_perform rfl
  | edit _ b ih => rw [compilerSide_setBuffer, ih]

/-- Windows with a history are among those that can come about. -/
theorem History.reachable (h : History d n w) : Reachable w := by
  induction h with
  | launch h => exact .launch h
  | step _ a ih => exact ih.step a
  | edit _ b ih => exact ih.edit b
  | line _ line ih =>
    rw [takeLine_eq]
    exact ih.call (.compileLine line)

/-- The file names under which documents are compiled can be encoded. -/
theorem isEncodable_compileFilename (h : w.language ∈ Language.all) :
    Utf8.isEncodable w.language.compileFilename = true := by
  have hall : ∀ l ∈ Language.all, Utf8.isEncodable l.compileFilename = true := by decide
  exact hall _ h

/-- A thread that compiles sends its request, and no other. -/
theorem requests_runTask_compilation (w : Window) (id : Nat) (filename code : Text) :
    (w.runTask (.compilation id filename code)).transport.requests =
      w.transport.requests ++ [w.client.compileRequest filename code] := by
  have hrun := Bridge.Worker.transport_run w.client deliver (w, Thread.compilation id filename code)
    w.transport (.compilation filename code)
  generalize hran : Bridge.Worker.run w.client deliver (w, Thread.compilation id filename code)
    w.transport (.compilation filename code) = ran at hrun
  rw [runTask_eq hran, transport_leaveThread, hrun]
  exact w.transport.requests_send _

/-- A click that is accepted finds nothing else waiting, and leaves the document waiting. -/
theorem History.click (h : History d n w) (hclick : w.beginsCompiling .compile = true) :
    (w.step .compile).1.session.state = .compiling ∧
      (w.step .compile).1.transport = w.transport ∧
      (w.step .compile).1.tasks =
        [.compilation w.threadCount w.language.compileFilename w.text] := by
  have hfree : w.session.state.isBusy = false := by
    by_contra hbusy
    rw [beginsCompiling_of_isBusy (by simpa using hbusy)] at hclick
    cases hclick
  have hconnected : w.session.connected = true := by
    by_contra hnot
    rw [beginsCompiling_of_not_connected (by simpa using hnot)] at hclick
    cases hclick
  have hbackground := h.balanced.inStep.eq_of_free hfree
  have htasks : w.tasks = [] := congrArg Background.tasks hbackground
  obtain ⟨hstate, htransport, hstarted⟩ := compile_of_free (w := { w with notices := [] }) hfree
    (congrArg Background.compileThread hbackground) hconnected
  refine ⟨hstate, htransport, (congrArg Background.tasks hstarted).trans ?_⟩
  show w.tasks ++ _ = _
  rw [htasks]
  rfl

/-- A compilation sends one request, which carries the document and its file name exactly. If a
window is asked to compile, the request is sent when its threads run; whatever the user did between,
it carries the document as it was at the click, under the file name of the language of that time. -/
theorem compile_requests :
    (∀ (c : Bridge.Client) (filename code : Text), Utf8.isEncodable filename = true →
      Utf8.isEncodable code = true → ∀ {σ : Type} (receive : Receiver σ Refusal) (s : σ)
        (t : Bridge.Transport), ∃ request : Bridge.Request,
          (c.compile filename code receive s t).2.2.requests = t.requests ++ [request] ∧
          request.Carries c.baseUrl filename code) ∧
    ∀ (d : Desktop) (n : Nat) (w w' : Window), History d n w →
      w.beginsCompiling .compile = true → Meanwhile (w.step .compile).1 w' →
        ∃ request : Bridge.Request,
          (w'.step .runTasks).1.transport.requests = w.transport.requests ++ [request] ∧
          request.Carries w'.client.baseUrl w.language.compileFilename w.text := by
  refine ⟨fun c filename code hfilename hcode σ receive s t => ?_,
    fun d n w w' hhistory hclick hmeanwhile => ?_⟩
  · exact ⟨_, Bridge.Client.requests_compile c filename code receive s t,
      Bridge.Client.carries_compileRequest c hfilename hcode⟩
  · obtain ⟨hstate, htransport, htasks⟩ := hhistory.click hclick
    -- What waits, and what was sent so far, is still the same when the threads run.
    have hsame := hmeanwhile.compilerSide_eq (by rw [hstate]; rfl)
    have htasks' : w'.tasks =
        [.compilation w.threadCount w.language.compileFilename w.text] :=
      (congrArg (fun side => side.background.tasks) hsame).trans htasks
    have htransport' : w'.transport = w.transport :=
      (congrArg CompilerSide.transport hsame).trans htransport
    refine ⟨w'.client.compileRequest w.language.compileFilename w.text, ?_,
      Bridge.Client.carries_compileRequest _
        (isEncodable_compileFilename hhistory.reachable.savable.language)
        w.surface.buffer.isEncodable_text⟩
    show (w'.tasks.foldl runTask { w' with notices := [], tasks := [] }).transport.requests = _
    rw [htasks', List.foldl_cons, List.foldl_nil, requests_runTask_compilation]
    show w'.transport.requests ++ _ = _
    rw [htransport']

/-- A text with a quote, a backslash, a line feed and a character beyond U+FFFF is to be compiled.
Before the compilation runs, the user takes another text and another language. -/
theorem compile_requests_edited :
    let d : Desktop := { transport := { replies := [{}, {}] } }
    let code : Text := "\"\\\n😀"
    let ignore : Receiver Unit Refusal := fun s _ => (s, none)
    (∃ request : Bridge.Request,
      (({} : Bridge.Client).compile "Main.kt" code ignore () d.transport).2.2.requests =
        [request] ∧ request.Carries "http://127.0.0.1:8177" "Main.kt" code) ∧
    ∃ w w', History d 0 w ∧ w.beginsCompiling .compile = true ∧
      Meanwhile (w.step .compile).1 w' ∧ w'.text = "other" ∧ w'.language = .java ∧
      ∃ request : Bridge.Request,
        (w'.step .runTasks).1.transport.requests = w.transport.requests ++ [request] ∧
        request.Carries w'.client.baseUrl "Main.kt" code := by
  intro d code ignore
  have hbase : ({} : Bridge.Client).baseUrl = "http://127.0.0.1:8177" := by decide +kernel
  obtain ⟨asked, hasked, hcarried⟩ :=
    compile_requests.1 {} "Main.kt" code (by decide) (by decide) ignore () d.transport
  rw [hbase] at hcarried
  refine ⟨⟨asked, hasked, hcarried⟩, ?_⟩
  let before : List Action := [.connect, .runTasks, .setText code]
  let edited (w : Window) : Window :=
    (((w.step .compile).1.step (.setText "other")).1.step
      (.chooseLanguage Language.java.name)).1
  -- The run is computed; what it sends is not.
  obtain ⟨w, hw, hbegins, htext, hlanguage, htext', hlanguage'⟩ := exists_launch_eq (d := d)
    (P := fun w => (w.run before).beginsCompiling .compile = true ∧ (w.run before).text = code ∧
      (w.run before).language = .kotlin ∧ (edited (w.run before)).text = "other" ∧
      (edited (w.run before)).language = .java) (by decide +kernel)
  have hhistory : History d 0 (w.run before) := (History.launch hw).run (by simp [before])
  have hmeanwhile : Meanwhile ((w.run before).step .compile).1 (edited (w.run before)) :=
    (Meanwhile.refl.step (by simp)).step (by simp)
  obtain ⟨request, hsent, hcarries⟩ :=
    compile_requests.2 d 0 (w.run before) _ hhistory hbegins hmeanwhile
  rw [htext, hlanguage] at hcarries
  exact ⟨_, _, hhistory, hbegins, hmeanwhile, htext', hlanguage', request, hsent, hcarries⟩

end SourceEditor.Window

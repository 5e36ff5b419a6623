import SourceEditor.Proofs.Window.Changes

/-!
# Histories of a window

What a window and its compiler have been through together. The compiler is heard only when tasks
run, and its lines may come one by one, with anything else between them.

* `Window.compilerSide`: all of a window that has to do with its compiler. Nothing but clicks on
  Connect and Compile, tasks and lines touches it (`Window.compilerSide_perform`).
* `Window.History`: the windows that come about from a desktop, and how many compilations began.
* `Window.History.induction`: what an invariant of histories has to be checked for.
-/

namespace SourceEditor.Window

/-- All of a window that has to do with its compiler. -/
structure CompilerSide where
  session : Session
  background : Background
  transport : Bridge.Transport
  chip : Text × Text
  result : Text × Text
  compileEnabled : Bool
  log : Array Text

variable {d : Desktop} {n : Nat} {w w' : Window}

def compilerSide (w : Window) : CompilerSide where
  session := w.session
  background := w.toBackground
  transport := w.transport
  chip := w.chip
  result := w.result
  compileEnabled := w.compileEnabled
  log := w.log

/-- An edit is no matter of the compiler. -/
theorem compilerSide_setBuffer (w : Window) (b : Buffer) :
    (w.setBuffer b).compilerSide = w.compilerSide := by
  obtain ⟨_, _, h⟩ := w.exists_setBuffer_eq b
  rw [h]
  rfl

/-- Nor is any other change in which it has no part. -/
theorem Adjustment.compilerSide_eq (h : Adjustment w w') : w'.compilerSide = w.compilerSide := by
  cases h with
  | buffer b => exact w.compilerSide_setBuffer b
  | timer =>
    obtain ⟨_, _, h⟩ := w.exists_timer_eq
    rw [h]
    rfl
  | find q =>
    obtain ⟨_, h⟩ := w.exists_setFind_eq q
    rw [h]
    rfl
  | language name =>
    obtain ⟨_, _, _, _, h⟩ := w.exists_setLanguage_eq name
    rw [h]
    rfl
  | _ => rfl

/-- Nor is a run of such changes. -/
theorem Adjustments.compilerSide_eq (h : Adjustments w w') : w'.compilerSide = w.compilerSide := by
  induction h with
  | refl => rfl
  | tail _ hlast ih => exact hlast.compilerSide_eq.trans ih

/-- An action that is not for the compiler leaves all that has to do with it alone. -/
theorem compilerSide_perform {a : Action} (ha : a.isForCompiler = false) :
    (w.perform a).1.compilerSide = w.compilerSide :=
  (w.adjustments_perform ha).compilerSide_eq

/-! ## Histories -/

/-- Whether an action moves the session to a compilation. -/
def beginsCompiling (w : Window) : Action → Bool
  | .compile => w.session.state != .compiling && (w.step .compile).1.session.state == .compiling
  | _ => false

/-- A window that comes about from a desktop by actions and edits, with the number of actions that
moved its session to a compilation. Tasks run at once when they run, but a line may also come alone:
those of a compilation that is running come one by one, and anything else may come between them. -/
inductive History (d : Desktop) : Nat → Window → Prop
  | launch {w : Window} (h : launch d = .ok w) : History d 0 w
  | step {n : Nat} {w : Window} (h : History d n w) (a : Action) :
      History d (n + (w.beginsCompiling a).toNat) (w.step a).1
  | edit {n : Nat} {w : Window} (h : History d n w) (b : Buffer) : History d n (w.setBuffer b)
  | line {n : Nat} {w : Window} (h : History d n w) (line : Text) :
      History d n (takeLine w line).1

/-- What depends on the compiler's side of a window alone holds through all histories if it holds of
a new session that is shown, and is kept by the clicks, the tasks and the lines. -/
theorem History.induction {P : Nat → Window → Prop}
    (same : ∀ n w w', w'.compilerSide = w.compilerSide → P n w → P n w')
    (opened : ∀ w : Window, w.session = {} → w.toBackground = {} → w.log = #[] →
      w.transport = d.transport → P 0 w.showSession)
    (connect : ∀ n w, P n w → P n w.connect)
    (compile : ∀ n w, P n w → P (n + (w.beginsCompiling .compile).toNat) w.compile)
    (runTasks : ∀ n w, P n w → P n w.runTasks)
    (line : ∀ n w line, P n w → P n (takeLine w line).1)
    (h : History d n w) : P n w := by
  induction h with
  | launch h =>
    -- Up to the end, when it shows its state, a window that opens is a fresh one on this side.
    obtain ⟨files, themes, p, w', hadjusted, rfl⟩ := adjustments_launch h
    have hfresh := hadjusted.compilerSide_eq
    refine same 0 w'.showSession _ rfl (opened w' ?_ ?_ ?_ ?_)
    · exact congrArg CompilerSide.session hfresh
    · exact congrArg CompilerSide.background hfresh
    · exact congrArg CompilerSide.log hfresh
    · exact congrArg CompilerSide.transport hfresh
  | @step n w _ a ih =>
    have hforgotten : P n { w with notices := [] } := same n w _ rfl ih
    -- Three of the actions reach the compiler; the others leave this side alone.
    cases a with
    | connect => exact connect _ _ hforgotten
    | compile => exact compile _ _ hforgotten
    | runTasks => exact runTasks _ _ hforgotten
    | _ => exact same n _ _ (compilerSide_perform rfl) hforgotten
  | edit _ b ih => exact same _ _ _ (compilerSide_setBuffer _ b) ih
  | line _ line' ih => exact line _ _ line' ih

/-- Without a click on Compile, no compilation begins. -/
theorem History.run (h : History d n w) {actions : List Action} (hno : .compile ∉ actions) :
    History d n (w.run actions) := by
  induction actions generalizing w with
  | nil => exact h
  | cons a actions ih =>
    obtain ⟨ha, hno⟩ := not_or.mp (mt List.mem_cons.mpr hno)
    refine ih ?_ hno
    have hstep := h.step a
    cases a with
    | compile => exact absurd rfl ha
    | _ => exact hstep

/-- A compilation that begins is one more in the history. -/
theorem History.compile (h : History d n w) (hbegins : w.beginsCompiling .compile = true) :
    History d (n + 1) (w.step .compile).1 := by
  have hstep := h.step .compile
  rwa [hbegins] at hstep

end SourceEditor.Window

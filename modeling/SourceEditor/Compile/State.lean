import SourceEditor.Text.Basic

/-!
# Compile states

Where an editor stands with its compiler: idle, busy, or done with an outcome. A failure always has
a reason that a reader can see, which is part of its type.

* `CompileState.label` and `CompileState.resultText` are what the window shows of a state.
-/

namespace SourceEditor

/-- Why a compilation failed: a text that is not blank. -/
structure Reason where
  /-- The words of the reason. -/
  text : Text
  /-- There is something to read. -/
  isBlank_eq_false : Text.isBlank text = false
  deriving DecidableEq, Repr

namespace Reason

/-- A text as a reason; blank texts are none. -/
def ofText? (t : Text) : Option Reason :=
  if h : Text.isBlank t = false then some ⟨t, h⟩ else none

/-- A text that says something is a reason. -/
theorem ofText?_of_not_isBlank {t : Text} (h : Text.isBlank t = false) :
    ofText? t = some ⟨t, h⟩ :=
  dif_pos h

/-- A blank one is none. -/
theorem ofText?_of_isBlank {t : Text} (h : Text.isBlank t = true) : ofText? t = none :=
  dif_neg (by simp [h])

/-- A text as a reason, or another reason if it is blank. -/
def ofText (t : Text) (otherwise : Reason) : Reason :=
  (ofText? t).getD otherwise

/-- A text that says something is the reason that it gives. -/
theorem text_ofText {t : Text} (h : Text.isBlank t = false) (otherwise : Reason) :
    (ofText t otherwise).text = t := by
  rw [ofText, ofText?_of_not_isBlank h, Option.getD_some]

/-- A blank one gives the other reason. -/
theorem ofText_of_isBlank {t : Text} (h : Text.isBlank t = true) (otherwise : Reason) :
    ofText t otherwise = otherwise := by
  rw [ofText, ofText?_of_isBlank h, Option.getD_none]

/-- The compiler is not connected. -/
def notConnected : Reason :=
  ⟨"Not connected to compiler bridge", by decide⟩

/-- The compiler gave no result. -/
def noResult : Reason :=
  ⟨"Compilation failed (bridge closed the stream without a result)", by decide⟩

/-- Nothing more is known. -/
def unexplained : Reason :=
  ⟨"Compilation failed", by decide⟩

end Reason

/-- What is said of a failure whose reason is blank. -/
def blankReasonMessage : Text :=
  "Failure.reason must be a non-empty string"

/-- How a compilation ends. -/
inductive Outcome
  /-- It succeeded, and may say where it left its product. -/
  | success (artifact : Option Text)
  /-- It failed. -/
  | failure (reason : Reason)
  deriving DecidableEq, Repr

/-- Where an editor stands with its compiler. -/
inductive CompileState
  /-- Nothing is going on. -/
  | idle
  /-- The connection is being tried. -/
  | connecting
  /-- A compilation is running. -/
  | compiling
  /-- The last compilation or connection ended. -/
  | done (outcome : Outcome)
  deriving DecidableEq, Repr

namespace CompileState

/-- Whether something is going on that has to end first. -/
def isBusy : CompileState → Bool
  | .connecting | .compiling => true
  | _ => false

/-- The words and the colour of the status chip, for a state and whether the compiler is
connected. -/
def label (connected : Bool) : CompileState → Text × Text
  | .idle => if connected then ("Connected", "#2e7d32") else ("Disconnected", "#9e9e9e")
  | .connecting => ("Connecting...", "#6a1b9a")
  | .compiling => ("Compiling...", "#1976d2")
  | .done (.success _) => ("Success", "#2e7d32")
  | .done (.failure _) => ("Failure", "#c62828")

/-- The words below the compile log. -/
def resultText : CompileState → Text
  | .idle => ""
  | .connecting => "Connecting to bridge…"
  | .compiling => "Compiling…"
  | .done (.success artifact) =>
    let place := artifact.getD []
    ("Compilation succeeded.\nArtifact: " : Text)
      ++ (if place.isEmpty then ("(artifact path not provided)" : Text) else place)
  | .done (.failure reason) => ("Compilation failed.\n" : Text) ++ Text.trim reason.text

end CompileState

end SourceEditor

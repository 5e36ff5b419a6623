import SourceEditor.Compile.Terminal
import SourceEditor.Text.Utf8

/-!
# Compile streams

The reply of a compiler is a stream of lines, which may break off with a fault. Every line is handed
to a receiver in order; the outcome is decided by the last terminal line once the stream has ended.
-/

namespace SourceEditor

/-- Lines that arrive one by one. -/
structure LineStream (Fault : Type) where
  /-- The lines that arrive. -/
  lines : List Text
  /-- What cuts the stream off after them, unless it ends as it should. -/
  cut : Option Fault := none

/-- Why no outcome came out of a stream. -/
inductive StreamError (Fault Refusal : Type)
  /-- The stream was cut off. -/
  | cut (fault : Fault)
  /-- A line is too deep to be read. -/
  | tooDeep (e : Json.TooDeep)
  /-- The receiver could not take a line. -/
  | refused (refusal : Refusal)

/-- What takes the lines of a stream: its state after a line, and why it takes no more if it does
not. -/
abbrev Receiver (σ Refusal : Type) := σ → Text → σ × Option Refusal

namespace LineStream

variable {σ Fault Refusal : Type}

/-- Hands lines to a receiver in order, keeping the last terminal line, and decides the outcome at
the end. -/
def foldFrom (receive : Receiver σ Refusal) (cut : Option Fault) (terminal? : Option Terminal)
    (s : σ) : List Text → σ × Except (StreamError Fault Refusal) Outcome
  | [] =>
    match cut with
    | some fault => (s, .error (.cut fault))
    | none => (s, .ok (Outcome.ofTerminal terminal?))
  | line :: rest =>
    match receive s line with
    | (s, some refusal) => (s, .error (.refused refusal))
    | (s, none) =>
      match Terminal.ofLine line with
      | .error e => (s, .error (.tooDeep e))
      | .ok found? => foldFrom receive cut (found?.or terminal?) s rest

/-- Hands a stream to a receiver and decides the outcome. -/
def fold (stream : LineStream Fault) (receive : Receiver σ Refusal) (s : σ) :
    σ × Except (StreamError Fault Refusal) Outcome :=
  foldFrom receive stream.cut none s stream.lines

end LineStream

/-- Bytes cut after each line feed; the last piece may lack it. -/
def byteLines : Bytes → List Bytes
  | [] => []
  | b :: rest =>
    if b = 0x0A then [b] :: byteLines rest
    else
      match byteLines rest with
      | [] => [[b]]
      | line :: lines => (b :: line) :: lines

/-- The text of a line of bytes, without the line end. -/
def lineText (line : Bytes) : Text :=
  Text.trimEndWhile (fun c => c == '\r' || c == '\n') (Utf8.decodeLossy line)

/-- The lines of a body of bytes. -/
def bodyLines (body : Bytes) : List Text :=
  (byteLines body).map lineText

end SourceEditor

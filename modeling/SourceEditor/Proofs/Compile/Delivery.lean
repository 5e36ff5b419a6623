import SourceEditor.Compile.Stream
import Mathlib.Data.List.Forall2

/-!
# What is delivered of a stream

A receiver that takes every line gets the lines of a stream in order, up to the first one that is
too deep to be read, and the outcome is known only behind the last of them.

* `LineStream.Delivers`: the lines that a stream delivers, and what comes behind them.
* `LineStream.fold_delivers`: what `LineStream.fold` makes of a stream, for every receiver that
  takes every line.
* `LineStream.foldFrom_induction`: what no line changes, a stream does not change.
-/

namespace SourceEditor.LineStream

variable {σ Fault Refusal : Type}

/-- What the lines report, one after the other; none of them is too deep to be read. -/
abbrev AllRead (lines : List Text) (found : List (Option Terminal)) : Prop :=
  List.Forall₂ (fun line found? => Terminal.ofLine line = .ok found?) lines found

/-- The last report among those that some lines were found to make. -/
def lastReport? (found : List (Option Terminal)) : Option Terminal :=
  (found.filterMap id).getLast?

/-- The lines that a stream delivers, and what comes behind them. -/
inductive Delivers (stream : LineStream Fault) :
    List Text → Except (StreamError Fault Refusal) Outcome → Prop
  /-- The stream ends as it should, and its last terminal line decides. -/
  | complete {found : List (Option Terminal)} (hread : AllRead stream.lines found)
      (hcut : stream.cut = none) :
      Delivers stream stream.lines (.ok (.ofTerminal (lastReport? found)))
  /-- The stream is cut off, whatever its lines said by then. -/
  | cut {found : List (Option Terminal)} {fault : Fault} (hread : AllRead stream.lines found)
      (hcut : stream.cut = some fault) : Delivers stream stream.lines (.error (.cut fault))
  /-- A line is too deep to be read; it is still delivered. -/
  | tooDeep {before after : List Text} {line : Text} {found : List (Option Terminal)}
      {e : Json.TooDeep} (hlines : stream.lines = before ++ line :: after)
      (hread : AllRead before found) (hline : Terminal.ofLine line = .error e) :
      Delivers stream (before ++ [line]) (.error (.tooDeep e))

/-- Either every line can be read, or there is a first one that cannot. -/
theorem allRead_or_tooDeep (lines : List Text) :
    (∃ found, AllRead lines found) ∨ ∃ before line after found e,
      lines = before ++ line :: after ∧ AllRead before found ∧ Terminal.ofLine line = .error e := by
  induction lines with
  | nil => exact Or.inl ⟨[], .nil⟩
  | cons line rest ih =>
    cases hline : Terminal.ofLine line with
    | error e => exact Or.inr ⟨[], line, rest, [], e, rfl, .nil, hline⟩
    | ok found? =>
      rcases ih with ⟨found, hread⟩ | ⟨before, deep, after, found, e, rfl, hread, hdeep⟩
      · exact Or.inl ⟨found? :: found, .cons hline hread⟩
      · exact Or.inr
          ⟨line :: before, deep, after, found? :: found, e, rfl, .cons hline hread, hdeep⟩

theorem lastReport?_cons_or (found? terminal? : Option Terminal) (found : List (Option Terminal)) :
    (lastReport? (found? :: found)).or terminal? =
      (lastReport? found).or (found?.or terminal?) := by
  unfold lastReport?
  cases found? with
  | none => rw [List.filterMap_cons_none rfl, Option.none_or]
  | some t =>
    have hcons : (some t :: found).filterMap id = t :: found.filterMap id := rfl
    rw [hcons, List.getLast?_cons]
    cases (found.filterMap id).getLast? <;> rfl

/-- The receiver after some lines. -/
def received (receive : Receiver σ Refusal) (s : σ) (lines : List Text) : σ :=
  lines.foldl (fun s line => (receive s line).1) s

/-- A receiver that keeps what it gets has the lines in their order. -/
theorem received_record (told lines : List Text) :
    received (fun told line => (told ++ [line], (none : Option Refusal))) told lines =
      told ++ lines := by
  induction lines generalizing told with
  | nil => exact (List.append_nil told).symm
  | cons line rest ih => exact (ih (told ++ [line])).trans (List.append_assoc told [line] rest)

section

variable {receive : Receiver σ Refusal}

/-- Lines that can be read go to the receiver, and the last report among them is kept. -/
theorem foldFrom_append (hreceive : ∀ s line, (receive s line).2 = none) (cut : Option Fault)
    (terminal? : Option Terminal) (s : σ) {before : List Text} {found : List (Option Terminal)}
    (hread : AllRead before found) (rest : List Text) :
    foldFrom receive cut terminal? s (before ++ rest) =
      foldFrom receive cut ((lastReport? found).or terminal?) (received receive s before) rest := by
  induction hread generalizing s terminal? with
  | nil => rfl
  | @cons line found? before found hline _ ih =>
    have htaken : receive s line = ((receive s line).1, none) := Prod.ext rfl (hreceive s line)
    rw [List.cons_append, foldFrom, htaken]
    dsimp only
    rw [hline]
    dsimp only
    rw [ih, lastReport?_cons_or]
    rfl

variable (Refusal) in
/-- A stream delivers some lines and a result to every receiver that takes all lines. -/
theorem fold_delivers (stream : LineStream Fault) :
    ∃ lines result, stream.Delivers lines result ∧
      ∀ {σ : Type} {receive : Receiver σ Refusal}, (∀ s line, (receive s line).2 = none) →
        ∀ s, stream.fold receive s = (received receive s lines, result) := by
  unfold fold
  rcases allRead_or_tooDeep stream.lines with
    ⟨found, hread⟩ | ⟨before, line, after, found, e, hlines, hread, hline⟩
  · have hall {σ : Type} {receive : Receiver σ Refusal}
        (hreceive : ∀ s line, (receive s line).2 = none) (s : σ) :
        foldFrom receive stream.cut none s stream.lines =
          foldFrom receive stream.cut (lastReport? found) (received receive s stream.lines) [] := by
      have hall := foldFrom_append hreceive stream.cut none s hread []
      rwa [List.append_nil, Option.or_none] at hall
    cases hcut : stream.cut with
    | none =>
      refine ⟨_, _, .complete hread hcut, fun hreceive s => ?_⟩
      rw [← hcut, hall hreceive, hcut, foldFrom]
    | some fault =>
      refine ⟨_, _, .cut hread hcut, fun hreceive s => ?_⟩
      rw [← hcut, hall hreceive, hcut, foldFrom]
  · -- The line that is too deep has gone to the receiver before it is read.
    refine ⟨_, _, .tooDeep hlines hread hline, fun {σ receive} hreceive s => ?_⟩
    rw [hlines, foldFrom_append hreceive stream.cut none s hread, foldFrom,
      show receive (received receive s before) line =
        ((receive (received receive s before) line).1, none) from Prod.ext rfl (hreceive _ line)]
    dsimp only
    rw [hline]
    simp only [received, List.foldl_append, List.foldl_cons, List.foldl_nil]

end

/-- What every line of a stream leaves as it is, a stream leaves as it is, wherever it ends. -/
theorem foldFrom_induction {P : σ → Prop}
    {receive : Receiver σ Refusal} (step : ∀ s line, P s → P (receive s line).1)
    (cut : Option Fault) (terminal? : Option Terminal) {s : σ} (hs : P s) (lines : List Text) :
    P (foldFrom receive cut terminal? s lines).1 := by
  -- The terminal line found so far changes on the way, but the receiver does not look at it.
  induction lines generalizing s terminal? with
  | nil =>
    unfold foldFrom
    split <;> exact hs
  | cons line rest ih =>
    have hline := step s line hs
    unfold foldFrom
    split
    · next hr => rwa [hr] at hline
    · next hr =>
      rw [hr] at hline
      split
      · exact hline
      · exact ih _ hline

end SourceEditor.LineStream

import SourceEditor.Compile.Stream
import SourceEditor.Numeral.Decimal

/-!
# Transport

Requests to the bridge, which runs the compiler elsewhere, and what may come back: a reply, or a
fault while the connection is opened or while the body is read. A transport answers requests with
the replies it holds, in order, and keeps the requests.
-/

namespace SourceEditor.Bridge

/-- What can go wrong on the way. -/
inductive Fault
  /-- The connection could not be opened, for a reason. -/
  | url (reason : Text)
  /-- The body ended early: the bytes that came, and how many were missing if that is known. -/
  | incomplete (read : Nat) (missing : Option Int)
  /-- Any other fault of the transport, of a kind and with a text. -/
  | transport (kind text : Text)
  /-- A fault that no transport should have, of a kind and with a text. -/
  | unexpected (kind text : Text)
  deriving DecidableEq, Repr

namespace Fault

/-- The kind of a fault. -/
def kind : Fault → Text
  | .url _ => "URLError"
  | .incomplete _ _ => "IncompleteRead"
  | .transport kind _ => kind
  | .unexpected kind _ => kind

/-- What a fault says. -/
def text : Fault → Text
  | .url reason => ("<urlopen error " : Text) ++ reason ++ ">"
  | .incomplete read missing =>
    ("IncompleteRead(" : Text) ++ Numeral.ofNat read ++ " bytes read" ++
      (match missing with
        | some n => ", " ++ Numeral.ofInt n ++ " more expected"
        | none => []) ++ ")"
  | .transport _ text => text
  | .unexpected _ text => text

/-- Whether a fault is one that a transport may have. -/
def isExpected : Fault → Bool
  | .unexpected _ _ => false
  | _ => true

end Fault

/-- A reply of the bridge. It leads nowhere else, so that no other request is made for it. -/
structure Reply where
  /-- The status. -/
  status : Int := 200
  /-- The words that go with the status. -/
  reason : Text := []
  /-- The body, as far as its reader hands it on. A reader hands on line by line: before a fault, a
  piece without a line feed at its end stays with the reader, and so is no part of this. -/
  body : Bytes := []
  /-- The fault that takes the place of the reply. -/
  opening : Option Fault := none
  /-- The fault that comes up behind what the reader hands on. -/
  reading : Option Fault := none
  deriving DecidableEq, Repr

namespace Reply

/-- Whether the status tells success. -/
def isSuccess (r : Reply) : Bool :=
  200 ≤ r.status && r.status ≤ 299

/-- What is said of a status that tells no success. -/
def statusMessage (r : Reply) : Text :=
  "HTTP Error " ++ Numeral.ofInt r.status ++ ": " ++ r.reason

/-- The body as a stream of the lines that its reader hands on, and of the fault behind them. The
last line may lack its line feed, which only happens at the end of a whole body. -/
def stream (r : Reply) : LineStream Fault :=
  ⟨bodyLines r.body, r.reading⟩

end Reply

/-- A request to the bridge. -/
structure Request where
  /-- The method. -/
  method : Text
  /-- Where it goes. -/
  url : Text
  /-- The headers in order of their names, which are in lower case. -/
  headers : List (Text × Text)
  /-- The body, if it has one. -/
  body : Option Text
  /-- The seconds after which the sender gives up. -/
  timeout : Binary64
  deriving DecidableEq, Repr

/-- A transport: the replies it will give, and the requests made so far. -/
structure Transport where
  /-- The replies to come. -/
  replies : List Reply := []
  /-- The requests made, the first one first. -/
  requests : List Request := []
  deriving DecidableEq, Repr

/-- What a transport without replies answers. -/
def Reply.unanswered : Reply where
  opening := some (.url "no answer scripted")

/-- Makes a request. -/
def Transport.send (t : Transport) (r : Request) : Reply × Transport :=
  match t.replies with
  | [] => (.unanswered, ⟨[], t.requests ++ [r]⟩)
  | reply :: rest => (reply, ⟨rest, t.requests ++ [r]⟩)

end SourceEditor.Bridge

import SourceEditor.Bridge.Transport
import SourceEditor.Compile.Session
import SourceEditor.Json.Conversion
import SourceEditor.Json.Writer

/-!
# Bridge clients

The two requests that an editor makes: whether the bridge is up, and the compilation of a document,
whose reply is a stream of lines.
-/

namespace SourceEditor.Bridge

/-- A client of the bridge. -/
structure Client where
  /-- The host of the bridge. -/
  host : Text := "127.0.0.1"
  /-- The port of the bridge. -/
  port : Int := 8177
  /-- The seconds to wait for the health check. -/
  healthTimeout : Binary64 := Binary64.ofInt 2
  /-- The seconds to wait for the compiler. -/
  compileTimeout : Binary64 := Binary64.ofInt 120
  deriving DecidableEq, Repr

/-- Why a health check failed. -/
inductive HealthError
  /-- The bridge cannot be reached, with the details. -/
  | unreachable (detail : Text)
  /-- Something unexpected happened. -/
  | unexpected (fault : Fault)
  deriving DecidableEq, Repr

/-- Why a compilation came to no outcome. -/
inductive CompileError
  /-- The transport failed; the text is the best there is to show. -/
  | transport (text : Text)
  /-- Something unexpected happened. -/
  | unexpected (fault : Fault)
  /-- A line of the reply is too deep to be read. -/
  | tooDeep (e : Json.TooDeep)
  /-- The receiver could not take a line. -/
  | refused (refusal : Refusal)
  deriving DecidableEq, Repr

namespace Client

/-- Where the bridge is. -/
def baseUrl (c : Client) : Text :=
  ("http://" : Text) ++ c.host ++ ":" ++ Numeral.ofInt c.port

/-- What is said of a bridge that cannot be reached. -/
def unreachableMessage (c : Client) : Text :=
  "Bridge not reachable at " ++ c.baseUrl ++ " (check adb reverse)"

/-- The request of the health check. -/
def healthRequest (c : Client) : Request where
  method := "GET"
  url := c.baseUrl ++ "/health"
  headers := []
  body := none
  timeout := c.healthTimeout

/-- What a fault means for the health check. -/
def healthFault (f : Fault) : HealthError :=
  if f.isExpected then .unreachable f.text else .unexpected f

/-- What a reply means for the health check: the bridge is up if the status is exactly 200 and the
body can be read. -/
def healthOfReply (r : Reply) : Except HealthError Unit :=
  match r.opening with
  | some fault => .error (healthFault fault)
  | none =>
    match (if r.isSuccess then r.reading else none) with
    | some fault => .error (healthFault fault)
    | none =>
      if r.status = 200 then .ok () else .error (.unreachable ("HTTP " ++ Numeral.ofInt r.status))

/-- Asks whether the bridge is up. -/
def checkHealth (c : Client) (t : Transport) : Except HealthError Unit × Transport :=
  let (reply, t) := t.send c.healthRequest
  (healthOfReply reply, t)

/-- The body of a compile request. -/
def compileBody (filename code : Text) : Text :=
  Json.write .line (.object [("filename", .string filename), ("code", .string code)])

/-- The request to compile a document under a file name. -/
def compileRequest (c : Client) (filename code : Text) : Request where
  method := "POST"
  url := c.baseUrl ++ "/compile"
  headers := [("accept", "text/plain"), ("content-type", "application/json; charset=utf-8"),
    ("transfer-encoding", "chunked")]
  body := some (compileBody filename code)
  timeout := c.compileTimeout

/-- What a fault means for a compilation. -/
def compileFault (f : Fault) : CompileError :=
  if f.isExpected then .transport (if f.text.isEmpty then f.kind else f.text) else .unexpected f

/-- What a reply whose status tells no success has to say: its body, unless that cannot be read or
is blank. -/
def rejectionText (r : Reply) : Text :=
  let body := match r.reading with
    | some _ => []
    | none => Text.trim (Utf8.decodeLossy r.body)
  if body.isEmpty then r.statusMessage else body

/-- Takes the lines of a reply and decides the outcome of the compilation. -/
def outcomeOfReply {σ : Type} (receive : Receiver σ Refusal) (s : σ) (r : Reply) :
    σ × Except CompileError Outcome :=
  match r.opening with
  | some fault => (s, .error (compileFault fault))
  | none =>
    if r.isSuccess then
      let (s, result) := r.stream.fold receive s
      (s, result.mapError fun
        | .cut fault => compileFault fault
        | .tooDeep e => .tooDeep e
        | .refused refusal => .refused refusal)
    else (s, .error (.transport (rejectionText r)))

/-- Has a document compiled under a file name, handing each line of the reply to a receiver. -/
def compile {σ : Type} (c : Client) (filename code : Text)
    (receive : Receiver σ Refusal) (s : σ) (t : Transport) :
    σ × Except CompileError Outcome × Transport :=
  let (reply, t) := t.send (c.compileRequest filename code)
  let (s, result) := outcomeOfReply receive s reply
  (s, result, t)

end Client

end SourceEditor.Bridge

import SourceEditor.Bridge.Worker
import SourceEditor.Proofs.Json.Written
import SourceEditor.Proofs.Text.Decoding

/-!
# What a compile request carries

The document goes to the bridge as JSON in visible characters of ASCII, whatever characters it
holds, and can be read back as it was.

* `Bridge.Request.Carries`: a request to compile a document under a file name.
* `Bridge.Client.carries_compileRequest`: the request of a client carries what it was given.
* `Bridge.Client.requests_compile`: it is the one request that a compilation makes.
-/

namespace SourceEditor

/-- A character is a visible one of ASCII, or a space. -/
def Character.IsVisibleAscii (c : Character) : Prop :=
  0x20 ≤ c.toNat ∧ c.toNat < 0x7F

instance (c : Character) : Decidable c.IsVisibleAscii :=
  inferInstanceAs (Decidable (_ ∧ _))

namespace Json

/-! ## Written texts -/

/-- Hexadecimal digits are visible characters of ASCII. -/
theorem isVisibleAscii_hexDigit {n : Nat} (h : n < 16) : (hexDigit n).IsVisibleAscii := by
  have hall : ∀ n < 16, (hexDigit n).IsVisibleAscii := by decide
  exact hall n h

/-- So are escapes by number. -/
theorem isVisibleAscii_escapeUnit (u : Nat) : ∀ d ∈ escapeUnit u, d.IsVisibleAscii := by
  have hdigit (n : Nat) : (hexDigit (n % 16)).IsVisibleAscii :=
    isVisibleAscii_hexDigit (Nat.mod_lt n (by decide))
  simp only [escapeUnit, List.forall_mem_cons, hdigit, true_and]
  decide

/-- A code beyond 16 bits makes two escapes. -/
theorem isVisibleAscii_escapeCode (code : Nat) : ∀ d ∈ escapeCode code, d.IsVisibleAscii := by
  unfold escapeCode
  split
  · exact isVisibleAscii_escapeUnit code
  · exact List.forall_mem_append.mpr ⟨isVisibleAscii_escapeUnit _, isVisibleAscii_escapeUnit _⟩

/-- So is a written character. -/
theorem isVisibleAscii_writeCharacter (c : Character) :
    ∀ d ∈ writeCharacter c, d.IsVisibleAscii := by
  unfold writeCharacter
  -- Seven characters have an escape of their own.
  iterate 7
    split
    · decide
  split
  · next hvisible => exact List.forall_mem_singleton.mpr hvisible
  · exact isVisibleAscii_escapeCode c.toNat

/-- So is a written text. -/
theorem isVisibleAscii_writeString (s : Text) : ∀ d ∈ writeString s, d.IsVisibleAscii := by
  have hbody : ∀ d ∈ s.flatMap writeCharacter, d.IsVisibleAscii := by
    intro d hd
    obtain ⟨c, -, hd⟩ := List.mem_flatMap.mp hd
    exact isVisibleAscii_writeCharacter c d hd
  exact List.forall_mem_append.mpr ⟨List.forall_mem_append.mpr ⟨by decide, hbody⟩, by decide⟩

end Json

namespace Bridge

/-- A request to the bridge at an address to compile a document under a file name: its body is
visible ASCII, and a JSON document of just these two texts. -/
structure Request.Carries (r : Request) (base filename code : Text) : Prop where
  method : r.method = "POST"
  url : r.url = base ++ "/compile"
  body : ∃ body, r.body = some body ∧ (∀ c ∈ body, c.IsVisibleAscii) ∧
    ∀ v, Json.IsDocument Json.nestingLimit body v ↔
      v = .object [("filename", .string filename), ("code", .string code)]

/-- A transport keeps the requests in order. -/
theorem Transport.requests_send (t : Transport) (r : Request) :
    (t.send r).2.requests = t.requests ++ [r] := by
  unfold Transport.send
  split <;> rfl

namespace Client

variable {filename code : Text}

/-- The body of a request is an object with a file name and a text. -/
theorem compileBody_eq (filename code : Text) :
    compileBody filename code = ("\x7b" : Text) ++ Json.writeString "filename" ++ ": " ++
      Json.writeString filename ++ ", " ++ Json.writeString "code" ++ ": " ++
        Json.writeString code ++ "\x7d" := by
  simp [compileBody, Json.write, Json.writeAt, Json.writeEntries, Json.Layout.break,
    Json.Layout.afterComma, Json.Layout.line, Text.ofChars]

/-- It is made of visible characters of ASCII. -/
theorem isVisibleAscii_compileBody (filename code : Text) :
    ∀ c ∈ compileBody filename code, c.IsVisibleAscii := by
  rw [compileBody_eq]
  simp only [List.forall_mem_append, and_assoc]
  exact ⟨by decide, Json.isVisibleAscii_writeString _, by decide,
    Json.isVisibleAscii_writeString filename, by decide, Json.isVisibleAscii_writeString _,
    by decide, Json.isVisibleAscii_writeString code, by decide⟩

/-- It is a document with just these two. -/
theorem isDocument_compileBody (hfilename : Utf8.isEncodable filename = true)
    (hcode : Utf8.isEncodable code = true) :
    Json.IsDocument Json.nestingLimit (compileBody filename code)
      (.object [("filename", .string filename), ("code", .string code)]) := by
  obtain ⟨filenameChars, hfilename⟩ := Utf8.isEncodable_iff.mp hfilename
  obtain ⟨codeChars, hcode⟩ := Utf8.isEncodable_iff.mp hcode
  have hkeys : [("filename" : Text), "code"].Nodup := by decide
  refine Json.isDocument_write_object .line hkeys ?_
  simp only [List.forall_mem_cons, List.not_mem_nil, false_implies, implies_true, and_true]
  exact ⟨⟨⟨_, rfl⟩, Json.spells_writeString hfilename _⟩,
    ⟨⟨_, rfl⟩, Json.spells_writeString hcode _⟩⟩

/-- The request of a compilation carries what it is asked for. -/
theorem carries_compileRequest (c : Client) (hfilename : Utf8.isEncodable filename = true)
    (hcode : Utf8.isEncodable code = true) :
    (c.compileRequest filename code).Carries c.baseUrl filename code where
  method := rfl
  url := rfl
  body := by
    have hdocument := isDocument_compileBody hfilename hcode
    refine ⟨_, rfl, isVisibleAscii_compileBody filename code, fun v => ⟨fun hv => ?_, ?_⟩⟩
    · exact hv.unique hdocument
    · rintro rfl
      exact hdocument

variable {σ : Type}

/-- A compilation sends one request. -/
theorem requests_compile (c : Client) (filename code : Text) (receive : Receiver σ Refusal) (s : σ)
    (t : Transport) : (c.compile filename code receive s t).2.2.requests =
      t.requests ++ [c.compileRequest filename code] :=
  t.requests_send _

end Client

end Bridge

end SourceEditor

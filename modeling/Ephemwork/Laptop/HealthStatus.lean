import Ephemwork.Laptop.BastionClient

/-!
# The status of a health probe

`http_get_status` and `parse_status_code` of `src/runner.rs`.  The probe decodes all
of the bytes that it took of a response, the client of the bastion only the head.
-/

namespace Ephemwork

open Foundation

namespace Laptop

/-!
# Parsing
-/

inductive StatusError where
  /-- What resolving, connecting, writing or reading failed with. -/
  | io (message : String)
  /-- `response was not valid UTF-8` -/
  | notUtf8
  /-- `empty response` -/
  | emptyResponse
  /-- `missing version` -/
  | missingVersion
  /-- `missing status code` -/
  | missingCode
  /-- `parsing status code {code:?}` -/
  | badCode (code : List Char)
deriving DecidableEq, Repr

def parseStatusCode (response : Bytes) : Except StatusError UInt16 :=
  match Bytes.toText? response with
  | none => .error .notUtf8
  | some head =>
      match MessageHead.lines head with
      | [] => .error .emptyResponse
      | line :: _ =>
          match Text.words line with
          | [] => .error .missingVersion
          | [_] => .error .missingCode
          | _ :: code :: _ =>
              match Decimal.parse UInt16.size code with
              | none => .error (.badCode code)
              | some status => .ok (UInt16.ofNat status)

def responseLimit : Nat := 4096

/-- The status, from what the exchange with the service brought. -/
def httpGetStatus (received : Except String Bytes) : Except StatusError UInt16 :=
  match received with
  | .error message => .error (.io message)
  | .ok response => parseStatusCode (response.take responseLimit)

/-!
# Responses
-/

/-- A status line: the version, the three digits of the code and the reason. -/
structure StatusLine where
  version : List Char
  code : List Char
  /-- Nothing, or a space and a phrase. -/
  reason : List Char
  version_ne_nil : version ≠ []
  version_visible : forall c, c ∈ version -> Text.isWhitespace c = false
  code_length : code.length = 3
  code_digits : forall c, c ∈ code -> c.isDigit = true
  reason_spaced : reason = [] ∨ exists phrase, reason = ' ' :: phrase
  reason_oneLine : MessageHead.OneLine reason

namespace StatusLine

variable (line : StatusLine)

def text : List Char :=
  line.version ++ ' ' :: (line.code ++ line.reason)

def status : UInt16 :=
  UInt16.ofNat (Nat.ofDigitChars 10 line.code 0)

theorem isLine_text : MessageHead.IsLine line.text := by
  have hversion : MessageHead.IsLine line.version := by
    refine ⟨line.version_ne_nil, ?_, ?_⟩
    · intro hmem
      have hvisible := line.version_visible _ hmem
      cases hvisible
    · intro hmem
      have hvisible := line.version_visible _ hmem
      cases hvisible
  have hcode : MessageHead.OneLine line.code := by
    constructor
    · intro hmem
      have hdigit := line.code_digits _ hmem
      cases hdigit
    · intro hmem
      have hdigit := line.code_digits _ hmem
      cases hdigit
  have hspace : MessageHead.OneLine [' '] := MessageHead.OneLine.of_check rfl
  exact hversion.append (hspace.append (hcode.append line.reason_oneLine))

theorem code_ne_nil : line.code ≠ [] := by
  intro hnil
  have hlength := line.code_length
  rw [hnil] at hlength
  cases hlength

theorem exists_words_text :
    exists more, Text.words line.text = line.version :: line.code :: more := by
  have hspace : Text.isWhitespace ' ' = true := rfl
  have hcode : forall c, c ∈ line.code -> Text.isWhitespace c = false :=
    fun c hc => Text.isWhitespace_of_isDigit (line.code_digits c hc)
  rw [text, Text.words_append line.version_ne_nil line.version_visible hspace]
  rcases line.reason_spaced with hnone | ⟨phrase, hphrase⟩
  · rw [hnone, List.append_nil, Text.words_of_none line.code_ne_nil hcode]
    exact ⟨[], rfl⟩
  · rw [hphrase, Text.words_append line.code_ne_nil hcode hspace]
    exact ⟨Text.words phrase, rfl⟩

theorem parse_code :
    Decimal.parse UInt16.size line.code =
      some (Nat.ofDigitChars 10 line.code 0) := by
  have hlt := Decimal.ofDigitChars_three_lt line.code_length line.code_digits
  have hsize : Nat.ofDigitChars 10 line.code 0 < UInt16.size :=
    Nat.lt_trans hlt (by decide)
  rw [Decimal.parse_of_digits line.code_ne_nil line.code_digits, if_pos hsize]

end StatusLine

/-- The head of a response, ended by the first CRLFCRLF and within what the probe
takes. -/
structure ResponseHead where
  statusLine : StatusLine
  /-- The headers, with the line ends before them. -/
  headers : List Char
  headers_separated : headers = [] ∨ exists block, headers = '\r' :: '\n' :: block
  ends : findDoubleCrlf (Bytes.ofText (statusLine.text ++ headers) ++
      MessageHead.crlfCrlf) =
    some (Bytes.ofText (statusLine.text ++ headers)).length
  fits : (Bytes.ofText (statusLine.text ++ headers) ++
    MessageHead.crlfCrlf).length ≤ responseLimit

def ResponseHead.text (head : ResponseHead) : List Char :=
  head.statusLine.text ++ head.headers

def ResponseHead.bytes (head : ResponseHead) : Bytes :=
  Bytes.ofText head.text ++ MessageHead.crlfCrlf

/-!
# The two parsers
-/

namespace ResponseHead

variable (head : ResponseHead)

theorem parseResponse_eq (body : Bytes) :
    parseResponse (head.bytes ++ body) =
      .ok { status := head.statusLine.status, body := body } := by
  have hfind : findDoubleCrlf (head.bytes ++ body) =
      some (Bytes.ofText head.text).length :=
    Bytes.findWindow_append_of_some head.ends body
  have htake : (head.bytes ++ body).take (Bytes.ofText head.text).length =
      Bytes.ofText head.text := by
    rw [bytes, List.append_assoc, List.take_left]
  have hdrop : (head.bytes ++ body).drop ((Bytes.ofText head.text).length + 4) =
      body := by
    have hlength : head.bytes.length = (Bytes.ofText head.text).length + 4 := by
      simp [bytes, MessageHead.crlfCrlf]
    rw [← hlength, List.drop_left]
  have hlines : exists more, MessageHead.lines head.text =
      head.statusLine.text :: more :=
    MessageHead.exists_lines_of_crlf head.statusLine.isLine_text head.headers_separated
  rcases hlines with ⟨more, hlines⟩
  rcases head.statusLine.exists_words_text with ⟨words, hwords⟩
  rw [parseResponse, hfind]
  simp only [htake, hdrop, Bytes.toText?_ofText, hlines, hwords, List.drop_succ_cons,
    List.drop_zero, head.statusLine.parse_code]
  rfl

theorem parseStatusCode_eq (rest : Bytes) :
    parseStatusCode (head.bytes ++ rest) =
      match Bytes.toText? rest with
      | none => .error .notUtf8
      | some _ => .ok head.statusLine.status := by
  have htext : head.bytes =
      Bytes.ofText (head.text ++ '\r' :: '\n' :: ['\r', '\n']) := by
    rw [bytes, Bytes.ofText_append]
    rfl
  rw [parseStatusCode, htext, Bytes.toText?_ofText_append]
  cases hrest : Bytes.toText? rest with
  | none => rfl
  | some after =>
      have hseparated : head.headers ++ '\r' :: '\n' :: ('\r' :: '\n' :: after) = [] ∨
          exists block, head.headers ++ '\r' :: '\n' :: ('\r' :: '\n' :: after) =
            '\r' :: '\n' :: block := by
        rcases head.headers_separated with hnone | ⟨block, hblock⟩
        · rw [hnone]
          exact Or.inr ⟨_, rfl⟩
        · rw [hblock]
          exact Or.inr ⟨_, rfl⟩
      rcases MessageHead.exists_lines_of_crlf head.statusLine.isLine_text
        hseparated with ⟨more, hlines⟩
      rcases head.statusLine.exists_words_text with ⟨words, hwords⟩
      have hshape : head.text ++ '\r' :: '\n' :: ['\r', '\n'] ++ after =
          head.statusLine.text ++
            (head.headers ++ '\r' :: '\n' :: ('\r' :: '\n' :: after)) := by
        simp [text]
      simp only [Option.map_some, hshape, hlines, hwords, head.statusLine.parse_code]
      rfl

theorem take_responseLimit (body : Bytes) :
    (head.bytes ++ body).take responseLimit =
      head.bytes ++ body.take (responseLimit - head.bytes.length) := by
  have hfits : head.bytes.length ≤ responseLimit := head.fits
  rw [List.take_append, List.take_of_length_le hfits]

end ResponseHead

/-- The probe returns the status, and so does the client of the bastion on the same
bytes. -/
structure ProbeReadsStatus (head : ResponseHead) (body : Bytes) : Prop where
  probe : httpGetStatus (.ok (head.bytes ++ body)) = .ok head.statusLine.status
  client : exists response,
    parseResponse ((head.bytes ++ body).take responseLimit) = .ok response ∧
      response.status = head.statusLine.status

/-- The probe depends on the body: it reads the status exactly if the bytes of the
body that it takes are valid UTF-8. -/
theorem probe_reads_status_iff (head : ResponseHead) (body : Bytes) :
    ProbeReadsStatus head body <->
      Bytes.toText? (body.take (responseLimit - head.bytes.length)) ≠ none := by
  have hprobe : httpGetStatus (.ok (head.bytes ++ body)) =
      match Bytes.toText? (body.take (responseLimit - head.bytes.length)) with
      | none => .error .notUtf8
      | some _ => .ok head.statusLine.status := by
    rw [httpGetStatus, head.take_responseLimit, head.parseStatusCode_eq]
  constructor
  · intro h hnone
    have hread := h.probe
    rw [hprobe, hnone] at hread
    cases hread
  · intro hvalid
    rcases Option.ne_none_iff_exists'.mp hvalid with ⟨text, htext⟩
    constructor
    · rw [hprobe, htext]
    · rw [head.take_responseLimit]
      exact ⟨_, head.parseResponse_eq _, rfl⟩

def okHead : ResponseHead where
  statusLine := {
    version := "HTTP/1.0".toList
    code := "200".toList
    reason := ' ' :: "OK".toList
    version_ne_nil := by simp
    version_visible := Text.not_whitespace_of_check rfl
    code_length := rfl
    code_digits := List.all_eq_true.mp rfl
    reason_spaced := Or.inr ⟨"OK".toList, rfl⟩
    reason_oneLine := MessageHead.OneLine.of_check rfl }
  headers := []
  headers_separated := Or.inl rfl
  ends := by decide +kernel
  fits := by decide +kernel

/-- A body of one byte that is no UTF-8: the client reads the status, the probe
fails. -/
theorem binary_body_hides_status :
    parseResponse ((okHead.bytes ++ [255]).take responseLimit) =
      .ok { status := 200, body := [255] } ∧
    httpGetStatus (.ok (okHead.bytes ++ [255])) = .error .notUtf8 ∧
    ¬ ProbeReadsStatus okHead [255] := by
  have hprobe : httpGetStatus (.ok (okHead.bytes ++ [255])) = .error .notUtf8 := by
    decide +kernel
  refine ⟨?_, hprobe, ?_⟩
  · decide +kernel
  · intro h
    have hread := h.probe
    rw [hprobe] at hread
    cases hread

end Laptop

end Ephemwork

import Ephemwork.Bastion.Http
import Ephemwork.Bastion.Wire

/-!
# The laptop's HTTP client

Request building, response parsing and the two calls of
`src/bastion_client.rs`.  The connection is a parameter: it takes the endpoint
and the bytes of the request, returns the bytes of the answer or an I/O error,
and leaves whatever the other side is left in.
-/

namespace Ephemwork

open Foundation
open Bastion (RegisterRequest RegisterResponse DeregisterRequest SerdeJson
  Response contentLengthValue isContentLength)

namespace Laptop

structure BastionEndpoint where
  host : String
  port : UInt16
deriving DecidableEq, Repr

structure HttpResponse where
  status : UInt16
  body : Bytes
deriving DecidableEq, Repr

inductive ClientError where
  | io (message : String)
  | malformed (message : String)
  | status (status : UInt16) (body : Bytes)
  | decoding (message : String)
deriving DecidableEq, Repr

/-!
# Messages
-/

def requestLines (host path : String) (body : Bytes) : List (List Char) :=
  ["POST ".toList ++ (path.toList ++ " HTTP/1.0".toList),
    "Host: ".toList ++ host.toList,
    "Content-Type: application/json".toList,
    "Content-Length: ".toList ++ Decimal.print body.length,
    "Connection: close".toList]

def requestHead (host path : String) (body : Bytes) : Bytes :=
  MessageHead.render (requestLines host path body)

def buildRequest (host path : String) (body : Bytes) : Bytes :=
  requestHead host path body ++ body

def findDoubleCrlf (raw : Bytes) : Option Nat :=
  Bytes.findWindow MessageHead.crlfCrlf raw

def parseResponse (raw : Bytes) : Except String HttpResponse :=
  match findDoubleCrlf raw with
  | none => .error "malformed http response: no header terminator"
  | some split =>
      match Bytes.toText? (raw.take split) with
      | none => .error "response head was not valid UTF-8"
      | some head =>
          match MessageHead.lines head with
          | [] => .error "missing status line"
          | statusLine :: _ =>
              match (Text.words statusLine).drop 1 with
              | [] => .error "missing status code"
              | code :: _ =>
                  match Decimal.parse UInt16.size code with
                  | none => .error "parsing status code"
                  | some status =>
                      .ok
                        { status := UInt16.ofNat status
                          body := raw.drop (split + 4) }

/-!
# Calls
-/

section

variable {world : Type}
variable (exchange : BastionEndpoint -> Bytes -> Except String Bytes × world)

def postJson (endpoint : BastionEndpoint) (path : String) (body : Bytes) :
    Except ClientError HttpResponse × world :=
  match exchange endpoint (buildRequest endpoint.host path body) with
  | (.error message, after) => (.error (.io message), after)
  | (.ok raw, after) =>
      match parseResponse raw with
      | .error message => (.error (.malformed message), after)
      | .ok parsed =>
          if 200 ≤ parsed.status ∧ parsed.status < 300 then
            (.ok parsed, after)
          else
            (.error (.status parsed.status parsed.body), after)

variable (serde : SerdeJson)

def register (endpoint : BastionEndpoint) (request : RegisterRequest) :
    Except ClientError RegisterResponse × world :=
  match postJson exchange endpoint "/register"
      (serde.registerRequest.encode request) with
  | (.error e, after) => (.error e, after)
  | (.ok response, after) =>
      match serde.registerResponse.decode response.body with
      | .error message => (.error (.decoding message), after)
      | .ok parsed => (.ok parsed, after)

def deregister (endpoint : BastionEndpoint) (request : DeregisterRequest) :
    Except ClientError Unit × world :=
  match postJson exchange endpoint "/deregister"
      (serde.deregisterRequest.encode request) with
  | (.error e, after) => (.error e, after)
  | (.ok _, after) => (.ok (), after)

end

/-!
# Lines of the messages
-/

theorem oneLine_print (n : Nat) : MessageHead.OneLine (Decimal.print n) where
  cr_notMem := Decimal.not_mem_print (by decide) n
  lf_notMem := Decimal.not_mem_print (by decide) n

theorem oneLine_localhost : MessageHead.OneLine "127.0.0.1".toList :=
  MessageHead.OneLine.of_check rfl

/-- A path as the requests use it: not empty and without white space. -/
structure IsPath (path : String) : Prop where
  ne_nil : path.toList ≠ []
  not_whitespace : forall c, c ∈ path.toList -> Text.isWhitespace c = false

theorem IsPath.oneLine {path : String} (h : IsPath path) :
    MessageHead.OneLine path.toList where
  cr_notMem := fun hmem => by
    have hspace := h.not_whitespace _ hmem
    cases hspace
  lf_notMem := fun hmem => by
    have hspace := h.not_whitespace _ hmem
    cases hspace

theorem isPath_register : IsPath "/register" :=
  ⟨by simp, Text.not_whitespace_of_check rfl⟩

theorem isPath_deregister : IsPath "/deregister" :=
  ⟨by simp, Text.not_whitespace_of_check rfl⟩

theorem isLine_of_mem_requestLines {host path : String}
    (hhost : MessageHead.OneLine host.toList) (hpath : IsPath path)
    (body : Bytes) :
    forall line, line ∈ requestLines host path body ->
      MessageHead.IsLine line := by
  intro line hline
  have hversion : MessageHead.OneLine " HTTP/1.0".toList :=
    MessageHead.OneLine.of_check rfl
  simp only [requestLines, List.mem_cons, List.not_mem_nil, or_false] at hline
  rcases hline with rfl | rfl | rfl | rfl | rfl
  · refine MessageHead.IsLine.append ?_ (hpath.oneLine.append hversion)
    exact MessageHead.IsLine.of_check rfl
  · refine MessageHead.IsLine.append ?_ hhost
    exact MessageHead.IsLine.of_check rfl
  · exact MessageHead.IsLine.of_check rfl
  · refine MessageHead.IsLine.append ?_ (oneLine_print _)
    exact MessageHead.IsLine.of_check rfl
  · exact MessageHead.IsLine.of_check rfl

theorem isLine_of_mem_headLines {response : Response}
    (hreason : MessageHead.OneLine response.reason.toList)
    (htype : MessageHead.OneLine response.contentType.toList)
    {line : List Char} (hline : line ∈ response.headLines) :
    MessageHead.IsLine line := by
  have hspace : MessageHead.OneLine [' '] := MessageHead.OneLine.of_check rfl
  simp only [Response.headLines, List.mem_cons, List.not_mem_nil, or_false]
    at hline
  rcases hline with rfl | rfl | rfl | rfl
  · refine MessageHead.IsLine.append ?_
      ((oneLine_print _).append (hspace.append hreason))
    exact MessageHead.IsLine.of_check rfl
  · refine MessageHead.IsLine.append ?_ htype
    exact MessageHead.IsLine.of_check rfl
  · refine MessageHead.IsLine.append ?_ (oneLine_print _)
    exact MessageHead.IsLine.of_check rfl
  · exact MessageHead.IsLine.of_check rfl

theorem contentLengthValue_field {name : List Char} (h : ':' ∉ name)
    (value : List Char) :
    contentLengthValue (name ++ ':' :: value) =
      if isContentLength name then some value else none := by
  rw [contentLengthValue, Text.splitOnce_append h]

theorem contentLengthValue_length (rest : List Char) :
    contentLengthValue ("Content-Length: ".toList ++ rest) =
      some (' ' :: rest) := by
  have hcolon : ':' ∉ "Content-Length".toList := by decide
  have hname : isContentLength "Content-Length".toList = true := rfl
  have hline : "Content-Length: ".toList ++ rest =
      "Content-Length".toList ++ ':' :: ' ' :: rest := by simp
  rw [hline, contentLengthValue_field hcolon, hname]
  rfl

theorem trim_length (n : Nat) :
    Text.trim (' ' :: Decimal.print n) = Decimal.print n := by
  have hspace : forall c, c ∈ [' '] -> Text.isWhitespace c = true := by
    intro c hc
    rw [List.mem_singleton.mp hc]
    rfl
  have hnone : forall c, c ∈ [] -> Text.isWhitespace c = true := by simp
  have htrim := Text.trim_pads_of_none hspace hnone fun c hc =>
    Text.isWhitespace_of_isDigit (Decimal.isDigit_of_mem_print (n := n) hc)
  rw [List.append_nil] at htrim
  exact htrim

/-!
# Answers are read back
-/

theorem words_statusLine (status : Nat) (reason : List Char) :
    (Text.words ("HTTP/1.0 ".toList ++
      (Decimal.print status ++ ' ' :: reason))).drop 1 =
      Decimal.print status :: Text.words reason := by
  have hversion : "HTTP/1.0 ".toList ++ (Decimal.print status ++ ' ' :: reason) =
      "HTTP/1.0".toList ++ ' ' :: (Decimal.print status ++ ' ' :: reason) := rfl
  have hspace : Text.isWhitespace ' ' = true := rfl
  have hname : "HTTP/1.0".toList ≠ [] := by simp
  rw [hversion,
    Text.words_append hname (Text.not_whitespace_of_check rfl) hspace,
    Text.words_append (Decimal.print_ne_nil status)
      (fun c hc => Text.isWhitespace_of_isDigit (Decimal.isDigit_of_mem_print hc))
      hspace]
  rfl

section

variable {response : Response}

theorem isLine_headLines (hreason : MessageHead.OneLine response.reason.toList)
    (htype : MessageHead.OneLine response.contentType.toList) :
    forall line, line ∈ response.headLines -> MessageHead.IsLine line :=
  fun _ hline => isLine_of_mem_headLines hreason htype hline

theorem findDoubleCrlf_toWire (hreason : MessageHead.OneLine response.reason.toList)
    (htype : MessageHead.OneLine response.contentType.toList) :
    findDoubleCrlf response.toWire =
      some (Bytes.ofText (MessageHead.join response.headLines)).length :=
  MessageHead.findWindow_crlfCrlf_render (by simp [Response.headLines])
    (isLine_headLines hreason htype) response.body

theorem take_head_toWire :
    response.toWire.take (Bytes.ofText (MessageHead.join response.headLines)).length =
      Bytes.ofText (MessageHead.join response.headLines) := by
  rw [Response.toWire, MessageHead.render, List.append_assoc, List.take_left]

theorem lines_head_toWire (hreason : MessageHead.OneLine response.reason.toList)
    (htype : MessageHead.OneLine response.contentType.toList) :
    MessageHead.lines (MessageHead.join response.headLines) = response.headLines :=
  MessageHead.lines_join (by simp [Response.headLines])
    (isLine_headLines hreason htype)

/-- The client reads the status and the body of any answer whose reason stays
within its line. -/
theorem parseResponse_toWire (hreason : MessageHead.OneLine response.reason.toList)
    (htype : MessageHead.OneLine response.contentType.toList) :
    parseResponse response.toWire =
      .ok { status := response.status, body := response.body } := by
  have hbody : response.toWire.drop
      ((Bytes.ofText (MessageHead.join response.headLines)).length + 4) =
        response.body := by
    rw [Response.toWire, ← MessageHead.length_render, List.drop_left]
  have hstatus : Decimal.parse UInt16.size
      (Decimal.print response.status.toNat) = some response.status.toNat :=
    Decimal.parse_print response.status.toNat_lt_size
  rw [parseResponse, findDoubleCrlf_toWire hreason htype]
  simp only [take_head_toWire, Bytes.toText?_ofText, lines_head_toWire hreason htype,
    hbody]
  simp only [Response.headLines, words_statusLine, hstatus, UInt16.ofNat_toNat]

/-!
# The length that is written
-/

/-- The values of the `Content-Length` fields between the status line and the
end of the head. -/
def writtenLengths (raw : Bytes) : List (List Char) :=
  match findDoubleCrlf raw with
  | none => []
  | some split =>
      match Bytes.toText? (raw.take split) with
      | none => []
      | some head =>
          (((MessageHead.lines head).drop 1).filterMap contentLengthValue).map Text.trim

theorem writtenLengths_toWire (hreason : MessageHead.OneLine response.reason.toList)
    (htype : MessageHead.OneLine response.contentType.toList) :
    writtenLengths response.toWire = [Decimal.print response.body.length] := by
  have hcolon : ':' ∉ "Content-Type".toList := by decide
  have hname : isContentLength "Content-Type".toList = false := rfl
  have htypeLine : contentLengthValue
      ("Content-Type: ".toList ++ response.contentType.toList) = none := by
    have hline : "Content-Type: ".toList ++ response.contentType.toList =
        "Content-Type".toList ++ ':' :: ' ' :: response.contentType.toList := by simp
    rw [hline, contentLengthValue_field hcolon, hname]
    rfl
  have hclose : contentLengthValue "Connection: close".toList = none := by decide
  rw [writtenLengths, findDoubleCrlf_toWire hreason htype]
  simp only [take_head_toWire, Bytes.toText?_ofText, lines_head_toWire hreason htype]
  rw [Response.headLines, List.drop_one, List.tail_cons,
    List.filterMap_cons_none htypeLine,
    List.filterMap_cons_some (contentLengthValue_length _),
    List.filterMap_cons_none hclose, List.filterMap_nil, List.map_singleton,
    trim_length]

end

/-- An answer of either kind gives its status and its body back, and announces
the length of its body once. -/
theorem response_survives_wire (status : UInt16) (reason : String) (body : Bytes)
    (hreason : '\r' ∉ reason.toList ∧ '\n' ∉ reason.toList) {response : Response}
    (hresponse : response = Response.json status reason body ∨
      response = Response.text status reason body) :
    parseResponse response.toWire = .ok { status := status, body := body } ∧
      writtenLengths response.toWire = [Decimal.print body.length] := by
  have hline : MessageHead.OneLine reason.toList := ⟨hreason.1, hreason.2⟩
  rcases hresponse with rfl | rfl
  · have htype : MessageHead.OneLine "application/json".toList :=
      MessageHead.OneLine.of_check rfl
    exact ⟨parseResponse_toWire hline htype, writtenLengths_toWire hline htype⟩
  · have htype : MessageHead.OneLine "text/plain".toList :=
      MessageHead.OneLine.of_check rfl
    exact ⟨parseResponse_toWire hline htype, writtenLengths_toWire hline htype⟩

/-- A body that holds the end of a head. -/
theorem response_survives_wire_double_crlf :
    parseResponse (Response.text 502 "Bad Gateway"
        (Bytes.ofText "a\r\n\r\nb".toList)).toWire =
      .ok { status := 502, body := Bytes.ofText "a\r\n\r\nb".toList } ∧
      writtenLengths (Response.text 502 "Bad Gateway"
        (Bytes.ofText "a\r\n\r\nb".toList)).toWire =
          [Decimal.print (Bytes.ofText "a\r\n\r\nb".toList).length] :=
  response_survives_wire 502 "Bad Gateway" _ (by decide) (Or.inr rfl)

end Laptop

end Ephemwork

import Ephemwork.Foundation.Decimal
import Ephemwork.Foundation.MessageHead

/-!
# The HTTP layer of the control plane

Request parsing, the reading loop and response building of
`bastion-server/src/http.rs`.  Lengths are `usize` values of 64 bits; where the
source would panic, on an overflowing sum or a slice that is out of range, the
model aborts.
-/

namespace Ephemwork

open Foundation

namespace Bastion

structure Request where
  method : String
  path : String
  body : Bytes
deriving DecidableEq, Repr

structure Response where
  status : UInt16
  reason : String
  body : Bytes
  contentType : String
deriving DecidableEq, Repr

namespace Response

def json (status : UInt16) (reason : String) (body : Bytes) : Response where
  status := status
  reason := reason
  body := body
  contentType := "application/json"

def text (status : UInt16) (reason : String) (body : Bytes) : Response where
  status := status
  reason := reason
  body := body
  contentType := "text/plain"

def headLines (response : Response) : List (List Char) :=
  ["HTTP/1.0 ".toList ++
      (Decimal.print response.status.toNat ++ ' ' :: response.reason.toList),
    "Content-Type: ".toList ++ response.contentType.toList,
    "Content-Length: ".toList ++ Decimal.print response.body.length,
    "Connection: close".toList]

def toWire (response : Response) : Bytes :=
  MessageHead.render response.headLines ++ response.body

end Response

/-!
# Machine arithmetic
-/

/-- How a computation ends when it gives no result. -/
inductive Abort (reason : Type) where
  | error (reason : reason)
  | panic
deriving DecidableEq, Repr

def usizeLimit : Nat := UInt64.size

/-- The sum of two lengths.  On overflow a build with overflow checks panics
and any other wraps around. -/
def addUsize {reason : Type} (overflowChecks : Bool) (m n : Nat) :
    Except (Abort reason) Nat :=
  if m + n < usizeLimit then
    .ok (m + n)
  else if overflowChecks then
    .error .panic
  else
    .ok ((m + n) % usizeLimit)

def slice {reason : Type} (bytes : Bytes) (start stop : Nat) :
    Except (Abort reason) Bytes :=
  if start ≤ stop ∧ stop ≤ bytes.length then
    .ok ((bytes.drop start).take (stop - start))
  else
    .error .panic

theorem slice_append {reason : Type} (front rest : Bytes) :
    (slice (front ++ rest) 0 front.length : Except (Abort reason) Bytes) =
      .ok front := by
  simp [slice]

theorem slice_rest {reason : Type} (front rest : Bytes) :
    (slice (front ++ rest) front.length (front ++ rest).length :
      Except (Abort reason) Bytes) = .ok rest := by
  simp [slice]

theorem slice_of_gt {reason : Type} (bytes : Bytes) {start stop : Nat}
    (h : stop < start) :
    (slice bytes start stop : Except (Abort reason) Bytes) =
      .error .panic := by
  rw [slice, if_neg]
  omega

/-!
# Parsing
-/

def findHeaderTerminator (raw : Bytes) : Option (Nat × Nat) :=
  match Bytes.findWindow MessageHead.crlfCrlf raw with
  | some position => some (position, position + 4)
  | none =>
      match Bytes.findWindow MessageHead.lfLf raw with
      | some position => some (position, position + 2)
      | none => none

def isContentLength (name : List Char) : Bool :=
  decide (name.map Char.toLower = "content-length".toList)

def contentLengthValue (line : List Char) : Option (List Char) :=
  match Text.splitOnce ':' line with
  | some (name, value) => if isContentLength name then some value else none
  | none => none

/-- The last `Content-Length` of the header lines; each one has to parse. -/
def contentLength : Nat -> List (List Char) -> Except (Abort String) Nat
  | length, [] => .ok length
  | length, line :: rest =>
      match contentLengthValue line with
      | none => contentLength length rest
      | some value =>
          match Decimal.parse usizeLimit (Text.trim value) with
          | none => .error (.error "parsing content-length")
          | some n => contentLength n rest

def parseHead (head : List Char) :
    Except (Abort String) (String × String × Nat) :=
  match MessageHead.textLines head with
  | [] => .error (.error "missing request line")
  | requestLine :: lines =>
      match Text.words requestLine with
      | [] => .error (.error "missing method")
      | [_] => .error (.error "missing path")
      | method :: path :: _ => do
          let length <- contentLength 0 lines
          return (String.ofList method, String.ofList path, length)

def parseRequest (overflowChecks : Bool) (raw : Bytes) :
    Except (Abort String) Request :=
  match findHeaderTerminator raw with
  | none => .error (.error "malformed request: no header terminator")
  | some (headEnd, bodyStart) => do
      let headBytes <- slice raw 0 headEnd
      match Bytes.toText? headBytes with
      | none => .error (.error "request head not valid UTF-8")
      | some head => do
          let (method, path, length) <- parseHead head
          let bodyEnd <- addUsize overflowChecks bodyStart length
          let body <-
            if bodyEnd ≤ raw.length then
              slice raw bodyStart bodyEnd
            else
              slice raw bodyStart raw.length
          return { method := method, path := path, body := body }

/-!
# Reading from a connection
-/

inductive RequestError where
  | emptyConnection
  | truncated (bytes : Nat)
  | oversized (cap : Nat)
  | malformed (message : String)
  | io
deriving DecidableEq, Repr

def readSize : Nat := 2048

def maxRequest : Nat := 64 * 1024

/-- What one read of the socket returns: data that fits the buffer, none of it
at the end of the stream, or an error. -/
inductive ReadOutcome where
  | data (bytes : Bytes) (fits : bytes.length ≤ readSize)
  | failed

abbrev Stream : Type :=
  Nat -> ReadOutcome

def trimEndCr (line : List Char) : List Char :=
  (line.reverse.dropWhile fun c => c == '\r').reverse

/-- The length a header line announces, if it parses. -/
def announcedLength (line : List Char) : Option Nat :=
  match contentLengthValue line with
  | none => none
  | some value => Decimal.parse usizeLimit (Text.trim value)

/-- The first `Content-Length` of the head that parses, or zero. -/
def expectedLength (head : List Char) : Nat :=
  ((head.splitOn '\n').findSome? fun line =>
    announcedLength (trimEndCr line)).getD 0

def isComplete (overflowChecks : Bool) (buffer : Bytes) :
    Except (Abort RequestError) Bool :=
  match findHeaderTerminator buffer with
  | none => .ok false
  | some (_, bodyStart) => do
      let headBytes <- slice buffer 0 (bodyStart - 1)
      let head := (Bytes.toText? headBytes).getD []
      let stop <- addUsize overflowChecks bodyStart (expectedLength head)
      return decide (stop ≤ buffer.length)

def readLoop (overflowChecks : Bool) (reads : Stream) (index : Nat)
    (buffer : Bytes) : Except (Abort RequestError) Bytes :=
  if _ : maxRequest ≤ buffer.length then
    .error (.error (.oversized maxRequest))
  else
    match reads index with
    | .failed => .error (.error .io)
    | .data bytes _ =>
        if _ : bytes = [] then
          .ok buffer
        else
          match isComplete overflowChecks (buffer ++ bytes) with
          | .error e => .error e
          | .ok true => .ok (buffer ++ bytes)
          | .ok false =>
              readLoop overflowChecks reads (index + 1) (buffer ++ bytes)
termination_by maxRequest - buffer.length
decreasing_by
  have hlength := List.length_pos_iff.mpr ‹¬ bytes = []›
  rw [List.length_append]
  omega

def readRequest (overflowChecks : Bool) (reads : Stream) :
    Except (Abort RequestError) Request := do
  let buffer <- readLoop overflowChecks reads 0 []
  if buffer = [] then
    .error (.error .emptyConnection)
  else if findHeaderTerminator buffer = none then
    .error (.error (.truncated buffer.length))
  else
    match parseRequest overflowChecks buffer with
    | .error (.error message) => .error (.error (.malformed message))
    | .error .panic => .error .panic
    | .ok request => .ok request

/-!
# What the reading loop returns
-/

theorem readLoop_of_data {overflowChecks : Bool} {reads : Stream} {index : Nat}
    {buffer bytes : Bytes} {fits : bytes.length ≤ readSize}
    (hroom : buffer.length < maxRequest)
    (hread : reads index = .data bytes fits) (hne : bytes ≠ []) :
    readLoop overflowChecks reads index buffer =
      match isComplete overflowChecks (buffer ++ bytes) with
      | .error e => .error e
      | .ok true => .ok (buffer ++ bytes)
      | .ok false =>
          readLoop overflowChecks reads (index + 1) (buffer ++ bytes) := by
  rw [readLoop, dif_neg (Nat.not_le.mpr hroom), hread]
  simp only [dif_neg hne]

/-- The bytes of the reads from `index` up to `index + count`. -/
def delivered (reads : Stream) (index : Nat) : Nat -> Bytes
  | 0 => []
  | count + 1 =>
      (match reads index with
        | .data bytes _ => bytes
        | .failed => []) ++ delivered reads (index + 1) count

theorem readLoop_eq_ok {overflowChecks : Bool} {reads : Stream} {index : Nat}
    {buffer result : Bytes}
    (h : readLoop overflowChecks reads index buffer = .ok result) :
    exists count, result = buffer ++ delivered reads index count ∧
      ((exists fits, reads (index + count) = .data [] fits) ∨
        isComplete overflowChecks result = .ok true) := by
  induction index, buffer using readLoop.induct overflowChecks reads with
  | case1 index buffer hroom =>
      rw [readLoop, dif_pos hroom] at h
      cases h
  | case2 index buffer hroom hread =>
      rw [readLoop, dif_neg hroom, hread] at h
      cases h
  | case3 index buffer hroom fits hread =>
      rw [readLoop, dif_neg hroom, hread] at h
      cases h
      exact ⟨0, by simp [delivered], Or.inl ⟨fits, by simpa using hread⟩⟩
  | case4 index buffer hroom bytes fits hread hend e hcomplete =>
      rw [readLoop, dif_neg hroom, hread] at h
      simp only [dif_neg hend, hcomplete] at h
      cases h
  | case5 index buffer hroom bytes fits hread hend hcomplete =>
      rw [readLoop, dif_neg hroom, hread] at h
      simp only [dif_neg hend, hcomplete] at h
      cases h
      exact ⟨1, by simp [delivered, hread], Or.inr hcomplete⟩
  | case6 index buffer hroom bytes fits hread hend hcomplete ih =>
      rw [readLoop, dif_neg hroom, hread] at h
      simp only [dif_neg hend, hcomplete] at h
      rcases ih h with ⟨count, hresult, hstop⟩
      refine ⟨count + 1, ?_, ?_⟩
      · rw [hresult]
        simp [delivered, hread]
      · rcases hstop with hended | hcomplete
        · have hindex : index + (count + 1) = index + 1 + count := by omega
          rw [hindex]
          exact Or.inl hended
        · exact Or.inr hcomplete

theorem exists_buffer_of_readRequest {overflowChecks : Bool} {reads : Stream}
    {request : Request} (h : readRequest overflowChecks reads = .ok request) :
    exists buffer, readLoop overflowChecks reads 0 [] = .ok buffer ∧
      findHeaderTerminator buffer ≠ none ∧
      parseRequest overflowChecks buffer = .ok request := by
  rw [readRequest] at h
  cases hbuffer : readLoop overflowChecks reads 0 [] with
  | error e =>
      rw [hbuffer] at h
      cases h
  | ok buffer =>
      simp only [hbuffer, bind, Except.bind] at h
      split at h
      · cases h
      · split at h
        · cases h
        · next hfound =>
            refine ⟨buffer, rfl, hfound, ?_⟩
            split at h
            · cases h
            · cases h
            · next hparse =>
                cases h
                exact hparse

end Bastion

end Ephemwork

import Ephemwork.Bastion.PacketBoundaries

/-!
# Line endings

`parse_request` tolerates bare line feeds.  It looks for a CRLF end in all of the
message before it looks for a line-feed end, so that a body can hold the end of
a head whose lines are ended by line feeds.
-/

namespace Ephemwork

open Foundation

namespace Bastion

/-- The lines of a request that announces its body: a method and a path in the
first, and the length of the body in exactly one of the others. -/
structure RequestHead (body : Bytes) where
  requestLine : List Char
  headers : List (List Char)
  isLine : forall line, line ∈ requestLine :: headers -> MessageHead.IsLine line
  named : exists method path others,
    Text.words requestLine = method :: path :: others
  announced : exists value,
    headers.filterMap contentLengthValue = [value] ∧
    Decimal.parse usizeLimit (Text.trim value) = some body.length

namespace RequestHead

variable {body : Bytes} (head : RequestHead body)

def lines : List (List Char) :=
  head.requestLine :: head.headers

def crlfMessage : Bytes :=
  MessageHead.render head.lines ++ body

def lfMessage : Bytes :=
  MessageHead.renderLf head.lines ++ body

theorem lines_ne_nil : head.lines ≠ [] :=
  List.cons_ne_nil _ _

/-- Both messages parse to one request, with the body that was sent. -/
def EndingsAgree (overflowChecks : Bool) : Prop :=
  exists method path,
    parseRequest overflowChecks head.crlfMessage =
      .ok { method := method, path := path, body := body } ∧
    parseRequest overflowChecks head.lfMessage =
      .ok { method := method, path := path, body := body }

end RequestHead

/-!
# The head
-/

theorem contentLength_of_filterMap_nil {headers : List (List Char)}
    (h : headers.filterMap contentLengthValue = []) (length : Nat) :
    contentLength length headers = .ok length := by
  induction headers with
  | nil => rfl
  | cons line rest ih =>
      cases hvalue : contentLengthValue line with
      | none =>
          rw [List.filterMap_cons_none hvalue] at h
          rw [contentLength, hvalue]
          exact ih h
      | some value =>
          rw [List.filterMap_cons_some hvalue] at h
          cases h

theorem contentLength_of_filterMap {headers : List (List Char)}
    {value : List Char} {n : Nat}
    (h : headers.filterMap contentLengthValue = [value])
    (hparse : Decimal.parse usizeLimit (Text.trim value) = some n)
    (length : Nat) : contentLength length headers = .ok n := by
  induction headers with
  | nil => cases h
  | cons line rest ih =>
      cases hvalue : contentLengthValue line with
      | none =>
          rw [List.filterMap_cons_none hvalue] at h
          rw [contentLength, hvalue]
          exact ih h
      | some first =>
          rw [List.filterMap_cons_some hvalue] at h
          rcases List.cons.inj h with ⟨rfl, hrest⟩
          rw [contentLength, hvalue]
          simp only [hparse]
          exact contentLength_of_filterMap_nil hrest n

namespace RequestHead

variable {body : Bytes} (head : RequestHead body) {overflowChecks : Bool}

theorem exists_parseHead : exists method path,
    forall text, MessageHead.textLines text = head.lines ->
      parseHead text = .ok (method, path, body.length) := by
  rcases head.named with ⟨method, path, others, hwords⟩
  rcases head.announced with ⟨value, hvalue, hparse⟩
  refine ⟨String.ofList method, String.ofList path, ?_⟩
  intro text htext
  rw [parseHead_eq_ok_iff htext]
  exact ⟨method, path, others, hwords, rfl, rfl,
    contentLength_of_filterMap hvalue hparse 0⟩

theorem parseRequest_of_text {text : List Char} {terminator : Bytes}
    {method path : String}
    (hhead : parseHead text = .ok (method, path, body.length))
    (hfind : findHeaderTerminator (Bytes.ofText text ++ terminator ++ body) =
      some ((Bytes.ofText text).length,
        (Bytes.ofText text ++ terminator).length))
    (hfits : (Bytes.ofText text ++ terminator).length + body.length <
      usizeLimit) :
    parseRequest overflowChecks (Bytes.ofText text ++ terminator ++ body) =
      .ok { method := method, path := path, body := body } := by
  have htake : (Bytes.ofText text ++ terminator ++ body).take
      (Bytes.ofText text).length = Bytes.ofText text := by
    rw [List.append_assoc, List.take_left]
  have htext := Bytes.toText?_ofText text
  rw [← htake] at htext
  rw [parseRequest_of_head overflowChecks hfind htext hhead hfits,
    List.drop_left, List.take_length]

theorem body_ne_of_findWindow {position : Nat}
    (h : Bytes.findWindow MessageHead.crlfCrlf body = some position)
    {request : Request}
    (hparse : parseRequest overflowChecks head.lfMessage = .ok request) :
    request.body ≠ body := by
  rcases parsedBody_of_parseRequest hparse with
    ⟨bodyStart, length, hbody, _, hrequest⟩
  have hfind := MessageHead.findWindow_crlfCrlf_renderLf head.isLine body
  rw [h, Option.map_some] at hfind
  rcases exists_head_of_parsedBody hbody with
    ⟨headEnd, text, method, path, hfound, _, _⟩
  unfold findHeaderTerminator at hfound
  rw [lfMessage, lines, hfind] at hfound
  have hstart : bodyStart =
      position + (MessageHead.renderLf head.lines).length + 4 :=
    (Prod.mk.inj (Option.some.inj hfound)).right.symm
  have hroom := Bytes.findWindow_le h
  simp only [MessageHead.crlfCrlf, List.length_cons, List.length_nil] at hroom
  intro heq
  have hlength := congrArg List.length (heq.symm.trans hrequest)
  rw [hstart, lfMessage, List.length_take, List.length_drop,
    List.length_append] at hlength
  omega

theorem findHeaderTerminator_lfMessage
    (hnone : Bytes.findWindow MessageHead.crlfCrlf body = none) :
    findHeaderTerminator head.lfMessage =
      some ((Bytes.ofText (MessageHead.joinLf head.lines)).length,
        (MessageHead.renderLf head.lines).length) := by
  have hcrlf := MessageHead.findWindow_crlfCrlf_renderLf head.isLine body
  have hlf := MessageHead.findWindow_lfLf_renderLf head.lines_ne_nil head.isLine
    body
  rw [hnone, Option.map_none] at hcrlf
  rw [findHeaderTerminator, lfMessage, lines, hcrlf, ← lines, hlf,
    MessageHead.length_renderLf]

theorem endingsAgree_of_none
    (hnone : Bytes.findWindow MessageHead.crlfCrlf body = none)
    (hfits : head.crlfMessage.length < usizeLimit) :
    head.EndingsAgree overflowChecks := by
  have hlength : head.crlfMessage.length =
      (MessageHead.render head.lines).length + body.length := List.length_append
  have hle : (MessageHead.renderLf head.lines).length ≤
      (MessageHead.render head.lines).length := MessageHead.length_renderLf_le
  rcases head.exists_parseHead with ⟨method, path, hhead⟩
  refine ⟨method, path, ?_, ?_⟩
  · apply parseRequest_of_text
    · exact hhead _
        (MessageHead.textLines_join head.lines_ne_nil head.isLine)
    · exact findHeaderTerminator_render head.lines_ne_nil head.isLine body
    · show (MessageHead.render head.lines).length + body.length < usizeLimit
      omega
  · apply parseRequest_of_text
    · exact hhead _
        (MessageHead.textLines_joinLf head.lines_ne_nil head.isLine)
    · exact head.findHeaderTerminator_lfMessage hnone
    · show (MessageHead.renderLf head.lines).length + body.length < usizeLimit
      omega

theorem EndingsAgree.fits {head : RequestHead body}
    (h : head.EndingsAgree overflowChecks) :
    head.crlfMessage.length < usizeLimit := by
  rcases h with ⟨method, path, hparse, _⟩
  rcases head.exists_parseHead with ⟨method', path', hhead⟩
  rcases parsedBody_of_parseRequest hparse with
    ⟨bodyStart, length, hbody, hfits, _⟩
  rw [crlfMessage, parsedBody_render head.lines_ne_nil head.isLine,
    hhead _ (MessageHead.textLines_join head.lines_ne_nil head.isLine)] at hbody
  cases hbody
  rw [crlfMessage, List.length_append]
  exact hfits

end RequestHead

/-- A request means the same with bare line feeds and with CRLF exactly if its
body does not hold an empty line ended by CRLF and its length is one. -/
theorem endingsAgree_iff (overflowChecks : Bool) {body : Bytes}
    (head : RequestHead body) :
    head.EndingsAgree overflowChecks <->
      Bytes.findWindow MessageHead.crlfCrlf body = none ∧
        head.crlfMessage.length < usizeLimit := by
  constructor
  · intro h
    refine ⟨?_, h.fits⟩
    rcases h with ⟨method, path, _, hparse⟩
    cases hfind : Bytes.findWindow MessageHead.crlfCrlf body with
    | none => rfl
    | some position =>
        exact absurd rfl (head.body_ne_of_findWindow hfind hparse)
  · intro h
    exact head.endingsAgree_of_none h.left h.right

def emptyLineHead : RequestHead MessageHead.crlfCrlf where
  requestLine := "POST /register HTTP/1.0".toList
  headers := ["Content-Length: 4".toList]
  isLine := by
    simp only [List.forall_mem_cons, List.not_mem_nil, false_implies,
      implies_true, and_true]
    exact ⟨MessageHead.IsLine.of_check rfl, MessageHead.IsLine.of_check rfl⟩
  named := ⟨"POST".toList, "/register".toList, ["HTTP/1.0".toList],
    by decide +kernel⟩
  announced := ⟨" 4".toList, by decide +kernel, by decide +kernel⟩

/-- With bare line feeds its body is lost. -/
theorem emptyLineHead_endings_disagree :
    ¬ emptyLineHead.EndingsAgree true ∧ ¬ emptyLineHead.EndingsAgree false := by
  have hfind : Bytes.findWindow MessageHead.crlfCrlf MessageHead.crlfCrlf =
      some 0 := by decide
  have hlost : forall overflowChecks,
      ¬ emptyLineHead.EndingsAgree overflowChecks := by
    intro overflowChecks h
    rcases h with ⟨method, path, _, hparse⟩
    exact emptyLineHead.body_ne_of_findWindow hfind hparse rfl
  exact ⟨hlost true, hlost false⟩

end Bastion

end Ephemwork

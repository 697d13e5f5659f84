import Ephemwork.Bastion.Reading
import Ephemwork.Laptop.BastionClient

/-!
# The client's requests at the server

However the network cuts a request up, one the server reads is the one the
client sent, and one that fits the server's buffer is read.
-/

namespace Ephemwork

open Foundation
open Bastion

namespace Laptop

/-!
# Reading the client's head
-/

section

variable {host path : String} {body : Bytes}

theorem contentLengthValue_post (rest : List Char) :
    contentLengthValue ("POST ".toList ++ rest) = none := by
  by_cases hmem : ':' ∈ rest
  · rcases Text.exists_eq_append_of_mem hmem with ⟨left, right, hleft, rfl⟩
    have hname : ':' ∉ "POST ".toList ++ left := by simp [hleft]
    rw [← List.append_assoc, contentLengthValue_field hname]
    simp [isContentLength]
  · have hline : Text.splitOnce ':' ("POST ".toList ++ rest) = none := by
      rw [Text.splitOnce_eq_none_iff]
      simp [hmem]
    rw [contentLengthValue, hline]

theorem contentLengthValue_host (rest : List Char) :
    contentLengthValue ("Host: ".toList ++ rest) = none := by
  have hcolon : ':' ∉ "Host".toList := by decide
  have hname : isContentLength "Host".toList = false := rfl
  show contentLengthValue ("Host".toList ++ ':' :: ' ' :: rest) = none
  rw [contentLengthValue_field hcolon, hname]
  rfl

theorem words_requestLine (hpath : IsPath path) :
    Text.words ("POST ".toList ++ (path.toList ++ " HTTP/1.0".toList)) =
      ["POST".toList, path.toList, "HTTP/1.0".toList] := by
  have hspace : Text.isWhitespace ' ' = true := rfl
  have hmethod : "POST".toList ≠ [] := by simp
  have hversion : "HTTP/1.0".toList ≠ [] := by simp
  have hline : "POST ".toList ++ (path.toList ++ " HTTP/1.0".toList) =
      "POST".toList ++ ' ' :: (path.toList ++ ' ' :: "HTTP/1.0".toList) := rfl
  rw [hline,
    Text.words_append hmethod (Text.not_whitespace_of_check rfl) hspace,
    Text.words_append hpath.ne_nil hpath.not_whitespace hspace,
    Text.words_of_none hversion (Text.not_whitespace_of_check rfl)]

theorem parseHead_requestLines (hhost : MessageHead.OneLine host.toList)
    (hpath : IsPath path) :
    parseHead (MessageHead.join (requestLines host path body)) =
      if body.length < usizeLimit then
        .ok ("POST", path, body.length)
      else
        .error (.error "parsing content-length") := by
  have hlines := MessageHead.textLines_join (by simp [requestLines])
    (isLine_of_mem_requestLines hhost hpath body)
  have htype : contentLengthValue "Content-Type: application/json".toList =
      none := by decide
  have hclose : contentLengthValue "Connection: close".toList = none := by
    decide
  rw [parseHead, hlines]
  simp only [requestLines, words_requestLine hpath, contentLength,
    contentLengthValue_host, htype, contentLengthValue_length, trim_length]
  by_cases hfits : body.length < usizeLimit
  · rw [Decimal.parse_print hfits, if_pos hfits]
    simp only [hclose]
    show Except.ok (String.ofList "POST".toList, String.ofList path.toList,
      body.length) = _
    rw [String.ofList_toList, String.ofList_toList]
  · rw [Decimal.parse_print_of_le (Nat.not_lt.mp hfits), if_neg hfits]
    rfl

theorem trimEndCr_append_cr {line : List Char}
    (h : MessageHead.IsLine line) : trimEndCr (line ++ ['\r']) = line := by
  have hreverse : forall c, c ∈ line.reverse -> (c == '\r') = false := by
    intro c hc
    cases hcr : c == '\r' with
    | false => rfl
    | true =>
        rw [eq_of_beq hcr, List.mem_reverse] at hc
        exact absurd hc h.cr_notMem
  have hnone : line.reverse.dropWhile (fun c => c == '\r') = line.reverse := by
    cases hline : line.reverse with
    | nil => rfl
    | cons c rest =>
        rw [List.dropWhile_cons, hreverse c (by simp [hline])]
        rfl
  simp [trimEndCr, hnone]

theorem expectedLength_requestLines (hhost : MessageHead.OneLine host.toList)
    (hpath : IsPath path) :
    expectedLength (MessageHead.join (requestLines host path body) ++
        ['\r', '\n', '\r']) =
      if body.length < usizeLimit then body.length else 0 := by
  have hlines : forall line, line ∈ requestLines host path body ->
      MessageHead.IsLine line :=
    isLine_of_mem_requestLines hhost hpath body
  have htype : contentLengthValue "Content-Type: application/json".toList =
      none := by decide
  have hclose : contentLengthValue "Connection: close".toList = none := by
    decide
  have hempty : contentLengthValue [] = none := rfl
  have htrim : (requestLines host path body).map
      (trimEndCr ∘ fun line => line ++ ['\r']) = requestLines host path body := by
    conv_rhs => rw [← List.map_id (requestLines host path body)]
    exact List.map_congr_left fun line hline =>
      trimEndCr_append_cr (hlines line hline)
  have hparts : ((MessageHead.join (requestLines host path body) ++
      ['\r', '\n', '\r']).splitOn '\n').map trimEndCr =
      requestLines host path body ++ [[]] := by
    rw [MessageHead.splitOn_join_crlf (by simp [requestLines]) hlines,
      List.map_append, List.map_map, htrim]
    rfl
  have hfind : expectedLength (MessageHead.join (requestLines host path body) ++
      ['\r', '\n', '\r']) =
      ((requestLines host path body ++ [[]]).findSome? announcedLength).getD
        0 := by
    rw [← hparts, List.findSome?_map]
    rfl
  rw [hfind]
  simp only [requestLines, List.cons_append, List.nil_append,
    List.findSome?_cons, announcedLength, contentLengthValue_post,
    contentLengthValue_host, htype, contentLengthValue_length, trim_length,
    hclose, hempty]
  by_cases hfits : body.length < usizeLimit
  · rw [Decimal.parse_print hfits, if_pos hfits]
    rfl
  · rw [Decimal.parse_print_of_le (Nat.not_lt.mp hfits), if_neg hfits]
    rfl

/-!
# A beginning of the message
-/

theorem findHeaderTerminator_requestHead
    (hhost : MessageHead.OneLine host.toList) (hpath : IsPath path)
    (part : Bytes) :
    findHeaderTerminator (requestHead host path body ++ part) =
      some ((Bytes.ofText (MessageHead.join (requestLines host path body))).length,
        (requestHead host path body).length) := by
  exact findHeaderTerminator_render (by simp [requestLines])
    (isLine_of_mem_requestLines hhost hpath body) part

theorem exists_part_of_terminator (hhost : MessageHead.OneLine host.toList)
    (hpath : IsPath path) {buffer : Bytes}
    (hpart : buffer <+: buildRequest host path body)
    (hfound : findHeaderTerminator buffer ≠ none) :
    exists part, part <+: body ∧ buffer = requestHead host path body ++ part := by
  have hlength : (requestHead host path body).length ≤ buffer.length := by
    by_contra hlt
    have hnone := MessageHead.findWindow_of_prefix_lt (by simp [requestLines])
      (isLine_of_mem_requestLines hhost hpath body) hpart (Nat.not_le.mp hlt)
    apply hfound
    simp only [findHeaderTerminator, hnone.left, hnone.right]
  have hhead : requestHead host path body <+: buffer :=
    List.prefix_of_prefix_length_le (List.prefix_append _ body) hpart hlength
  rcases hhead with ⟨part, rfl⟩
  exact ⟨part, (List.prefix_append_right_inj _).mp hpart, rfl⟩

theorem slice_head {reason : Type} (part : Bytes) :
    (slice (requestHead host path body ++ part) 0
        (Bytes.ofText
          (MessageHead.join (requestLines host path body))).length :
      Except (Abort reason) Bytes) =
      .ok (Bytes.ofText (MessageHead.join (requestLines host path body))) := by
  rw [requestHead, MessageHead.render, List.append_assoc]
  exact slice_append _ _

theorem parseRequest_eq (hhost : MessageHead.OneLine host.toList)
    (hpath : IsPath path) (overflowChecks : Bool) {part : Bytes}
    (hpart : part <+: body)
    (hfits : (requestHead host path body).length + body.length < usizeLimit) :
    parseRequest overflowChecks (requestHead host path body ++ part) =
      .ok (Request.post path part) := by
  have hbody : body.length < usizeLimit := by omega
  have hlength := hpart.length_le
  rw [parseRequest, findHeaderTerminator_requestHead hhost hpath]
  simp only [slice_head, Bytes.toText?_ofText,
    parseHead_requestLines hhost hpath, if_pos hbody, addUsize, if_pos hfits,
    bind, Except.bind]
  by_cases hle : (requestHead host path body).length + body.length ≤
      (requestHead host path body ++ part).length
  · have hall : (requestHead host path body).length + body.length =
        (requestHead host path body ++ part).length := by
      rw [List.length_append] at hle ⊢
      omega
    rw [if_pos hle, hall, slice_rest]
    rfl
  · rw [if_neg hle, slice_rest]
    rfl

theorem length_lt_of_parseRequest (hhost : MessageHead.OneLine host.toList)
    (hpath : IsPath path) {overflowChecks : Bool} {part : Bytes}
    {request : Request}
    (h : parseRequest overflowChecks (requestHead host path body ++ part) =
      .ok request) :
    (requestHead host path body).length + body.length < usizeLimit := by
  rcases parsedBody_of_parseRequest h with ⟨bodyStart, length, hbody, hfits, _⟩
  rw [requestHead, parsedBody_render (by simp [requestLines])
    (isLine_of_mem_requestLines hhost hpath body),
    parseHead_requestLines hhost hpath] at hbody
  by_cases hlength : body.length < usizeLimit
  · rw [if_pos hlength] at hbody
    cases hbody
    exact hfits
  · rw [if_neg hlength] at hbody
    cases hbody

theorem isComplete_eq (hhost : MessageHead.OneLine host.toList)
    (hpath : IsPath path) (overflowChecks : Bool) (part : Bytes)
    (hfits : (requestHead host path body).length + body.length < usizeLimit) :
    isComplete overflowChecks (requestHead host path body ++ part) =
      .ok (decide (body.length ≤ part.length)) := by
  have hbody : body.length < usizeLimit := by omega
  have hawaited : awaitedEnd (requestHead host path body ++ part) =
      some ((requestHead host path body).length + body.length) := by
    rw [requestHead, awaitedEnd_render (by simp [requestLines])
      (isLine_of_mem_requestLines hhost hpath body),
      expectedLength_requestLines hhost hpath, if_pos hbody]
  rw [isComplete_eq_awaitedEnd, hawaited]
  simp only [if_pos hfits, List.length_append]
  rw [Except.ok.injEq, decide_eq_decide]
  omega

/-!
# Reading the whole request
-/

theorem readRequest_eq_ok (hhost : MessageHead.OneLine host.toList)
    (hpath : IsPath path) {overflowChecks : Bool}
    (arrival : Arrival (buildRequest host path body)) {request : Request}
    (h : readRequest overflowChecks arrival.stream = .ok request) :
    request = Request.post path body := by
  rcases exists_buffer_of_readRequest h with ⟨buffer, hbuffer, hfound, hparse⟩
  rcases arrival.readLoop_cases hbuffer with ⟨hreceived, hstop⟩
  rcases exists_part_of_terminator hhost hpath hreceived hfound with
    ⟨part, hpart, rfl⟩
  have hfits := length_lt_of_parseRequest hhost hpath hparse
  rw [parseRequest_eq hhost hpath _ hpart hfits] at hparse
  cases hparse
  have hwhole : part = body := by
    rcases hstop with hall | hcomplete
    · exact List.append_cancel_left hall
    · rw [isComplete_eq hhost hpath _ _ hfits] at hcomplete
      have hlength : body.length ≤ part.length := by simpa using hcomplete
      exact hpart.eq_of_length_le hlength
  rw [hwhole]

theorem isComplete_prefix (hhost : MessageHead.OneLine host.toList)
    (hpath : IsPath path) (overflowChecks : Bool)
    (hfits : (requestHead host path body).length + body.length < usizeLimit)
    {buffer : Bytes} (hreceived : buffer <+: buildRequest host path body) :
    isComplete overflowChecks buffer =
      .ok (decide (buffer = buildRequest host path body)) := by
  cases hfound : findHeaderTerminator buffer with
  | none =>
      have hne : buffer ≠ buildRequest host path body := by
        intro heq
        rw [heq, buildRequest, findHeaderTerminator_requestHead hhost hpath]
          at hfound
        cases hfound
      simp [isComplete, hfound, hne]
  | some found =>
      rcases exists_part_of_terminator hhost hpath hreceived (by simp [hfound])
        with ⟨part, hpart, rfl⟩
      rw [isComplete_eq hhost hpath _ _ hfits]
      rw [Except.ok.injEq, decide_eq_decide, buildRequest, List.append_cancel_left_eq]
      exact ⟨fun hlength => hpart.eq_of_length_le hlength,
        fun heq => by rw [heq]⟩

theorem readRequest_of_reads (hhost : MessageHead.OneLine host.toList)
    (hpath : IsPath path) (overflowChecks : Bool)
    (hsize : (buildRequest host path body).length ≤ maxRequest)
    (arrival : Arrival (buildRequest host path body)) {reads : Stream}
    (hreads : forall index, index < arrival.chunks.length ->
      reads index = arrival.stream index) :
    readRequest overflowChecks reads = .ok (Request.post path body) ∧
      readCount overflowChecks reads 0 [] = arrival.chunks.length := by
  have hfits : (requestHead host path body).length + body.length <
      usizeLimit := by
    rw [buildRequest, List.length_append] at hsize
    simp only [maxRequest] at hsize
    simp only [usizeLimit, UInt64.size]
    omega
  have hfound : findHeaderTerminator (buildRequest host path body) ≠ none := by
    rw [buildRequest, findHeaderTerminator_requestHead hhost hpath]
    simp
  have hne : buildRequest host path body ≠ [] := by
    intro hnil
    rw [hnil] at hfound
    exact hfound rfl
  rcases arrival.readLoop_of_reads hsize hne
    (fun buffer hpart =>
      isComplete_prefix hhost hpath overflowChecks hfits hpart) hreads with
    ⟨hloop, hcount⟩
  have hparse : parseRequest overflowChecks (buildRequest host path body) =
      .ok (Request.post path body) :=
    parseRequest_eq hhost hpath overflowChecks (List.prefix_refl body) hfits
  refine ⟨?_, hcount⟩
  rw [readRequest, hloop]
  simp only [bind, Except.bind, if_neg hne, if_neg hfound, hparse]

theorem readRequest_of_fits (hhost : MessageHead.OneLine host.toList)
    (hpath : IsPath path) (overflowChecks : Bool)
    (hsize : (buildRequest host path body).length ≤ maxRequest)
    (arrival : Arrival (buildRequest host path body)) :
    readRequest overflowChecks arrival.stream =
      .ok (Request.post path body) :=
  (readRequest_of_reads hhost hpath overflowChecks hsize arrival
    fun _ _ => rfl).left

end

/-- However a request of at most 64 KiB is cut up into reads, the server gets
the method, the path and the body that were sent, and makes no read beyond those
that bring them. -/
theorem request_arrives_intact {host path : String}
    (hhost : MessageHead.OneLine host.toList) (hpath : IsPath path)
    (body : Bytes) (overflowChecks : Bool)
    (hsize : (buildRequest host path body).length ≤ maxRequest)
    (chunks : List Chunk)
    (hchunks : (chunks.map Chunk.bytes).flatten = buildRequest host path body)
    (reads : Stream)
    (hreads : forall (index : Nat) (h : index < chunks.length),
      reads index = .data chunks[index].bytes chunks[index].fits) :
    readRequest overflowChecks reads = .ok (Request.post path body) ∧
      readCount overflowChecks reads 0 [] = chunks.length :=
  readRequest_of_reads hhost hpath overflowChecks hsize
    { chunks := chunks, flatten := hchunks, closed := true }
    fun index h => (hreads index h).trans (Arrival.stream_of_lt _ h).symm

/-- Every byte of a request in a read of its own, with a body that looks like the
end of a head. -/
theorem request_arrives_intact_bytewise :
    readRequest false (Arrival.bytewise
        (buildRequest "127.0.0.1" "/register" [13, 10, 13, 10])).stream =
        .ok (Request.post "/register" [13, 10, 13, 10]) ∧
      readCount false (Arrival.bytewise
          (buildRequest "127.0.0.1" "/register" [13, 10, 13, 10])).stream 0 [] =
        (Arrival.bytewise
          (buildRequest "127.0.0.1" "/register" [13, 10, 13, 10])).chunks.length :=
  request_arrives_intact oneLine_localhost isPath_register [13, 10, 13, 10] false
    (by decide +kernel) _ (Arrival.bytewise _).flatten _
    fun _ h => Arrival.stream_of_lt _ h

end Laptop

end Ephemwork

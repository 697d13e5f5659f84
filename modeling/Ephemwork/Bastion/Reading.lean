import Ephemwork.Bastion.Connection

/-!
# How far a request is read

The buffers the reading loop looks at, the number of reads it makes, and the two
places at which a body ends: the one the loop waits for and the one the parser
takes.  Both are natural numbers here, which the machine's sums may not be.
-/

namespace Ephemwork

open Foundation

namespace Bastion

/-!
# Where the body ends
-/

def awaitedEnd (buffer : Bytes) : Option Nat :=
  match findHeaderTerminator buffer with
  | none => none
  | some (_, bodyStart) =>
      some (bodyStart + expectedLength
        ((Bytes.toText? (buffer.take (bodyStart - 1))).getD []))

/-- The start of the body the parser takes and its content length. -/
def parsedBody (raw : Bytes) : Option (Nat × Nat) :=
  match findHeaderTerminator raw with
  | none => none
  | some (headEnd, bodyStart) =>
      match Bytes.toText? (raw.take headEnd) with
      | none => none
      | some head =>
          match parseHead head with
          | .error _ => none
          | .ok (_, _, length) => some (bodyStart, length)

theorem findHeaderTerminator_bounds {raw : Bytes} {headEnd bodyStart : Nat}
    (h : findHeaderTerminator raw = some (headEnd, bodyStart)) :
    headEnd < bodyStart ∧ bodyStart ≤ raw.length := by
  unfold findHeaderTerminator at h
  split at h
  · next position hfind =>
      have hroom := Bytes.findWindow_le hfind
      cases h
      simp only [MessageHead.crlfCrlf, List.length_cons, List.length_nil]
        at hroom
      omega
  · split at h
    · next position hfind =>
        have hroom := Bytes.findWindow_le hfind
        cases h
        simp only [MessageHead.lfLf, List.length_cons, List.length_nil]
          at hroom
        omega
    · cases h

theorem slice_zero {reason : Type} {bytes : Bytes} {stop : Nat}
    (h : stop ≤ bytes.length) :
    (slice bytes 0 stop : Except (Abort reason) Bytes) =
      .ok (bytes.take stop) := by
  simp [slice, h]

theorem isComplete_eq_awaitedEnd (overflowChecks : Bool) (buffer : Bytes) :
    isComplete overflowChecks buffer =
      match awaitedEnd buffer with
      | none => .ok false
      | some stop =>
          if stop < usizeLimit then
            .ok (decide (stop ≤ buffer.length))
          else if overflowChecks then
            .error .panic
          else
            .ok (decide (stop % usizeLimit ≤ buffer.length)) := by
  unfold isComplete awaitedEnd
  cases hfind : findHeaderTerminator buffer with
  | none => rfl
  | some found =>
      rcases found with ⟨headEnd, bodyStart⟩
      have hbounds := findHeaderTerminator_bounds hfind
      have hhead : bodyStart - 1 ≤ buffer.length := by omega
      simp only [slice_zero hhead, bind, Except.bind, pure, Except.pure]
      generalize expectedLength
        ((Bytes.toText? (buffer.take (bodyStart - 1))).getD []) = length
      by_cases hfits : bodyStart + length < usizeLimit
      · simp only [addUsize, if_pos hfits]
      · cases overflowChecks with
        | true => simp only [addUsize, if_neg hfits, if_true]
        | false =>
            simp only [addUsize, if_neg hfits, Bool.false_eq_true, if_false]

theorem contentLength_lt {length result : Nat} {lines : List (List Char)}
    (hlength : length < usizeLimit)
    (h : contentLength length lines = .ok result) : result < usizeLimit := by
  induction lines generalizing length with
  | nil =>
      cases h
      exact hlength
  | cons line rest ih =>
      rw [contentLength] at h
      cases hvalue : contentLengthValue line with
      | none =>
          rw [hvalue] at h
          exact ih hlength h
      | some value =>
          simp only [hvalue] at h
          cases hparse : Decimal.parse usizeLimit (Text.trim value) with
          | none =>
              rw [hparse] at h
              cases h
          | some n =>
              rw [hparse] at h
              exact ih (Decimal.lt_of_parse hparse) h

theorem expectedLength_lt (head : List Char) :
    expectedLength head < usizeLimit := by
  unfold expectedLength
  cases hfind : (head.splitOn '\n').findSome? fun line =>
      announcedLength (trimEndCr line) with
  | none => decide
  | some length =>
      rcases List.exists_of_findSome?_eq_some hfind with ⟨line, _, hline⟩
      unfold announcedLength at hline
      split at hline
      · cases hline
      · exact Decimal.lt_of_parse hline

theorem parseHead_lt {head : List Char} {method path : String} {length : Nat}
    (h : parseHead head = .ok (method, path, length)) :
    length < usizeLimit := by
  unfold parseHead at h
  split at h
  · cases h
  · next requestLine lines hlines =>
      split at h
      · cases h
      · cases h
      · cases hlength : contentLength 0 lines with
        | error e =>
            rw [hlength] at h
            cases h
        | ok n =>
            rw [hlength] at h
            cases h
            exact contentLength_lt (by decide) hlength

theorem contentLength_error {length : Nat} {lines : List (List Char)}
    {e : Abort String} (h : contentLength length lines = .error e) :
    e = .error "parsing content-length" := by
  induction lines generalizing length with
  | nil => cases h
  | cons line rest ih =>
      rw [contentLength] at h
      split at h
      · exact ih h
      · split at h
        · cases h
          rfl
        · exact ih h

theorem parseHead_error {head : List Char} {e : Abort String}
    (h : parseHead head = .error e) : exists message, e = .error message := by
  unfold parseHead at h
  split at h
  · cases h
    exact ⟨_, rfl⟩
  · next requestLine lines hlines =>
      split at h
      · cases h
        exact ⟨_, rfl⟩
      · cases h
        exact ⟨_, rfl⟩
      · cases hlength : contentLength 0 lines with
        | error e' =>
            rw [hlength] at h
            cases h
            exact ⟨_, contentLength_error hlength⟩
        | ok n =>
            rw [hlength] at h
            cases h

theorem slice_eq {reason : Type} {bytes : Bytes} {start stop : Nat}
    (hstart : start ≤ stop) (hstop : stop ≤ bytes.length) :
    (slice bytes start stop : Except (Abort reason) Bytes) =
      .ok ((bytes.drop start).take (stop - start)) := by
  rw [slice, if_pos ⟨hstart, hstop⟩]

/-- Everything the parser can do with a message.  An end past the range of a
length is a panic whether or not the sum is checked: a sum that wraps around
ends the body before its start. -/
theorem parseRequest_cases (overflowChecks : Bool) (raw : Bytes) :
    (parsedBody raw = none ∧
      exists message, parseRequest overflowChecks raw =
        .error (.error message)) ∨
    exists bodyStart length method path,
      parsedBody raw = some (bodyStart, length) ∧
      parseRequest overflowChecks raw =
        if bodyStart + length < usizeLimit then
          .ok { method := method, path := path,
                body := (raw.drop bodyStart).take length }
        else
          .error .panic := by
  unfold parsedBody parseRequest
  cases hfind : findHeaderTerminator raw with
  | none => exact Or.inl ⟨rfl, _, rfl⟩
  | some found =>
      rcases found with ⟨headEnd, bodyStart⟩
      have hbounds := findHeaderTerminator_bounds hfind
      have hhead : headEnd ≤ raw.length := by omega
      simp only [slice_zero hhead, bind, Except.bind, pure, Except.pure]
      cases htext : Bytes.toText? (raw.take headEnd) with
      | none => exact Or.inl ⟨rfl, _, rfl⟩
      | some head =>
          cases hparse : parseHead head with
          | error e =>
              rcases parseHead_error hparse with ⟨message, rfl⟩
              simp only [hparse]
              exact Or.inl ⟨trivial, message, rfl⟩
          | ok parsed =>
              rcases parsed with ⟨method, path, length⟩
              simp only [hparse]
              refine Or.inr ⟨bodyStart, length, method, path, rfl, ?_⟩
              by_cases hfits : bodyStart + length < usizeLimit
              · by_cases hend : bodyStart + length ≤ raw.length
                · simp only [addUsize, if_pos hfits, if_pos hend,
                    slice_eq (Nat.le_add_right bodyStart length) hend,
                    Nat.add_sub_cancel_left]
                · have hrest : (raw.drop bodyStart).length ≤ length := by
                    rw [List.length_drop]
                    omega
                  have hall : (raw.drop bodyStart).length ≤
                      raw.length - bodyStart := by
                    rw [List.length_drop]
                  simp only [addUsize, if_pos hfits, if_neg hend,
                    slice_eq hbounds.right (Nat.le_refl raw.length),
                    List.take_of_length_le hrest, List.take_of_length_le hall]
              · have hlength := parseHead_lt hparse
                have hwrapped : (bodyStart + length) % usizeLimit <
                    bodyStart := by
                  simp only [usizeLimit, UInt64.size] at *
                  omega
                have hle : (bodyStart + length) % usizeLimit ≤ raw.length := by
                  omega
                cases overflowChecks with
                | true => simp only [addUsize, if_neg hfits, if_true]
                | false =>
                    simp only [addUsize, if_neg hfits, Bool.false_eq_true,
                      if_false, if_pos hle, slice_of_gt _ hwrapped]

theorem bodyStart_le_of_parsedBody {raw : Bytes} {bodyStart length : Nat}
    (h : parsedBody raw = some (bodyStart, length)) :
    bodyStart ≤ raw.length := by
  unfold parsedBody at h
  split at h
  · cases h
  · next headEnd start hfind =>
      split at h
      · cases h
      · split at h
        · cases h
        · cases h
          exact (findHeaderTerminator_bounds hfind).right

theorem findHeaderTerminator_of_parsedBody {raw : Bytes} {body : Nat × Nat}
    (h : parsedBody raw = some body) : findHeaderTerminator raw ≠ none := by
  intro hnone
  rw [parsedBody, hnone] at h
  cases h

theorem ne_nil_of_parsedBody {raw : Bytes} {body : Nat × Nat}
    (h : parsedBody raw = some body) : raw ≠ [] := by
  intro hnil
  apply findHeaderTerminator_of_parsedBody h
  rw [hnil]
  rfl

theorem parseRequest_of_fits (overflowChecks : Bool) {buffer : Bytes}
    {bodyStart length : Nat} (hbody : parsedBody buffer = some (bodyStart, length))
    (hfits : bodyStart + length < usizeLimit) :
    exists request, parseRequest overflowChecks buffer = .ok request ∧
      request.body = (buffer.drop bodyStart).take length := by
  rcases parseRequest_cases overflowChecks buffer with
    ⟨hnone, _⟩ | ⟨start, n, method, path, hsome, hparse⟩
  · rw [hnone] at hbody
    cases hbody
  · rw [hsome] at hbody
    cases hbody
    rw [if_pos hfits] at hparse
    exact ⟨_, hparse, rfl⟩

theorem parsedBody_of_parseRequest {overflowChecks : Bool} {buffer : Bytes}
    {request : Request}
    (hparse : parseRequest overflowChecks buffer = .ok request) :
    exists bodyStart length, parsedBody buffer = some (bodyStart, length) ∧
      bodyStart + length < usizeLimit ∧
      request.body = (buffer.drop bodyStart).take length := by
  rcases parseRequest_cases overflowChecks buffer with
    ⟨_, message, herror⟩ | ⟨bodyStart, length, method, path, hbody, hcase⟩
  · rw [herror] at hparse
    cases hparse
  · rw [hcase] at hparse
    by_cases hfits : bodyStart + length < usizeLimit
    · rw [if_pos hfits] at hparse
      cases hparse
      exact ⟨bodyStart, length, hbody, hfits, rfl⟩
    · rw [if_neg hfits] at hparse
      cases hparse

/-!
# Rendered heads
-/

section

variable {lines : List (List Char)}

theorem findHeaderTerminator_render (hne : lines ≠ [])
    (h : forall line, line ∈ lines -> MessageHead.IsLine line) (body : Bytes) :
    findHeaderTerminator (MessageHead.render lines ++ body) =
      some ((Bytes.ofText (MessageHead.join lines)).length,
        (MessageHead.render lines).length) := by
  simp only [findHeaderTerminator,
    MessageHead.findWindow_crlfCrlf_render hne h body,
    MessageHead.length_render]

theorem parsedBody_render (hne : lines ≠ [])
    (h : forall line, line ∈ lines -> MessageHead.IsLine line) (body : Bytes) :
    parsedBody (MessageHead.render lines ++ body) =
      match parseHead (MessageHead.join lines) with
      | .error _ => none
      | .ok (_, _, length) =>
          some ((MessageHead.render lines).length, length) := by
  have htake : (MessageHead.render lines ++ body).take
      (Bytes.ofText (MessageHead.join lines)).length =
        Bytes.ofText (MessageHead.join lines) := by
    rw [MessageHead.render, List.append_assoc, List.take_left]
  rw [parsedBody, findHeaderTerminator_render hne h]
  simp only [htake, Bytes.toText?_ofText]

theorem awaitedEnd_render (hne : lines ≠ [])
    (h : forall line, line ∈ lines -> MessageHead.IsLine line) (body : Bytes) :
    awaitedEnd (MessageHead.render lines ++ body) =
      some ((MessageHead.render lines).length +
        expectedLength (MessageHead.join lines ++ ['\r', '\n', '\r'])) := by
  have hcr : Bytes.ofText ['\r', '\n', '\r'] = [13, 10, 13] := by decide
  have hshape : MessageHead.render lines ++ body =
      Bytes.ofText (MessageHead.join lines ++ ['\r', '\n', '\r']) ++
        ([10] ++ body) := by
    simp [MessageHead.render, MessageHead.crlfCrlf, hcr]
  have hend : (MessageHead.render lines).length - 1 =
      (Bytes.ofText (MessageHead.join lines ++
        ['\r', '\n', '\r'])).length := by
    rw [MessageHead.length_render, Bytes.ofText_append, List.length_append, hcr]
    rfl
  have htake : (MessageHead.render lines ++ body).take
      ((MessageHead.render lines).length - 1) =
        Bytes.ofText (MessageHead.join lines ++ ['\r', '\n', '\r']) := by
    rw [hend, hshape, List.take_left]
  rw [awaitedEnd, findHeaderTerminator_render hne h]
  simp only [htake, Bytes.toText?_ofText, Option.getD_some]

end

/-!
# The reads of the loop
-/

def readCount (overflowChecks : Bool) (reads : Stream) (index : Nat)
    (buffer : Bytes) : Nat :=
  if _ : maxRequest ≤ buffer.length then
    0
  else
    match reads index with
    | .failed => 1
    | .data bytes _ =>
        if _ : bytes = [] then
          1
        else
          match isComplete overflowChecks (buffer ++ bytes) with
          | .error _ => 1
          | .ok true => 1
          | .ok false =>
              readCount overflowChecks reads (index + 1) (buffer ++ bytes) + 1
termination_by maxRequest - buffer.length
decreasing_by
  have hlength := List.length_pos_iff.mpr ‹¬ bytes = []›
  rw [List.length_append]
  omega

def Waiting (buffer : Bytes) : Prop :=
  forall stop, awaitedEnd buffer = some stop ->
    buffer.length < stop ∧ stop < usizeLimit

theorem awaitedEnd_mod_le {buffer : Bytes} {stop : Nat}
    (h : awaitedEnd buffer = some stop) (hpast : ¬ stop < usizeLimit) :
    stop % usizeLimit ≤ buffer.length := by
  unfold awaitedEnd at h
  split at h
  · cases h
  · next headEnd bodyStart hfind =>
      have hbounds := findHeaderTerminator_bounds hfind
      have hlength := expectedLength_lt
        ((Bytes.toText? (buffer.take (bodyStart - 1))).getD [])
      cases h
      simp only [usizeLimit, UInt64.size] at *
      omega

theorem waiting_iff (overflowChecks : Bool) (buffer : Bytes) :
    Waiting buffer <-> isComplete overflowChecks buffer = .ok false := by
  rw [isComplete_eq_awaitedEnd]
  unfold Waiting
  cases hawaited : awaitedEnd buffer with
  | none => simp
  | some stop =>
      by_cases hfits : stop < usizeLimit
      · simp [hfits]
      · have hwrapped := awaitedEnd_mod_le hawaited hfits
        cases overflowChecks with
        | true => simp [hfits]
        | false => simp [hfits, hwrapped]

structure Passes (reads : Stream) (index : Nat) (buffer next : Bytes) :
    Prop where
  room : buffer.length < maxRequest
  read : exists bytes fits, reads index = .data bytes fits ∧ bytes ≠ [] ∧
    next = buffer ++ bytes
  waiting : Waiting next

/-- The buffers with which the loop goes on, and the number of reads behind
them. -/
inductive Reaches (reads : Stream) : Nat -> Bytes -> Prop where
  | start : Reaches reads 0 []
  | pass {count : Nat} {buffer next : Bytes} (h : Reaches reads count buffer)
      (hnext : Passes reads count buffer next) : Reaches reads (count + 1) next

/-- How the loop ends where it is at `buffer` after `count` reads: its result
and the number of all its reads. -/
inductive Ends (overflowChecks : Bool) (reads : Stream) (count : Nat)
    (buffer : Bytes) : Except (Abort RequestError) Bytes -> Nat -> Prop where
  | oversized (hfull : maxRequest ≤ buffer.length) :
      Ends overflowChecks reads count buffer
        (.error (.error (.oversized maxRequest))) count
  | failed (hroom : buffer.length < maxRequest)
      (hread : reads count = .failed) :
      Ends overflowChecks reads count buffer (.error (.error .io)) (count + 1)
  | ended (hroom : buffer.length < maxRequest) (fits : [].length ≤ readSize)
      (hread : reads count = .data [] fits) :
      Ends overflowChecks reads count buffer (.ok buffer) (count + 1)
  | complete (hroom : buffer.length < maxRequest) (bytes : Bytes)
      (fits : bytes.length ≤ readSize) (hread : reads count = .data bytes fits)
      (hne : bytes ≠ [])
      (hcomplete : isComplete overflowChecks (buffer ++ bytes) = .ok true) :
      Ends overflowChecks reads count buffer (.ok (buffer ++ bytes)) (count + 1)
  | aborted (hroom : buffer.length < maxRequest) (bytes : Bytes)
      (fits : bytes.length ≤ readSize) (hread : reads count = .data bytes fits)
      (hne : bytes ≠ []) (e : Abort RequestError)
      (herror : isComplete overflowChecks (buffer ++ bytes) = .error e) :
      Ends overflowChecks reads count buffer (.error e) (count + 1)

section

variable {overflowChecks : Bool} {reads : Stream} {count total : Nat}
  {buffer next : Bytes} {result : Except (Abort RequestError) Bytes}

theorem Passes.eq (overflowChecks : Bool)
    (h : Passes reads count buffer next) :
    readLoop overflowChecks reads count buffer =
        readLoop overflowChecks reads (count + 1) next ∧
      readCount overflowChecks reads count buffer =
        readCount overflowChecks reads (count + 1) next + 1 := by
  rcases h.read with ⟨bytes, fits, hread, hne, rfl⟩
  have hincomplete := (waiting_iff overflowChecks _).mp h.waiting
  constructor
  · rw [readLoop_of_data h.room hread hne, hincomplete]
  · rw [readCount, dif_neg (Nat.not_le.mpr h.room), hread]
    simp only [dif_neg hne, hincomplete]

theorem Reaches.eq (overflowChecks : Bool) (h : Reaches reads count buffer) :
    readLoop overflowChecks reads 0 [] =
        readLoop overflowChecks reads count buffer ∧
      readCount overflowChecks reads 0 [] =
        readCount overflowChecks reads count buffer + count := by
  induction h with
  | start => exact ⟨rfl, rfl⟩
  | pass h hnext ih =>
      have heq := hnext.eq overflowChecks
      rw [ih.left, ih.right, heq.left, heq.right]
      exact ⟨rfl, by omega⟩

theorem Ends.eq
    (h : Ends overflowChecks reads count buffer result total) :
    readLoop overflowChecks reads count buffer = result ∧
      readCount overflowChecks reads count buffer + count = total := by
  cases h with
  | oversized hfull =>
      rw [readLoop, readCount, dif_pos hfull, dif_pos hfull]
      exact ⟨rfl, Nat.zero_add _⟩
  | failed hroom hread =>
      rw [readLoop, readCount, dif_neg (Nat.not_le.mpr hroom),
        dif_neg (Nat.not_le.mpr hroom), hread]
      exact ⟨rfl, Nat.add_comm _ _⟩
  | ended hroom fits hread =>
      rw [readLoop, readCount, dif_neg (Nat.not_le.mpr hroom),
        dif_neg (Nat.not_le.mpr hroom), hread]
      exact ⟨rfl, Nat.add_comm _ _⟩
  | complete hroom bytes fits hread hne hcomplete =>
      rw [readLoop, readCount, dif_neg (Nat.not_le.mpr hroom),
        dif_neg (Nat.not_le.mpr hroom), hread]
      simp only [dif_neg hne, hcomplete]
      exact ⟨trivial, Nat.add_comm _ _⟩
  | aborted hroom bytes fits hread hne e herror =>
      rw [readLoop, readCount, dif_neg (Nat.not_le.mpr hroom),
        dif_neg (Nat.not_le.mpr hroom), hread]
      simp only [dif_neg hne, herror]
      exact ⟨trivial, Nat.add_comm _ _⟩

theorem Reaches.waiting {count : Nat} {buffer : Bytes}
    (h : Reaches reads count buffer) : Waiting buffer := by
  cases h with
  | start =>
      intro stop hstop
      cases hstop
  | pass h hnext => exact hnext.waiting

theorem Reaches.ends (h : Reaches reads count buffer)
    (hend : Ends overflowChecks reads count buffer result total) :
    readLoop overflowChecks reads 0 [] = result ∧
      readCount overflowChecks reads 0 [] = total := by
  have hreaches := h.eq overflowChecks
  rw [hreaches.left, hreaches.right]
  exact hend.eq

theorem Reaches.exists_ends (overflowChecks : Bool)
    (h : Reaches reads count buffer) :
    exists count' buffer' result total, Reaches reads count' buffer' ∧
      Ends overflowChecks reads count' buffer' result total := by
  induction count, buffer using readLoop.induct overflowChecks reads with
  | case1 count buffer hfull =>
      exact ⟨count, buffer, _, _, h, .oversized hfull⟩
  | case2 count buffer hroom hread =>
      exact ⟨count, buffer, _, _, h, .failed (Nat.not_le.mp hroom) hread⟩
  | case3 count buffer hroom fits hread =>
      exact ⟨count, buffer, _, _, h, .ended (Nat.not_le.mp hroom) fits hread⟩
  | case4 count buffer hroom bytes fits hread hne e herror =>
      exact ⟨count, buffer, _, _, h,
        .aborted (Nat.not_le.mp hroom) bytes fits hread hne e herror⟩
  | case5 count buffer hroom bytes fits hread hne hcomplete =>
      exact ⟨count, buffer, _, _, h,
        .complete (Nat.not_le.mp hroom) bytes fits hread hne hcomplete⟩
  | case6 count buffer hroom bytes fits hread hne hcomplete ih =>
      exact ih (.pass h
        { room := Nat.not_le.mp hroom
          read := ⟨bytes, fits, hread, hne, rfl⟩
          waiting := (waiting_iff overflowChecks _).mpr hcomplete })

end

theorem readRequest_of_readLoop_error {overflowChecks : Bool} {reads : Stream}
    {e : Abort RequestError}
    (h : readLoop overflowChecks reads 0 [] = .error e) :
    readRequest overflowChecks reads = .error e := by
  rw [readRequest, h]
  rfl

theorem readRequest_of_parseRequest {overflowChecks : Bool} {reads : Stream}
    {buffer : Bytes} {request : Request}
    (hloop : readLoop overflowChecks reads 0 [] = .ok buffer)
    {body : Nat × Nat} (hbody : parsedBody buffer = some body)
    (hparse : parseRequest overflowChecks buffer = .ok request) :
    readRequest overflowChecks reads = .ok request := by
  have hne := ne_nil_of_parsedBody hbody
  have hfound := findHeaderTerminator_of_parsedBody hbody
  rw [readRequest, hloop]
  simp only [bind, Except.bind, if_neg hne, if_neg hfound, hparse]

theorem exists_ends (overflowChecks : Bool) (reads : Stream) :
    exists count buffer result total, Reaches reads count buffer ∧
      Ends overflowChecks reads count buffer result total :=
  Reaches.start.exists_ends overflowChecks

theorem Reaches.congr {reads reads' : Stream} {count : Nat} {buffer : Bytes}
    (h : Reaches reads count buffer)
    (hreads : forall index, index < count -> reads' index = reads index) :
    Reaches reads' count buffer := by
  induction h with
  | start => exact .start
  | pass h hnext ih =>
      refine .pass (ih fun index hindex => hreads index (by omega)) ?_
      refine ⟨hnext.room, ?_, hnext.waiting⟩
      rw [hreads _ (Nat.lt_succ_self _)]
      exact hnext.read

def oneRead (bytes : Bytes) (fits : bytes.length ≤ readSize) : Stream :=
  fun _ => .data bytes fits

namespace Arrival

variable {wire : Bytes} (arrival : Arrival wire)

theorem reaches (hsize : wire.length ≤ maxRequest)
    (hwaiting : forall buffer, buffer <+: wire -> buffer ≠ wire ->
      Waiting buffer) {index : Nat} (hindex : index < arrival.chunks.length) :
    Reaches arrival.stream index (delivered arrival.stream 0 index) := by
  induction index with
  | zero => exact .start
  | succ index ih =>
      have hlt : index < arrival.chunks.length := by omega
      have hroom := arrival.length_delivered_lt hlt
      have hless := arrival.length_delivered_lt hindex
      refine .pass (ih hlt) ⟨by omega, ?_, ?_⟩
      · exact ⟨_, _, arrival.stream_of_lt hlt, arrival.chunks[index].ne_nil,
          arrival.delivered_succ hlt⟩
      · apply hwaiting _ (arrival.delivered_prefix _)
        intro heq
        rw [heq] at hless
        exact Nat.lt_irrefl _ hless

theorem readLoop_of_reads {overflowChecks : Bool}
    (hsize : wire.length ≤ maxRequest) (hne : wire ≠ [])
    (hcomplete : forall buffer, buffer <+: wire ->
      isComplete overflowChecks buffer = .ok (decide (buffer = wire)))
    {reads : Stream}
    (hreads : forall index, index < arrival.chunks.length ->
      reads index = arrival.stream index) :
    readLoop overflowChecks reads 0 [] = .ok wire ∧
      readCount overflowChecks reads 0 [] = arrival.chunks.length := by
  have hchunks : 0 < arrival.chunks.length := by
    apply List.length_pos_iff.mpr
    intro hnil
    have hflatten := arrival.flatten
    rw [hnil] at hflatten
    exact hne hflatten.symm
  have hlast : arrival.chunks.length - 1 < arrival.chunks.length := by omega
  have hcount : arrival.chunks.length - 1 + 1 = arrival.chunks.length := by
    omega
  have hwaiting : forall buffer, buffer <+: wire -> buffer ≠ wire ->
      Waiting buffer := by
    intro buffer hpart hless
    rw [waiting_iff overflowChecks, hcomplete buffer hpart]
    simp [hless]
  have hreaches := (arrival.reaches hsize hwaiting hlast).congr
    fun index hindex => hreads index (by omega)
  have hroom := arrival.length_delivered_lt hlast
  have hall : delivered arrival.stream 0 (arrival.chunks.length - 1) ++
      arrival.chunks[arrival.chunks.length - 1].bytes = wire := by
    rw [← arrival.delivered_succ hlast, hcount]
    exact arrival.delivered_all
  have hread := (hreads _ hlast).trans (arrival.stream_of_lt hlast)
  have hwhole : isComplete overflowChecks
      (delivered arrival.stream 0 (arrival.chunks.length - 1) ++
        arrival.chunks[arrival.chunks.length - 1].bytes) = .ok true := by
    rw [hall, hcomplete wire (List.prefix_refl wire)]
    simp
  have hend := hreaches.ends (.complete (by omega) _ _ hread
    arrival.chunks[arrival.chunks.length - 1].ne_nil hwhole)
  rw [hall, hcount] at hend
  exact hend

end Arrival

end Bastion

end Ephemwork

import Ephemwork.Bastion.BodyEnd

/-!
# Packet boundaries

One stream can reach `read_request` in many splits.  The module finds the
positions at which the loop can stop in some split, what the parser takes at two
of them, and when that is one request.
-/

namespace Ephemwork

open Foundation

namespace Bastion

/-!
# Where the loop can stop
-/

/-- The positions of a stream at which the loop goes on in some split. -/
inductive GoesOn (wire : Bytes) : Nat -> Prop where
  | start : GoesOn wire 0
  | read {m n : Nat} (h : GoesOn wire m) (hlt : m < n)
      (hread : n ≤ m + readSize) (hend : n ≤ wire.length)
      (hwaiting : Waiting (wire.take n)) : GoesOn wire n

/-- The positions at which it stops with a buffer for the parser. -/
inductive Stops (overflowChecks : Bool) (wire : Bytes) : Nat -> Prop where
  | ended (h : GoesOn wire wire.length) (hroom : wire.length < maxRequest) :
      Stops overflowChecks wire wire.length
  | complete {m n : Nat} (h : GoesOn wire m) (hlt : m < n)
      (hread : n ≤ m + readSize) (hend : n ≤ wire.length)
      (hcomplete : isComplete overflowChecks (wire.take n) = .ok true) :
      Stops overflowChecks wire n

section

variable {overflowChecks : Bool} {wire : Bytes}

theorem Reaches.eq_delivered {arrival : Arrival wire} {count : Nat}
    {buffer : Bytes} (h : Reaches arrival.stream count buffer) :
    buffer = delivered arrival.stream 0 count ∧
      GoesOn wire buffer.length := by
  induction h with
  | start => exact ⟨rfl, .start⟩
  | @pass count buffer next h hnext ih =>
      rcases ih with ⟨hbuffer, hgoes⟩
      rcases hnext.read with ⟨bytes, fits, hread, hne, hdata⟩
      have hlt : count < arrival.chunks.length := by
        by_contra hpast
        have hnone := List.getElem?_eq_none_iff.mpr (Nat.le_of_not_lt hpast)
        simp only [Arrival.stream, hnone] at hread
        split at hread
        · cases hread
          exact hne rfl
        · cases hread
      have hstream := arrival.stream_of_lt hlt
      rw [hread] at hstream
      have hbytes : bytes = arrival.chunks[count].bytes := by
        injection hstream
      have hall : next = delivered arrival.stream 0 (count + 1) := by
        rw [arrival.delivered_succ hlt, ← hbuffer, ← hbytes, hdata]
      have hpart := arrival.delivered_prefix (count + 1)
      rw [← hall] at hpart
      have hlength : next.length = buffer.length + bytes.length := by
        rw [hdata, List.length_append]
      have hpos := List.length_pos_iff.mpr hne
      refine ⟨hall, .read hgoes (by omega) (by omega) hpart.length_le ?_⟩
      rw [← List.prefix_iff_eq_take.mp hpart]
      exact hnext.waiting

theorem Arrival.stops (arrival : Arrival wire) {buffer : Bytes}
    (h : readLoop overflowChecks arrival.stream 0 [] = .ok buffer) :
    Stops overflowChecks wire buffer.length ∧
      buffer = wire.take buffer.length := by
  have hpart := (arrival.readLoop_cases h).left
  refine ⟨?_, List.prefix_iff_eq_take.mp hpart⟩
  rcases exists_ends overflowChecks arrival.stream with
    ⟨count, front, result, total, hreaches, hend⟩
  have hresult := (hreaches.ends hend).left
  rcases hreaches.eq_delivered with ⟨hfront, hgoes⟩
  rw [h] at hresult
  cases hend with
  | oversized hfull => cases hresult
  | failed hroom hread => cases hresult
  | ended hroom fits hread =>
      cases hresult
      have hall := arrival.delivered_of_end hread
      rw [← hfront] at hall
      rw [hall] at hgoes hroom ⊢
      exact .ended hgoes hroom
  | complete hroom bytes fits hread hne hcomplete =>
      cases hresult
      have hpos := List.length_pos_iff.mpr hne
      have hlength : (front ++ bytes).length = front.length + bytes.length :=
        List.length_append
      rw [List.prefix_iff_eq_take.mp hpart] at hcomplete
      exact .complete hgoes (by omega) (by omega) hpart.length_le hcomplete
  | aborted hroom bytes fits hread hne e herror => cases hresult

def chunkBetween (wire : Bytes) {m n : Nat} (hlt : m < n)
    (hread : n ≤ m + readSize) (hend : n ≤ wire.length) : Chunk where
  bytes := (wire.drop m).take (n - m)
  ne_nil := by
    apply List.length_pos_iff.mp
    rw [List.length_take, List.length_drop]
    omega
  fits := by
    rw [List.length_take]
    omega

theorem take_append_chunkBetween {m n : Nat} (hlt : m < n)
    (hread : n ≤ m + readSize) (hend : n ≤ wire.length) :
    wire.take m ++ (chunkBetween wire hlt hread hend).bytes = wire.take n := by
  have hsum : m + (n - m) = n := by omega
  rw [chunkBetween, ← List.take_add, hsum]

theorem GoesOn.exists_chunks (hsize : wire.length ≤ maxRequest) {n : Nat}
    (h : GoesOn wire n) :
    exists chunks : List Chunk,
      (chunks.map Chunk.bytes).flatten = wire.take n ∧
      forall arrival : Arrival wire, chunks <+: arrival.chunks ->
        Reaches arrival.stream chunks.length (wire.take n) := by
  induction h with
  | start => exact ⟨[], by simp, fun arrival _ => by simpa using .start⟩
  | @read m n h hlt hread hend hwaiting ih =>
      rcases ih with ⟨chunks, hflatten, hreaches⟩
      have htake := take_append_chunkBetween hlt hread hend
      refine ⟨chunks ++ [chunkBetween wire hlt hread hend], ?_, ?_⟩
      · simp [hflatten, htake]
      · intro arrival hpart
        have hfront := (List.prefix_append chunks _).trans hpart
        rcases hpart with ⟨more, hmore⟩
        have hnext : arrival.chunks[chunks.length]? =
            some (chunkBetween wire hlt hread hend) := by
          rw [← hmore]
          simp
        rw [List.length_append]
        apply (hreaches arrival hfront).pass
        refine ⟨?_, ?_, hwaiting⟩
        · rw [List.length_take]
          omega
        · refine ⟨(chunkBetween wire hlt hread hend).bytes,
            (chunkBetween wire hlt hread hend).fits, ?_,
            (chunkBetween wire hlt hread hend).ne_nil, htake.symm⟩
          simp only [Arrival.stream, hnext]

def arrivalFrom (chunks : List Chunk) {n : Nat}
    (h : (chunks.map Chunk.bytes).flatten = wire.take n) : Arrival wire where
  chunks := chunks ++ (Arrival.bytewise (wire.drop n)).chunks
  flatten := by
    rw [List.map_append, List.flatten_append, h,
      (Arrival.bytewise (wire.drop n)).flatten, List.take_append_drop]
  closed := true

theorem Stops.exists_arrival (hsize : wire.length ≤ maxRequest) {n : Nat}
    (h : Stops overflowChecks wire n) :
    exists arrival : Arrival wire, arrival.closed = true ∧
      readLoop overflowChecks arrival.stream 0 [] = .ok (wire.take n) := by
  cases h with
  | ended h hroom =>
      rcases h.exists_chunks hsize with ⟨chunks, hflatten, hreaches⟩
      have hreach := hreaches (arrivalFrom chunks hflatten)
        (List.prefix_append _ _)
      refine ⟨arrivalFrom chunks hflatten, rfl, ?_⟩
      have hread : (arrivalFrom chunks hflatten).stream chunks.length =
          .data [] (Nat.zero_le _) := by
        simp [Arrival.stream, arrivalFrom, Arrival.bytewise]
      have hfull : wire.take wire.length = wire := List.take_length
      rw [hfull] at hreach ⊢
      exact (hreach.ends (.ended hroom (Nat.zero_le _) hread)).left
  | @complete m n h hlt hread hend hcomplete =>
      rcases h.exists_chunks hsize with ⟨chunks, hflatten, hreaches⟩
      have htake := take_append_chunkBetween hlt hread hend
      have hall : ((chunks ++ [chunkBetween wire hlt hread hend]).map
          Chunk.bytes).flatten = wire.take n := by
        simp [hflatten, htake]
      have hreach := hreaches (arrivalFrom _ hall)
        ⟨[chunkBetween wire hlt hread hend] ++
          (Arrival.bytewise (wire.drop n)).chunks, by simp [arrivalFrom]⟩
      refine ⟨arrivalFrom _ hall, rfl, ?_⟩
      have hstream : (arrivalFrom _ hall).stream chunks.length =
          .data (chunkBetween wire hlt hread hend).bytes
            (chunkBetween wire hlt hread hend).fits := by
        simp [Arrival.stream, arrivalFrom]
      have hroom : (wire.take m).length < maxRequest := by
        rw [List.length_take]
        omega
      rw [← htake] at hcomplete ⊢
      exact (hreach.ends (.complete hroom _ _ hstream
        (chunkBetween wire hlt hread hend).ne_nil hcomplete)).left

end

/-!
# Two heads of one stream
-/

theorem parseRequest_of_head (overflowChecks : Bool) {raw : Bytes}
    {headEnd bodyStart length : Nat} {head : List Char} {method path : String}
    (hfind : findHeaderTerminator raw = some (headEnd, bodyStart))
    (htext : Bytes.toText? (raw.take headEnd) = some head)
    (hparse : parseHead head = .ok (method, path, length))
    (hfits : bodyStart + length < usizeLimit) :
    parseRequest overflowChecks raw =
      .ok { method := method, path := path,
            body := (raw.drop bodyStart).take length } := by
  have hbounds := findHeaderTerminator_bounds hfind
  have hhead : headEnd ≤ raw.length := by omega
  rw [parseRequest, hfind]
  simp only [slice_zero hhead, bind, Except.bind, pure, Except.pure, htext,
    hparse, addUsize, if_pos hfits]
  by_cases hend : bodyStart + length ≤ raw.length
  · simp only [if_pos hend, Nat.add_sub_cancel_left,
      slice_eq (Nat.le_add_right bodyStart length) hend]
  · have hrest : (raw.drop bodyStart).length ≤ length := by
      rw [List.length_drop]
      omega
    have hall : (raw.drop bodyStart).length ≤ raw.length - bodyStart := by
      rw [List.length_drop]
    simp only [if_neg hend, slice_eq hbounds.right (Nat.le_refl raw.length),
      List.take_of_length_le hrest, List.take_of_length_le hall]

/-- In a longer part of the stream the head ends where it did, or a CRLF end
behind a line-feed end has come in. -/
theorem findHeaderTerminator_take {wire : Bytes} {m n : Nat} (hmn : m ≤ n)
    {headEnd bodyStart headEnd' bodyStart' : Nat}
    (h : findHeaderTerminator (wire.take m) = some (headEnd, bodyStart))
    (h' : findHeaderTerminator (wire.take n) = some (headEnd', bodyStart')) :
    (headEnd' = headEnd ∧ bodyStart' = bodyStart) ∨
      (bodyStart < bodyStart' ∧
        exists rest, wire.take headEnd' = wire.take headEnd ++ 10 :: rest) := by
  have hpart : wire.take n = wire.take m ++ (wire.drop m).take (n - m) := by
    rw [← List.take_add]
    congr 1
    omega
  unfold findHeaderTerminator at h h'
  cases hcrlf : Bytes.findWindow MessageHead.crlfCrlf (wire.take m) with
  | some position =>
      have hlater := Bytes.findWindow_append_of_some hcrlf
        ((wire.drop m).take (n - m))
      rw [← hpart] at hlater
      simp only [hcrlf, Option.some.injEq, Prod.mk.injEq] at h
      simp only [hlater, Option.some.injEq, Prod.mk.injEq] at h'
      omega
  | none =>
      cases hlf : Bytes.findWindow MessageHead.lfLf (wire.take m) with
      | none =>
          rw [hcrlf, hlf] at h
          cases h
      | some position =>
          have hlater := Bytes.findWindow_append_of_some hlf
            ((wire.drop m).take (n - m))
          rw [← hpart] at hlater
          simp only [hcrlf, hlf, Option.some.injEq, Prod.mk.injEq] at h
          rcases h with ⟨rfl, rfl⟩
          cases hcrlf' : Bytes.findWindow MessageHead.crlfCrlf (wire.take n) with
          | none =>
              simp only [hcrlf', hlater, Option.some.injEq, Prod.mk.injEq] at h'
              omega
          | some position' =>
              simp only [hcrlf', Option.some.injEq, Prod.mk.injEq] at h'
              rcases h' with ⟨rfl, rfl⟩
              rw [hpart] at hcrlf'
              rcases MessageHead.take_crlfCrlf_of_lfLf hcrlf hlf hcrlf' with
                ⟨hle, rest, hrest⟩
              have hroom := Bytes.findWindow_le hlf
              have hroom' := Bytes.findWindow_le hcrlf'
              rw [← hpart] at hrest hroom'
              simp only [MessageHead.lfLf, MessageHead.crlfCrlf,
                List.length_cons, List.length_nil, List.length_take]
                at hroom hroom'
              refine Or.inr ⟨by omega, rest, ?_⟩
              rw [List.take_take, List.take_take, Nat.min_eq_left (by omega),
                Nat.min_eq_left (by omega)] at hrest
              exact hrest

theorem parseHead_append_lf {head rest : List Char}
    {method path method' path' : String} {length length' : Nat}
    (h : parseHead head = .ok (method, path, length))
    (h' : parseHead (head ++ '\n' :: rest) = .ok (method', path', length')) :
    method' = method ∧ path' = path := by
  rcases MessageHead.exists_first_words head rest with
    ⟨line, more, line', more', hlines, hlines', hwords⟩
  rcases (parseHead_eq_ok_iff hlines).mp h with
    ⟨first, second, others, hparts, hmethod, hpath, _⟩
  rcases (parseHead_eq_ok_iff hlines').mp h' with
    ⟨first', second', others', hparts', hmethod', hpath', _⟩
  rw [← hwords, hparts] at hparts'
  cases hparts'
  exact ⟨hmethod'.symm.trans hmethod, hpath'.symm.trans hpath⟩

theorem parseRequest_takes (overflowChecks : Bool) {wire : Bytes} {m n : Nat}
    (hmn : m ≤ n) {bodyStart length bodyStart' length' : Nat}
    (h : parsedBody (wire.take m) = some (bodyStart, length))
    (hfits : bodyStart + length < usizeLimit)
    (h' : parsedBody (wire.take n) = some (bodyStart', length'))
    (hfits' : bodyStart' + length' < usizeLimit) :
    (bodyStart' = bodyStart -> length' = length) ∧
    exists method path,
      parseRequest overflowChecks (wire.take m) =
        .ok { method := method, path := path,
              body := ((wire.take m).drop bodyStart).take length } ∧
      parseRequest overflowChecks (wire.take n) =
        .ok { method := method, path := path,
              body := ((wire.take n).drop bodyStart').take length' } := by
  rcases exists_head_of_parsedBody h with
    ⟨headEnd, head, method, path, hfind, htext, hparse⟩
  rcases exists_head_of_parsedBody h' with
    ⟨headEnd', head', method', path', hfind', htext', hparse'⟩
  have hrequest := parseRequest_of_head overflowChecks hfind htext hparse hfits
  have hrequest' := parseRequest_of_head overflowChecks hfind' htext' hparse'
    hfits'
  have htake : (wire.take m).take headEnd = wire.take headEnd := by
    have hbounds := findHeaderTerminator_bounds hfind
    rw [List.length_take] at hbounds
    rw [List.take_take, Nat.min_eq_left (by omega)]
  have htake' : (wire.take n).take headEnd' = wire.take headEnd' := by
    have hbounds := findHeaderTerminator_bounds hfind'
    rw [List.length_take] at hbounds
    rw [List.take_take, Nat.min_eq_left (by omega)]
  rw [htake] at htext
  rw [htake'] at htext'
  rcases findHeaderTerminator_take hmn hfind hfind' with
    ⟨hend, hstart⟩ | ⟨hlt, rest, hrest⟩
  · rw [hend, htext] at htext'
    cases htext'
    rw [hparse] at hparse'
    cases hparse'
    exact ⟨fun _ => rfl, method, path, hrequest, hrequest'⟩
  · have hhead : Bytes.ofText head' = Bytes.ofText head ++ 10 :: rest := by
      rw [Bytes.ofText_of_toText? htext, Bytes.ofText_of_toText? htext', hrest]
    rcases Bytes.exists_of_ofText_append_cons (c := '\n') (by decide)
      (by decide) hhead with ⟨more, rfl⟩
    rcases parseHead_append_lf hparse hparse' with ⟨rfl, rfl⟩
    refine ⟨?_, _, _, hrequest, hrequest'⟩
    intro heq
    omega

/-!
# When the splits agree
-/

section

variable (overflowChecks : Bool) (wire : Bytes)

/-- A position at which the loop can stop, with a body of `length` bytes from
`bodyStart` for the parser. -/
structure CutAt (n bodyStart length : Nat) : Prop where
  stops : Stops overflowChecks wire n
  body : parsedBody (wire.take n) = some (bodyStart, length)
  fits : bodyStart + length < usizeLimit

/-- Where two cuts end the head at one place, the earlier one has all of the
announced body.  Where they do not, the announced bodies are the same bytes. -/
def CutsAgree : Prop :=
  forall m n bodyStart length bodyStart' length', m < n ->
    CutAt overflowChecks wire m bodyStart length ->
    CutAt overflowChecks wire n bodyStart' length' ->
    (bodyStart' = bodyStart -> bodyStart + length ≤ m) ∧
    (bodyStart' ≠ bodyStart ->
      ((wire.take n).drop bodyStart').take length' =
        ((wire.take m).drop bodyStart).take length)

/-- Two splits of the stream that are both accepted are one request. -/
def SplitIndependent : Prop :=
  forall first second : Arrival wire,
    first.closed = true -> second.closed = true ->
    forall request request',
      readRequest overflowChecks first.stream = .ok request ->
      readRequest overflowChecks second.stream = .ok request' ->
      request' = request

end

section

variable {overflowChecks : Bool} {wire : Bytes}

theorem Stops.le {n : Nat} (h : Stops overflowChecks wire n) :
    n ≤ wire.length := by
  cases h with
  | ended h hroom => exact Nat.le_refl _
  | complete h hlt hread hend hcomplete => exact hend

theorem Arrival.exists_cut (arrival : Arrival wire) {request : Request}
    (h : readRequest overflowChecks arrival.stream = .ok request) :
    exists n bodyStart length, CutAt overflowChecks wire n bodyStart length ∧
      parseRequest overflowChecks (wire.take n) = .ok request := by
  rcases exists_buffer_of_readRequest h with ⟨buffer, hloop, _, hparse⟩
  rcases arrival.stops hloop with ⟨hstops, hbuffer⟩
  rcases parsedBody_of_parseRequest hparse with
    ⟨bodyStart, length, hbody, hfits, _⟩
  rw [hbuffer] at hbody hparse
  exact ⟨_, bodyStart, length, ⟨hstops, hbody, hfits⟩, hparse⟩

theorem CutAt.exists_arrival (hsize : wire.length ≤ maxRequest)
    {n bodyStart length : Nat}
    (h : CutAt overflowChecks wire n bodyStart length) {request : Request}
    (hparse : parseRequest overflowChecks (wire.take n) = .ok request) :
    exists arrival : Arrival wire, arrival.closed = true ∧
      readRequest overflowChecks arrival.stream = .ok request := by
  rcases h.stops.exists_arrival hsize with ⟨arrival, hclosed, hloop⟩
  exact ⟨arrival, hclosed, readRequest_of_parseRequest hloop h.body hparse⟩

theorem SplitIndependent.cutsAgree (hsize : wire.length ≤ maxRequest)
    (h : SplitIndependent overflowChecks wire) :
    CutsAgree overflowChecks wire := by
  intro m n bodyStart length bodyStart' length' hlt hcut hcut'
  rcases parseRequest_takes overflowChecks (Nat.le_of_lt hlt) hcut.body
    hcut.fits hcut'.body hcut'.fits with
    ⟨hlength, method, path, hparse, hparse'⟩
  rcases hcut.exists_arrival hsize hparse with ⟨first, hclosed, hrequest⟩
  rcases hcut'.exists_arrival hsize hparse' with ⟨second, hclosed', hrequest'⟩
  have hsame := h first second hclosed hclosed' _ _ hrequest hrequest'
  have hbodies := congrArg Request.body hsame
  refine ⟨?_, fun _ => hbodies⟩
  intro hstart
  have hbounds := bodyStart_le_of_parsedBody hcut.body
  have hlengths := congrArg List.length hbodies
  have hle := hcut.stops.le
  have hle' := hcut'.stops.le
  simp only [List.length_take, List.length_drop, hstart, hlength hstart]
    at hlengths hbounds
  omega

theorem CutsAgree.splitIndependent (h : CutsAgree overflowChecks wire) :
    SplitIndependent overflowChecks wire := by
  have hle : forall m n bodyStart length bodyStart' length', m ≤ n ->
      CutAt overflowChecks wire m bodyStart length ->
      CutAt overflowChecks wire n bodyStart' length' ->
      parseRequest overflowChecks (wire.take n) =
        parseRequest overflowChecks (wire.take m) := by
    intro m n bodyStart length bodyStart' length' hmn hcut hcut'
    rcases Nat.eq_or_lt_of_le hmn with rfl | hlt
    · rfl
    · rcases parseRequest_takes overflowChecks hmn hcut.body hcut.fits
        hcut'.body hcut'.fits with ⟨hlength, method, path, hparse, hparse'⟩
      rcases h m n bodyStart length bodyStart' length' hlt hcut hcut' with
        ⟨hwhole, hbytes⟩
      rw [hparse, hparse']
      by_cases hstart : bodyStart' = bodyStart
      · -- The body is whole in the earlier cut, so more bytes change nothing.
        have henough := hwhole hstart
        have hend := hcut.stops.le
        have htake : forall k, m ≤ k ->
            ((wire.take k).drop bodyStart).take length =
              (wire.drop bodyStart).take length := by
          intro k hk
          rw [List.drop_take, List.take_take, Nat.min_eq_left (by omega)]
        rw [hstart, hlength hstart, htake n hmn, htake m (Nat.le_refl m)]
      · rw [hbytes hstart]
  intro first second _ _ request request' hrequest hrequest'
  rcases first.exists_cut hrequest with ⟨m, bodyStart, length, hcut, hparse⟩
  rcases second.exists_cut hrequest' with
    ⟨n, bodyStart', length', hcut', hparse'⟩
  have hsame : parseRequest overflowChecks (wire.take n) =
      parseRequest overflowChecks (wire.take m) := by
    rcases Nat.le_total m n with hmn | hnm
    · exact hle _ _ _ _ _ _ hmn hcut hcut'
    · exact (hle _ _ _ _ _ _ hnm hcut' hcut).symm
  rw [hparse, hparse'] at hsame
  exact Except.ok.inj hsame

end

/-- How a stream of at most the cap is split does not matter to the request
exactly if the cuts agree. -/
theorem splitIndependent_iff_cutsAgree (overflowChecks : Bool) {wire : Bytes}
    (hsize : wire.length ≤ maxRequest) :
    SplitIndependent overflowChecks wire <-> CutsAgree overflowChecks wire :=
  ⟨SplitIndependent.cutsAgree hsize, CutsAgree.splitIndependent⟩

end Bastion

end Ephemwork

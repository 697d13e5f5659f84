import Ephemwork.Bastion.Reading

/-!
# Sums of lengths

`parse_request` and `read_request` add the content length of a header to the
start of the body.  They panic exactly where such a sum leaves the range of a
length, the parser in a build with overflow checks and in one without.
-/

namespace Ephemwork

open Foundation

namespace Bastion

def ParseFits (raw : Bytes) : Prop :=
  forall bodyStart length, parsedBody raw = some (bodyStart, length) ->
    bodyStart + length < usizeLimit

/-- The buffer goes to the parser: the loop has all it waits for, or the stream
has ended. -/
structure HandsOver (reads : Stream) (count : Nat) (front bytes : Bytes) :
    Prop where
  reaches : Reaches reads count front
  room : front.length < maxRequest
  read : exists fits, reads count = .data bytes fits
  done : bytes = [] ∨ exists stop, awaitedEnd (front ++ bytes) = some stop ∧
    stop ≤ (front ++ bytes).length

/-- The sums of the loop and of the parser behind it stay in range. -/
structure ReadsFit (reads : Stream) : Prop where
  awaited : forall count front bytes fits stop, Reaches reads count front ->
    front.length < maxRequest -> reads count = .data bytes fits ->
    awaitedEnd (front ++ bytes) = some stop -> stop < usizeLimit
  parsed : forall count front bytes, HandsOver reads count front bytes ->
    ParseFits (front ++ bytes)

theorem parseRequest_panics_iff (overflowChecks : Bool) (raw : Bytes) :
    parseRequest overflowChecks raw ≠ .error .panic <-> ParseFits raw := by
  unfold ParseFits
  rcases parseRequest_cases overflowChecks raw with
    ⟨hnone, message, hparse⟩ | ⟨bodyStart, length, method, path, hbody, hparse⟩
  · simp [hnone, hparse]
  · by_cases hfits : bodyStart + length < usizeLimit
    · simp [hbody, hparse, hfits]
    · simp [hbody, hparse, hfits]

theorem parseRequest_of_overflow (overflowChecks : Bool) {raw : Bytes}
    {bodyStart length : Nat} (hbody : parsedBody raw = some (bodyStart, length))
    (hpast : ¬ bodyStart + length < usizeLimit) :
    parseRequest overflowChecks raw = .error .panic := by
  by_contra hparse
  exact hpast ((parseRequest_panics_iff overflowChecks raw).mp hparse _ _ hbody)

/-!
# Panics of the loop
-/

section

variable {overflowChecks : Bool} {reads : Stream}

theorem readRequest_panics_iff {buffer : Bytes}
    (h : readLoop overflowChecks reads 0 [] = .ok buffer) :
    readRequest overflowChecks reads ≠ .error .panic <-> ParseFits buffer := by
  rcases parseRequest_cases overflowChecks buffer with
    ⟨hnone, message, hparse⟩ | ⟨bodyStart, length, method, path, hbody, hparse⟩
  · have hfits : ParseFits buffer := by
      intro bodyStart length hbody
      rw [hnone] at hbody
      cases hbody
    apply iff_of_true _ hfits
    rw [readRequest, h]
    simp only [bind, Except.bind, hparse]
    split
    · simp
    · split <;> simp
  · have hfound := findHeaderTerminator_of_parsedBody hbody
    have hne := ne_nil_of_parsedBody hbody
    have hread : readRequest overflowChecks reads ≠ .error .panic <->
        parseRequest overflowChecks buffer ≠ .error .panic := by
      rw [readRequest, h]
      simp only [bind, Except.bind, if_neg hne, if_neg hfound, hparse]
      by_cases hfits : bodyStart + length < usizeLimit
      · simp [hfits]
      · simp [hfits]
    rw [hread, parseRequest_panics_iff]

theorem ReadsFit.of_never_panics
    (h : forall overflowChecks, readRequest overflowChecks reads ≠
      .error .panic) : ReadsFit reads := by
  have hawaited : forall count front bytes fits stop,
      Reaches reads count front -> front.length < maxRequest ->
      reads count = .data bytes fits ->
      awaitedEnd (front ++ bytes) = some stop -> stop < usizeLimit := by
    intro count front bytes fits stop hreaches hroom hread hstop
    by_cases hne : bytes = []
    · rw [hne, List.append_nil] at hstop
      exact (hreaches.waiting stop hstop).right
    · -- A build with overflow checks panics at the sum of the loop.
      by_contra hpast
      have hpanic : isComplete true (front ++ bytes) = .error .panic := by
        rw [isComplete_eq_awaitedEnd, hstop]
        simp [hpast]
      have hend := hreaches.ends
        (.aborted hroom bytes fits hread hne .panic hpanic)
      exact h true (readRequest_of_readLoop_error hend.left)
  refine ⟨hawaited, ?_⟩
  intro count front bytes hover
  rcases hover.read with ⟨fits, hread⟩
  by_cases hne : bytes = []
  · subst hne
    have hended : Ends true reads count front (.ok front) (count + 1) :=
      .ended hover.room fits hread
    have hend := hover.reaches.ends hended
    rw [List.append_nil]
    exact (readRequest_panics_iff hend.left).mp (h true)
  · rcases hover.done with hnil | ⟨stop, hstop, hle⟩
    · exact absurd hnil hne
    · have hfits := hawaited count front bytes fits stop hover.reaches
        hover.room hread hstop
      have hcomplete : isComplete true (front ++ bytes) = .ok true := by
        rw [isComplete_eq_awaitedEnd, hstop]
        simp only [if_pos hfits, hle, decide_true]
      have hend := hover.reaches.ends
        (.complete hover.room bytes fits hread hne hcomplete)
      exact (readRequest_panics_iff hend.left).mp (h true)

theorem ReadsFit.never_panics (h : ReadsFit reads) (overflowChecks : Bool) :
    readRequest overflowChecks reads ≠ .error .panic := by
  rcases exists_ends overflowChecks reads with
    ⟨count, front, result, total, hreaches, hend⟩
  have hloop := (hreaches.ends hend).left
  cases hend with
  | oversized hfull =>
      rw [readRequest_of_readLoop_error hloop]
      simp
  | failed hroom hread =>
      rw [readRequest_of_readLoop_error hloop]
      simp
  | ended hroom fits hread =>
      rw [readRequest_panics_iff hloop, ← List.append_nil front]
      exact h.parsed count front [] ⟨hreaches, hroom, ⟨fits, hread⟩, Or.inl rfl⟩
  | complete hroom bytes fits hread hne hcomplete =>
      rw [readRequest_panics_iff hloop]
      apply h.parsed count front bytes
      refine ⟨hreaches, hroom, ⟨fits, hread⟩, Or.inr ?_⟩
      rw [isComplete_eq_awaitedEnd] at hcomplete
      cases hstop : awaitedEnd (front ++ bytes) with
      | none =>
          rw [hstop] at hcomplete
          cases hcomplete
      | some stop =>
          have hfits := h.awaited count front bytes fits stop hreaches hroom
            hread hstop
          rw [hstop] at hcomplete
          refine ⟨stop, rfl, ?_⟩
          simpa [hfits] using hcomplete
  | aborted hroom bytes fits hread hne e herror =>
      rw [isComplete_eq_awaitedEnd] at herror
      cases hstop : awaitedEnd (front ++ bytes) with
      | none =>
          rw [hstop] at herror
          cases herror
      | some stop =>
          have hfits := h.awaited count front bytes fits stop hreaches hroom
            hread hstop
          rw [hstop] at herror
          simp [hfits] at herror

end

/-- `parse_request` panics in neither build exactly if its sum stays in range,
and `read_request` exactly if all of its sums do. -/
theorem parsing_never_panics_iff (raw : Bytes) (reads : Stream) :
    ((forall overflowChecks, parseRequest overflowChecks raw ≠ .error .panic) <->
      ParseFits raw) ∧
    ((forall overflowChecks,
        readRequest overflowChecks reads ≠ .error .panic) <->
      ReadsFit reads) := by
  constructor
  · constructor
    · intro h
      exact (parseRequest_panics_iff true raw).mp (h true)
    · intro h overflowChecks
      exact (parseRequest_panics_iff overflowChecks raw).mpr h
  · exact ⟨ReadsFit.of_never_panics, ReadsFit.never_panics⟩

def longestLines : List (List Char) :=
  ["POST / HTTP/1.0".toList, "Content-Length: 18446744073709551615".toList]

theorem isLine_of_mem_longestLines :
    forall line, line ∈ longestLines -> MessageHead.IsLine line := by
  simp only [longestLines, List.forall_mem_cons, List.not_mem_nil,
    false_implies, implies_true, and_true]
  exact ⟨MessageHead.IsLine.of_check rfl, MessageHead.IsLine.of_check rfl⟩

theorem readRequest_of_overflow (overflowChecks : Bool) {reads : Stream}
    {bytes : Bytes} {fits : bytes.length ≤ readSize}
    (hread : reads 0 = .data bytes fits) {stop : Nat}
    (hawaited : awaitedEnd bytes = some stop) (hstop : ¬ stop < usizeLimit)
    {bodyStart length : Nat} (hbody : parsedBody bytes = some (bodyStart, length))
    (hpast : ¬ bodyStart + length < usizeLimit) :
    readRequest overflowChecks reads = .error .panic := by
  have hroom : ([] : Bytes).length < maxRequest := by decide
  have hne := ne_nil_of_parsedBody hbody
  cases overflowChecks with
  | true =>
      have hpanic : isComplete true ([] ++ bytes) = .error .panic := by
        rw [List.nil_append, isComplete_eq_awaitedEnd, hawaited]
        simp [hstop]
      have hend := Reaches.start.ends
        (.aborted hroom bytes fits hread hne .panic hpanic)
      exact readRequest_of_readLoop_error hend.left
  | false =>
      -- The loop takes the wrapped sum for reached; the parser panics.
      have hwrapped := awaitedEnd_mod_le hawaited hstop
      have hcomplete : isComplete false ([] ++ bytes) = .ok true := by
        rw [List.nil_append, isComplete_eq_awaitedEnd, hawaited]
        simp [hstop, hwrapped]
      have hend := Reaches.start.ends
        (.complete hroom bytes fits hread hne hcomplete)
      by_contra hnot
      exact hpast ((readRequest_panics_iff hend.left).mp hnot _ _ hbody)

theorem longestLines_overflow :
    exists stop bodyStart length,
      awaitedEnd (MessageHead.render longestLines) = some stop ∧
      ¬ stop < usizeLimit ∧
      parsedBody (MessageHead.render longestLines) =
        some (bodyStart, length) ∧
      ¬ bodyStart + length < usizeLimit := by
  have hne : longestLines ≠ [] := List.cons_ne_nil _ _
  have hbody := parsedBody_render hne isLine_of_mem_longestLines []
  have hawaited := awaitedEnd_render hne isLine_of_mem_longestLines []
  have hhead : parseHead (MessageHead.join longestLines) =
      .ok ("POST", "/", 18446744073709551615) := by decide +kernel
  have hlength : expectedLength
      (MessageHead.join longestLines ++ ['\r', '\n', '\r']) =
        18446744073709551615 := by decide +kernel
  have hpast : ¬ (MessageHead.render longestLines).length +
      18446744073709551615 < usizeLimit := by decide +kernel
  rw [List.append_nil, hhead] at hbody
  rw [List.append_nil, hlength] at hawaited
  exact ⟨_, _, _, hawaited, hpast, hbody, hpast⟩

/-- That head panics in either build, given to the parser or read from a
connection. -/
theorem longestLength_panics :
    parseRequest true (MessageHead.render longestLines) = .error .panic ∧
    parseRequest false (MessageHead.render longestLines) = .error .panic ∧
    readRequest true
      (oneRead (MessageHead.render longestLines) (by decide)) =
        .error .panic ∧
    readRequest false
      (oneRead (MessageHead.render longestLines) (by decide)) =
        .error .panic := by
  rcases longestLines_overflow with
    ⟨stop, bodyStart, length, hawaited, hstop, hbody, hpast⟩
  exact ⟨parseRequest_of_overflow true hbody hpast,
    parseRequest_of_overflow false hbody hpast,
    readRequest_of_overflow true rfl hawaited hstop hbody hpast,
    readRequest_of_overflow false rfl hawaited hstop hbody hpast⟩

end Bastion

end Ephemwork

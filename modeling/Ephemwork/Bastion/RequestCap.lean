import Ephemwork.Bastion.AnnouncedLengths
import Ephemwork.Bastion.LengthOverflow

/-!
# The cap of the request buffer

`read_request` tests its cap before a read and not after it.  A read that takes
the buffer past the cap is found out only by the next one, which is not made where
the head announces no more than that read has brought.
-/

namespace Ephemwork

open Foundation

namespace Bastion

/-- The reader returns after at most as many reads as the cap has bytes, and
what it accepts was no longer than the cap. -/
structure StaysBounded (overflowChecks : Bool) (reads : Stream) : Prop where
  returns : readRequest overflowChecks reads ≠ .error .panic
  finite : readCount overflowChecks reads 0 [] ≤ maxRequest
  capped : forall buffer request,
    readLoop overflowChecks reads 0 [] = .ok buffer ->
    readRequest overflowChecks reads = .ok request ->
    buffer.length ≤ maxRequest

/-- Where a read is made below the cap and ends past it, the first length of a head
that parses ends behind that read. -/
def CapHolds (reads : Stream) : Prop :=
  forall n head start, (forall index, index ≤ n -> BringsData reads index) ->
    (delivered reads 0 n).length < maxRequest ->
    maxRequest < (delivered reads 0 (n + 1)).length ->
    (forall index, index ≤ n -> ¬ Arrived (delivered reads 0 index)) ->
    HeadAt (delivered reads 0 (n + 1)) head start -> WellFormed head ->
    (delivered reads 0 (n + 1)).length < start + firstLength head

section

variable {overflowChecks : Bool} {reads : Stream} {count : Nat}
  {buffer : Bytes}

theorem Reaches.count_le (h : Reaches reads count buffer) :
    count ≤ buffer.length ∧ count ≤ maxRequest := by
  induction h with
  | start => exact ⟨Nat.le_refl 0, Nat.zero_le _⟩
  | pass h hnext ih =>
      have hroom := hnext.room
      rcases hnext.read with ⟨bytes, fits, _, hne, rfl⟩
      have hpos := List.length_pos_iff.mpr hne
      rw [List.length_append]
      omega

theorem readCount_le_maxRequest (overflowChecks : Bool) (reads : Stream) :
    readCount overflowChecks reads 0 [] ≤ maxRequest := by
  rcases exists_ends overflowChecks reads with
    ⟨count, front, result, total, hreaches, hend⟩
  rw [(hreaches.ends hend).right]
  have hcount := hreaches.count_le
  cases hend with
  | oversized hfull => omega
  | failed hroom hread => omega
  | ended hroom fits hread => omega
  | complete hroom bytes fits hread hne hcomplete => omega
  | aborted hroom bytes fits hread hne e herror => omega

theorem CapHolds.of_staysBounded
    (h : forall overflowChecks, StaysBounded overflowChecks reads) :
    CapHolds reads := by
  intro n head start hdata hroom hpast hbefore hhead hformed
  by_contra hreached
  have hsums : ReadsFit reads :=
    .of_never_panics fun overflowChecks => (h overflowChecks).returns
  have hlast : LastRead reads n :=
    ⟨hdata, hroom, hbefore, _, _, hhead, Or.inl (Nat.not_lt.mp hreached)⟩
  have hawaited := awaitedEnd_eq_some_iff.mpr ⟨head, start, hhead, rfl⟩
  have hbody := parsedBody_eq_some_iff.mpr ⟨head, hhead, hformed, rfl⟩
  have harrived := hlast.arrived
  rcases hdata n (Nat.le_refl n) with ⟨bytes, fits, hread, hne⟩
  rw [delivered_succ_of_data hread] at hpast hhead hreached harrived hawaited hbody
  have hfirst := hsums.awaited n _ bytes fits _ hlast.reaches hroom hread hawaited
  have hcomplete : isComplete true (delivered reads 0 n ++ bytes) = .ok true := by
    apply isComplete_eq_true_iff.mpr
    refine ⟨harrived, ?_⟩
    intro head' start' hhead' _
    rcases hhead.unique hhead' with ⟨rfl, rfl⟩
    exact hfirst
  have hloop := (hlast.reaches.ends
    (.complete hroom bytes fits hread hne hcomplete)).left
  have hparsed := hsums.parsed n _ bytes
    ⟨hlast.reaches, hroom, ⟨fits, hread⟩, Or.inr ⟨_, hawaited, Nat.not_lt.mp hreached⟩⟩
    _ _ hbody
  rcases parseRequest_of_fits true hbody hparsed with ⟨request, hparse, _⟩
  have hcapped := (h true).capped _ request hloop
    (readRequest_of_parseRequest hloop hbody hparse)
  omega

theorem CapHolds.capped (h : CapHolds reads) (hsums : ReadsFit reads)
    {request : Request}
    (hloop : readLoop overflowChecks reads 0 [] = .ok buffer)
    (hrequest : readRequest overflowChecks reads = .ok request) :
    buffer.length ≤ maxRequest := by
  rcases exists_ends overflowChecks reads with
    ⟨count, front, result, total, hreaches, hend⟩
  have hresult := (hreaches.ends hend).left
  rw [hloop] at hresult
  cases hend with
  | oversized hfull => cases hresult
  | failed hroom hread => cases hresult
  | ended hroom fits hread =>
      cases hresult
      exact Nat.le_of_lt hroom
  | complete hroom bytes fits hread hne hcomplete =>
      cases hresult
      by_contra hpast
      rcases exists_buffer_of_readRequest hrequest with
        ⟨buffer, hloop', _, hparse⟩
      rw [hloop] at hloop'
      cases hloop'
      rcases parsedBody_of_parseRequest hparse with
        ⟨bodyStart, length, hbody, _, _⟩
      rcases parsedBody_eq_some_iff.mp hbody with ⟨head, hhead, hformed, rfl⟩
      have hawaited := awaitedEnd_eq_some_iff.mpr ⟨head, bodyStart, hhead, rfl⟩
      have hfirst := hsums.awaited count front bytes fits _ hreaches hroom hread
        hawaited
      have harrived := (isComplete_eq_true_iff.mp hcomplete).left
      have hreached := harrived.le_of_headAt hhead hfirst
      rcases hreaches.lastRead hroom hread hne harrived with ⟨hlast, hall⟩
      rw [hall] at hpast hhead hreached
      have hlate := h count head bodyStart hlast.data hlast.room
        (Nat.not_le.mp hpast) hlast.before hhead hformed
      omega
  | aborted hroom bytes fits hread hne e herror => cases hresult

end

/-- The reader stays bounded in either build exactly if its sums stay in range
and no read past the cap brings the last byte that a head announces. -/
theorem staysBounded_iff (reads : Stream) :
    (forall overflowChecks, StaysBounded overflowChecks reads) <->
      ReadsFit reads ∧ CapHolds reads := by
  constructor
  · intro h
    exact ⟨.of_never_panics fun overflowChecks => (h overflowChecks).returns,
      .of_staysBounded h⟩
  · intro h overflowChecks
    exact
      { returns := h.left.never_panics overflowChecks
        finite := readCount_le_maxRequest overflowChecks reads
        capped := fun _ _ hloop hrequest =>
          h.right.capped h.left hloop hrequest }

def pastCapLines : List (List Char) :=
  ["POST / HTTP/1.0".toList, "Content-Length: 65495".toList]

def pastCapWire : Bytes :=
  MessageHead.render pastCapLines ++ List.replicate 65495 0

def pastCapReads : Stream :=
  fun index =>
    if index < 65535 then
      .data ((pastCapWire.drop index).take 1)
        (Nat.le_trans (List.length_take_le 1 _) (by decide))
    else
      .data [0, 0] (by decide)

theorem isLine_of_mem_pastCapLines :
    forall line, line ∈ pastCapLines -> MessageHead.IsLine line := by
  simp only [pastCapLines, List.forall_mem_cons, List.not_mem_nil,
    false_implies, implies_true, and_true]
  exact ⟨MessageHead.IsLine.of_check rfl, MessageHead.IsLine.of_check rfl⟩

theorem length_render_pastCapLines :
    (MessageHead.render pastCapLines).length = 42 := by decide +kernel

theorem length_pastCapWire : pastCapWire.length = 65537 := by
  rw [pastCapWire, List.length_append, length_render_pastCapLines,
    List.length_replicate]

theorem firstLength_pastCap :
    firstLength (MessageHead.join pastCapLines) = 65495 := by decide +kernel

theorem wellFormed_pastCap : WellFormed (MessageHead.join pastCapLines) := by
  have hparse : parseHead (MessageHead.join pastCapLines) =
      .ok ("POST", "/", 65495) := by decide +kernel
  exact (exists_parseHead_iff.mp ⟨_, _, hparse⟩).left

theorem headAt_pastCap (body : Bytes) :
    HeadAt (MessageHead.render pastCapLines ++ body) (MessageHead.join pastCapLines) 42 := by
  rw [← length_render_pastCapLines]
  exact headAt_render (List.cons_ne_nil _ _) isLine_of_mem_pastCapLines body

theorem not_arrived_pastCap {k : Nat} (hk : k < 65537) :
    ¬ Arrived (pastCapWire.take k) := by
  have hne : pastCapLines ≠ [] := List.cons_ne_nil _ _
  have hlength : (pastCapWire.take k).length = k := by
    rw [List.length_take, length_pastCapWire]
    omega
  rintro ⟨head, start, hhead, hreached⟩
  rw [hlength] at hreached
  by_cases hshort : k < 42
  · have hpart : pastCapWire.take k <+: MessageHead.render pastCapLines ++
        List.replicate 65495 0 := List.take_prefix k pastCapWire
    rcases MessageHead.findWindow_of_prefix_lt hne isLine_of_mem_pastCapLines
      hpart (by rw [hlength, length_render_pastCapLines]; exact hshort) with
      ⟨hcrlf, hlf⟩
    rcases hhead with ⟨headEnd, hfind, _⟩
    simp only [findHeaderTerminator, hcrlf, hlf] at hfind
    cases hfind
  · have htake : pastCapWire.take k = MessageHead.render pastCapLines ++
        (List.replicate 65495 0).take (k - 42) := by
      rw [pastCapWire, List.take_append, length_render_pastCapLines,
        List.take_of_length_le]
      rw [length_render_pastCapLines]
      omega
    rw [htake] at hhead
    rcases hhead.unique (headAt_pastCap _) with ⟨rfl, rfl⟩
    rw [firstLength_pastCap] at hreached
    simp only [usizeLimit, UInt64.size] at hreached
    omega

theorem delivered_pastCap {k : Nat} (hk : k ≤ 65535) :
    delivered pastCapReads 0 k = pastCapWire.take k := by
  induction k with
  | zero => simp [delivered]
  | succ k ih =>
      have hread : pastCapReads k = .data ((pastCapWire.drop k).take 1)
          (Nat.le_trans (List.length_take_le 1 _) (by decide)) :=
        if_pos (by omega)
      rw [delivered_succ_of_data hread, ih (by omega), List.take_add]

theorem delivered_pastCap_last : delivered pastCapReads 0 65536 = pastCapWire := by
  have hlast : pastCapReads 65535 = .data [0, 0] (by decide) :=
    if_neg (Nat.lt_irrefl 65535)
  have hle : (MessageHead.render pastCapLines).length ≤ 65535 := by
    rw [length_render_pastCapLines]
    omega
  have hmin : min (65535 - 42) 65495 = 65493 := by decide
  have hzeros : ([0, 0] : Bytes) = List.replicate 2 0 := rfl
  rw [delivered_succ_of_data hlast, delivered_pastCap (Nat.le_refl 65535),
    pastCapWire, List.take_append, List.take_of_length_le hle,
    length_render_pastCapLines, List.take_replicate, hmin, hzeros,
    List.append_assoc, List.replicate_append_replicate]

theorem not_capHolds_pastCap : ¬ CapHolds pastCapReads := by
  intro h
  have hlate := h 65535 _ 42 ?_ ?_ ?_ ?_ (delivered_pastCap_last ▸ headAt_pastCap _)
    wellFormed_pastCap
  · rw [delivered_pastCap_last, length_pastCapWire, firstLength_pastCap] at hlate
    omega
  · intro index hindex
    by_cases hlt : index < 65535
    · refine ⟨_, _, if_pos hlt, ?_⟩
      apply List.length_pos_iff.mp
      rw [List.length_take, List.length_drop, length_pastCapWire]
      omega
    · exact ⟨_, _, if_neg hlt, List.cons_ne_nil _ _⟩
  · rw [delivered_pastCap (Nat.le_refl _), List.length_take, length_pastCapWire]
    decide
  · rw [delivered_pastCap_last, length_pastCapWire]
    decide
  · intro index hindex
    rw [delivered_pastCap hindex]
    exact not_arrived_pastCap (by omega)

/-- A request one byte past the cap is accepted. -/
theorem pastCap_not_bounded :
    ¬ forall overflowChecks, StaysBounded overflowChecks pastCapReads :=
  fun h => not_capHolds_pastCap (.of_staysBounded h)

end Bastion

end Ephemwork

import Ephemwork.Bastion.AnnouncedLengths

/-!
# Where the reader and the parser end the body

The loop waits for the first content length of the head that parses, the parser
takes the last one and cuts the body short where the buffer ends.  A request
that is accepted before the stream has ended has a whole body exactly if the
last length is no more than the first, or the read that brought the bytes of the
first brought those of the last as well.
-/

namespace Ephemwork

open Foundation

namespace Bastion

section

variable (overflowChecks : Bool) (reads : Stream)

def SeesEnd : Prop :=
  exists index fits, index < readCount overflowChecks reads 0 [] ∧
    reads index = .data [] fits

/-- The content length of the head the loop hands to the parser. -/
def usedLength : Option Nat :=
  match readLoop overflowChecks reads 0 [] with
  | .error _ => none
  | .ok buffer => (parsedBody buffer).map Prod.snd

/-- A request accepted before the end of the stream has all of its body. -/
def BodyIsWhole : Prop :=
  forall request, readRequest overflowChecks reads = .ok request ->
    ¬ SeesEnd overflowChecks reads ->
    usedLength overflowChecks reads = some request.body.length

/-- Where the loop stops waiting, the last length of a head that parses is no
more than the first one, or its bytes have come in with the same read.  A length
whose end is past the range of a sum is a panic, not a request. -/
def LengthsAgree : Prop :=
  forall n head start, LastRead reads n ->
    HeadAt (delivered reads 0 (n + 1)) head start -> WellFormed head ->
    (overflowChecks = true -> start + firstLength head < usizeLimit) ->
    start + lastLength head < usizeLimit ->
    (lastLength head ≤ firstLength head ∧ start + firstLength head < usizeLimit) ∨
      start + lastLength head ≤ (delivered reads 0 (n + 1)).length

end

section

variable {overflowChecks : Bool} {reads : Stream} {count : Nat}
  {buffer front bytes : Bytes} {request : Request}

theorem Reaches.ne_end (h : Reaches reads count buffer) {index : Nat}
    (hindex : index < count) (fits : [].length ≤ readSize) :
    reads index ≠ .data [] fits := by
  induction h with
  | start => exact absurd hindex (Nat.not_lt_zero _)
  | pass h hnext ih =>
      rcases Nat.lt_succ_iff_lt_or_eq.mp hindex with hlt | rfl
      · exact ih hlt
      · intro hend
        rcases hnext.read with ⟨data, _, hread, hne, _⟩
        rw [hend] at hread
        cases hread
        exact hne rfl

theorem not_seesEnd_of_complete (h : Reaches reads count front)
    {fits : bytes.length ≤ readSize} (hread : reads count = .data bytes fits)
    (hne : bytes ≠ [])
    (htotal : readCount overflowChecks reads 0 [] = count + 1) :
    ¬ SeesEnd overflowChecks reads := by
  intro hsees
  rcases hsees with ⟨index, fits', hindex, hend⟩
  rw [htotal] at hindex
  rcases Nat.lt_succ_iff_lt_or_eq.mp hindex with hlt | rfl
  · exact h.ne_end hlt fits' hend
  · rw [hread] at hend
    cases hend
    exact hne rfl

theorem usedLength_of_readLoop
    (hloop : readLoop overflowChecks reads 0 [] = .ok buffer)
    {bodyStart length : Nat}
    (hbody : parsedBody buffer = some (bodyStart, length)) :
    usedLength overflowChecks reads = some length := by
  rw [usedLength, hloop]
  simp only [hbody, Option.map_some]

theorem LengthsAgree.of_bodyIsWhole (h : BodyIsWhole overflowChecks reads) :
    LengthsAgree overflowChecks reads := by
  intro n head start hlast hhead hformed hfirst hfits
  rcases hlast.data n (Nat.le_refl n) with ⟨bytes, fits, hread, hne⟩
  have hbody := parsedBody_eq_some_iff.mpr ⟨head, hhead, hformed, rfl⟩
  have hcomplete : isComplete overflowChecks (delivered reads 0 (n + 1)) = .ok true := by
    apply isComplete_eq_true_iff.mpr
    refine ⟨hlast.arrived, ?_⟩
    intro head' start' hhead'
    rcases hhead.unique hhead' with ⟨rfl, rfl⟩
    exact hfirst
  rw [delivered_succ_of_data hread] at hhead hbody hcomplete ⊢
  have hend := hlast.reaches.ends (.complete hlast.room bytes fits hread hne hcomplete)
  rcases parseRequest_of_fits overflowChecks hbody hfits with
    ⟨request, hparse, hrequest⟩
  have hrequested := readRequest_of_parseRequest hend.left hbody hparse
  have hused := h request hrequested
    (not_seesEnd_of_complete hlast.reaches hread hne hend.right)
  rw [usedLength_of_readLoop hend.left hbody, hrequest] at hused
  have hlength := Option.some.inj hused
  rw [List.length_take, List.length_drop] at hlength
  have hbounds := hhead.start_le
  exact Or.inr (by omega)

theorem LengthsAgree.bodyIsWhole (h : LengthsAgree overflowChecks reads) :
    BodyIsWhole overflowChecks reads := by
  intro request hrequest hsees
  rcases exists_buffer_of_readRequest hrequest with
    ⟨buffer, hloop, _, hparse⟩
  rcases parsedBody_of_parseRequest hparse with
    ⟨bodyStart, length, hbody, hfits, hrequest⟩
  rw [usedLength_of_readLoop hloop hbody, hrequest]
  rcases exists_ends overflowChecks reads with
    ⟨count, front, result, total, hreaches, hend⟩
  rcases hreaches.ends hend with ⟨hresult, htotal⟩
  rw [hloop] at hresult
  cases hend with
  | oversized hfull => cases hresult
  | failed hroom hread => cases hresult
  | ended hroom fits hread =>
      apply absurd _ hsees
      exact ⟨count, fits, by omega, hread⟩
  | complete hroom bytes fits hread hne hcomplete =>
      cases hresult
      rcases isComplete_eq_true_iff.mp hcomplete with ⟨harrived, hrange⟩
      rcases hreaches.lastRead hroom hread hne harrived with ⟨hlast, hall⟩
      rcases parsedBody_eq_some_iff.mp hbody with ⟨head, hhead, hformed, rfl⟩
      have hfirst := hrange head bodyStart hhead
      rw [hall] at harrived hhead ⊢
      have hle : bodyStart + lastLength head ≤ (delivered reads 0 (count + 1)).length := by
        rcases h count head bodyStart hlast hhead hformed hfirst hfits with
          ⟨hless, hrange⟩ | hle
        · -- All of the first length has come in, and the last is no more.
          have hreached := harrived.le_of_headAt hhead hrange
          omega
        · exact hle
      rw [List.length_take, List.length_drop]
      congr 1
      omega
  | aborted hroom bytes fits hread hne e herror => cases hresult

end

/-- Requests accepted before the end of the stream have whole bodies exactly if
no head the parser accepts announces more at last than at first without the bytes
of it in hand. -/
theorem bodyIsWhole_iff_lengthsAgree (overflowChecks : Bool) (reads : Stream) :
    BodyIsWhole overflowChecks reads <-> LengthsAgree overflowChecks reads :=
  ⟨LengthsAgree.of_bodyIsWhole, LengthsAgree.bodyIsWhole⟩

theorem LengthsAgree.of_oneLength {overflowChecks : Bool} {reads : Stream}
    (h : forall n head start, HeadAt (delivered reads 0 n) head start ->
      lastLength head = firstLength head ∧ start + firstLength head < usizeLimit) :
    LengthsAgree overflowChecks reads := by
  intro n head start _ hhead _ _ _
  rcases h (n + 1) head start hhead with ⟨hsame, hfits⟩
  exact Or.inl ⟨Nat.le_of_eq hsame, hfits⟩

/-- The lines of a head with two content lengths. -/
def twoLengths : List (List Char) :=
  ["POST / HTTP/1.0".toList, "Content-Length: 0".toList,
    "Content-Length: 5".toList]

theorem isLine_of_mem_twoLengths :
    forall line, line ∈ twoLengths -> MessageHead.IsLine line := by
  simp only [twoLengths, List.forall_mem_cons, List.not_mem_nil, false_implies,
    implies_true, and_true]
  exact ⟨MessageHead.IsLine.of_check rfl, MessageHead.IsLine.of_check rfl,
    MessageHead.IsLine.of_check rfl⟩

theorem twoLengths_announced :
    firstLength (MessageHead.join twoLengths) = 0 ∧
      lastLength (MessageHead.join twoLengths) = 5 := by
  decide +kernel

theorem wellFormed_twoLengths : WellFormed (MessageHead.join twoLengths) := by
  have hparse : parseHead (MessageHead.join twoLengths) =
      .ok ("POST", "/", 5) := by decide +kernel
  exact (exists_parseHead_iff.mp ⟨_, _, hparse⟩).left

theorem headAt_twoLengths (more : Bytes) :
    HeadAt (MessageHead.render twoLengths ++ more) (MessageHead.join twoLengths)
      (MessageHead.render twoLengths).length :=
  headAt_render (List.cons_ne_nil _ _) isLine_of_mem_twoLengths more

theorem arrived_twoLengths (more : Bytes) :
    Arrived (MessageHead.render twoLengths ++ more) := by
  refine ⟨_, _, headAt_twoLengths more, Or.inl ?_⟩
  rw [twoLengths_announced.left, List.length_append]
  omega

theorem twoLengths_disagree (overflowChecks : Bool) :
    ¬ LengthsAgree overflowChecks
      (oneRead (MessageHead.render twoLengths) (by decide)) := by
  intro h
  have hne : MessageHead.render twoLengths ≠ [] := by decide
  have hsize : (MessageHead.render twoLengths).length + 5 < usizeLimit := by
    decide +kernel
  have hhead := headAt_twoLengths []
  have harrived := arrived_twoLengths []
  rw [List.append_nil] at hhead harrived
  have hlast : LastRead (oneRead (MessageHead.render twoLengths) (by decide)) 0 := by
    have hread : oneRead (MessageHead.render twoLengths) (by decide) 0 =
        .data (MessageHead.render twoLengths) (by decide) := rfl
    exact (Reaches.start.lastRead (by decide) hread hne harrived).left
  have hall : delivered (oneRead (MessageHead.render twoLengths) (by decide)) 0 1 =
      MessageHead.render twoLengths := by
    simp [delivered, oneRead]
  have hagree := h 0 _ _ hlast (by rwa [hall]) wellFormed_twoLengths
  rw [twoLengths_announced.left, twoLengths_announced.right, hall] at hagree
  have hcases := hagree (fun _ => by omega) hsize
  omega

/-- A request with these two lengths is accepted with none of its five bytes, in
either build. -/
theorem twoLengths_not_whole :
    ¬ BodyIsWhole true (oneRead (MessageHead.render twoLengths) (by decide)) ∧
      ¬ BodyIsWhole false
        (oneRead (MessageHead.render twoLengths) (by decide)) :=
  ⟨fun h => twoLengths_disagree true (.of_bodyIsWhole h),
    fun h => twoLengths_disagree false (.of_bodyIsWhole h)⟩

end Bastion

end Ephemwork

import Ephemwork.Bastion.PacketBoundaries

/-!
# The heads of a stream

Read to its end, a stream has one head.  Where LFLF stands before the first CRLFCRLF,
a reader that has not come to the latter sees another, shorter one.  What the two
heads announce, and how far it is from one to the other, decides whether the splits
of the stream are one request.
-/

namespace Ephemwork

open Foundation

namespace Bastion

/-!
# Which head is seen
-/

/-- The head in front of an LFLF that stands before the first CRLFCRLF. -/
def EarlyHead (wire : Bytes) (head : List Char) (start : Nat) : Prop :=
  exists lf crlf, Bytes.findWindow MessageHead.lfLf wire = some lf ∧
    Bytes.findWindow MessageHead.crlfCrlf wire = some crlf ∧ lf < crlf ∧
    start = lf + 2 ∧ head = (Bytes.toText? (wire.take lf)).getD []

/-- The end of the bytes of the first length.  One past the range of a sum is not
waited for. -/
def awaitedTo (head : List Char) (start : Nat) : Nat :=
  if start + firstLength head < usizeLimit then start + firstLength head else start

theorem le_awaitedTo (head : List Char) (start : Nat) : start ≤ awaitedTo head start := by
  unfold awaitedTo
  split <;> omega

section

variable {wire : Bytes} {n : Nat} {head head' : List Char} {start start' : Nat}

theorem findHeaderTerminator_eq_some_iff {raw : Bytes} {headEnd bodyStart : Nat} :
    findHeaderTerminator raw = some (headEnd, bodyStart) <->
      (Bytes.findWindow MessageHead.crlfCrlf raw = some headEnd ∧ bodyStart = headEnd + 4) ∨
      (Bytes.findWindow MessageHead.crlfCrlf raw = none ∧
        Bytes.findWindow MessageHead.lfLf raw = some headEnd ∧ bodyStart = headEnd + 2) := by
  unfold findHeaderTerminator
  cases hcrlf : Bytes.findWindow MessageHead.crlfCrlf raw with
  | some position =>
      simp only [Option.some.injEq, Prod.mk.injEq, reduceCtorEq, false_and, or_false]
      constructor
      · rintro ⟨rfl, rfl⟩
        exact ⟨rfl, rfl⟩
      · rintro ⟨rfl, rfl⟩
        exact ⟨rfl, rfl⟩
  | none =>
      cases hlf : Bytes.findWindow MessageHead.lfLf raw with
      | some position =>
          simp only [Option.some.injEq, Prod.mk.injEq, reduceCtorEq, false_and, false_or,
            true_and]
          constructor
          · rintro ⟨rfl, rfl⟩
            exact ⟨rfl, rfl⟩
          · rintro ⟨rfl, rfl⟩
            exact ⟨rfl, rfl⟩
      | none => simp

theorem EarlyHead.unique (h : EarlyHead wire head start) (h' : EarlyHead wire head' start') :
    head = head' ∧ start = start' := by
  rcases h with ⟨lf, crlf, hlf, _, _, rfl, rfl⟩
  rcases h' with ⟨lf', crlf', hlf', _, _, rfl, rfl⟩
  rw [hlf] at hlf'
  cases hlf'
  exact ⟨rfl, rfl⟩

theorem HeadAt.pos (h : HeadAt wire head start) : 0 < start := by
  rcases h with ⟨headEnd, hfind, _⟩
  have hbounds := findHeaderTerminator_bounds hfind
  omega

theorem EarlyHead.exists_late (h : EarlyHead wire head start) :
    exists head' start', HeadAt wire head' start' ∧ start < start' := by
  rcases h with ⟨lf, crlf, _, hcrlf, hlt, rfl, _⟩
  refine ⟨_, crlf + 4, ⟨crlf, ?_, rfl⟩, by omega⟩
  rw [findHeaderTerminator, hcrlf]

theorem HeadAt.early_lt (h : HeadAt wire head' start') (hearly : EarlyHead wire head start) :
    start < start' := by
  rcases hearly.exists_late with ⟨_, _, hlate, hlt⟩
  rcases h.unique hlate with ⟨_, rfl⟩
  exact hlt

theorem arrived_iff (h : HeadAt wire head start) :
    Arrived wire <-> awaitedTo head start ≤ wire.length := by
  have hstart := h.start_le
  unfold awaitedTo
  constructor
  · rintro ⟨head', start', h', hreached⟩
    rcases h.unique h' with ⟨rfl, rfl⟩
    split <;> omega
  · intro hle
    refine ⟨head, start, h, ?_⟩
    split at hle <;> omega

/-- A reader that has `n` bytes sees the head of the whole stream, or an early one
where that has not come in. -/
theorem headAt_take_iff : HeadAt (wire.take n) head start <->
    start ≤ n ∧ (HeadAt wire head start ∨
      EarlyHead wire head start ∧
        forall head' start', HeadAt wire head' start' -> n < start') := by
  have hcrlf : forall k, Bytes.findWindow MessageHead.crlfCrlf (wire.take n) = some k <->
      Bytes.findWindow MessageHead.crlfCrlf wire = some k ∧ k + 4 ≤ n :=
    fun k => Bytes.findWindow_take_iff (by simp [MessageHead.crlfCrlf])
  have hlf : forall k, Bytes.findWindow MessageHead.lfLf (wire.take n) = some k <->
      Bytes.findWindow MessageHead.lfLf wire = some k ∧ k + 2 ≤ n :=
    fun k => Bytes.findWindow_take_iff (by simp [MessageHead.lfLf])
  constructor
  · rintro ⟨headEnd, hfind, hhead⟩
    have hbounds := findHeaderTerminator_bounds hfind
    rw [List.length_take] at hbounds
    rw [List.take_take, Nat.min_eq_left (by omega)] at hhead
    refine ⟨by omega, ?_⟩
    rcases findHeaderTerminator_eq_some_iff.mp hfind with ⟨hfound, hstart⟩ | ⟨hnone, hfound, hstart⟩
    · exact Or.inl ⟨headEnd, findHeaderTerminator_eq_some_iff.mpr
        (Or.inl ⟨((hcrlf _).mp hfound).left, hstart⟩), hhead⟩
    · rcases (hlf _).mp hfound with ⟨hfound, hle⟩
      cases hlate : Bytes.findWindow MessageHead.crlfCrlf wire with
      | none =>
          exact Or.inl ⟨headEnd, findHeaderTerminator_eq_some_iff.mpr
            (Or.inr ⟨hlate, hfound, hstart⟩), hhead⟩
      | some crlf =>
          have hpast : n < crlf + 4 := by
            by_contra hin
            rw [(hcrlf crlf).mpr ⟨hlate, by omega⟩] at hnone
            cases hnone
          have hbefore := MessageHead.lfLf_lt_crlfCrlf hfound hlate (by omega)
          refine Or.inr ⟨⟨headEnd, crlf, hfound, hlate, by omega, hstart, hhead⟩, ?_⟩
          rintro head' start' ⟨headEnd', hfind', _⟩
          rcases findHeaderTerminator_eq_some_iff.mp hfind' with ⟨hfound', _⟩ | ⟨hnone', _⟩
          · rw [hlate] at hfound'
            cases hfound'
            omega
          · rw [hlate] at hnone'
            cases hnone'
  · rintro ⟨hle, ⟨headEnd, hfind, hhead⟩ | ⟨⟨lf, crlf, hfound, hlate, hlt, hstart, hhead⟩, hpast⟩⟩
    · have hbounds := findHeaderTerminator_bounds hfind
      refine ⟨headEnd, findHeaderTerminator_eq_some_iff.mpr ?_, ?_⟩
      · rcases findHeaderTerminator_eq_some_iff.mp hfind with ⟨hfound, hstart⟩ | ⟨hnone, hfound, hstart⟩
        · exact Or.inl ⟨(hcrlf _).mpr ⟨hfound, by omega⟩, hstart⟩
        · refine Or.inr ⟨?_, (hlf _).mpr ⟨hfound, by omega⟩, hstart⟩
          rw [← List.take_append_drop n wire] at hnone
          exact Bytes.findWindow_eq_none_of_append hnone
      · rw [List.take_take, Nat.min_eq_left (by omega)]
        exact hhead
    · have hpast := hpast _ (crlf + 4) ⟨crlf, findHeaderTerminator_eq_some_iff.mpr
        (Or.inl ⟨hlate, rfl⟩), rfl⟩
      refine ⟨lf, findHeaderTerminator_eq_some_iff.mpr (Or.inr ⟨?_, ?_, hstart⟩), ?_⟩
      · cases hfind : Bytes.findWindow MessageHead.crlfCrlf (wire.take n) with
        | none => rfl
        | some position =>
            rcases (hcrlf position).mp hfind with ⟨hposition, hin⟩
            rw [hlate] at hposition
            cases hposition
            omega
      · exact (hlf _).mpr ⟨hfound, by omega⟩
      · rw [List.take_take, Nat.min_eq_left (by omega)]
        exact hhead

end

/-!
# Where the loop waits
-/

/-- The first position at which the loop can stop before it has seen the head of the
whole stream, or the end of that head. -/
structure FirstStop (wire : Bytes) (start first : Nat) : Prop where
  early : forall head early, EarlyHead wire head early -> first = min (awaitedTo head early) start
  lone : (forall head early, ¬ EarlyHead wire head early) -> first = start

theorem exists_firstStop (wire : Bytes) (start : Nat) :
    exists first, FirstStop wire start first := by
  by_cases h : exists head early, EarlyHead wire head early
  · rcases h with ⟨head, early, hearly⟩
    refine ⟨min (awaitedTo head early) start, ?_, fun hnone => absurd hearly (hnone _ _)⟩
    intro head' early' hearly'
    rcases hearly.unique hearly' with ⟨rfl, rfl⟩
    rfl
  · exact ⟨start, fun head early hearly => absurd ⟨head, early, hearly⟩ h, fun _ => rfl⟩

section

variable {wire : Bytes} {m n first : Nat} {head head' : List Char} {start start' : Nat}

theorem FirstStop.bounds (h : FirstStop wire start first) (hhead : HeadAt wire head start) :
    0 < first ∧ first ≤ start := by
  have hpos := hhead.pos
  by_cases hearly : exists head early, EarlyHead wire head early
  · rcases hearly with ⟨head, early, hearly⟩
    have hfirst := h.early head early hearly
    have hle := le_awaitedTo head early
    have hearlyPos : 0 < early := by
      rcases hearly with ⟨lf, _, _, _, _, rfl, _⟩
      omega
    omega
  · have hfirst := h.lone fun head early hearly' => hearly ⟨head, early, hearly'⟩
    omega

/-- One read leads from before the first stop to a position behind the head exactly
if one leads there from before the awaited end of the early head. -/
theorem FirstStop.near_iff (h : FirstStop wire start first) (hn : n < start + readSize) :
    n < first + readSize <->
      forall head early, EarlyHead wire head early -> n < awaitedTo head early + readSize := by
  by_cases hearly : exists head early, EarlyHead wire head early
  · rcases hearly with ⟨head, early, hearly⟩
    have hfirst := h.early head early hearly
    constructor
    · intro hnear head' early' hearly'
      rcases hearly.unique hearly' with ⟨rfl, rfl⟩
      omega
    · intro hnear
      have hpassed := hnear head early hearly
      omega
  · have hfirst := h.lone fun head early hearly' => hearly ⟨head, early, hearly'⟩
    rw [hfirst]
    exact iff_of_true hn fun head early hearly' => absurd ⟨head, early, hearly'⟩ hearly

theorem waiting_take_iff (hhead : HeadAt wire head start) (hfirst : FirstStop wire start first)
    (hn : n ≤ wire.length) :
    Waiting (wire.take n) <-> n < first ∨ (start ≤ n ∧ n < awaitedTo head start) := by
  have hbounds := hfirst.bounds hhead
  have hlength : (wire.take n).length = n := by
    rw [List.length_take]
    omega
  rw [waiting_iff_not_arrived]
  by_cases hlate : start ≤ n
  · have hseen : HeadAt (wire.take n) head start := headAt_take_iff.mpr ⟨hlate, Or.inl hhead⟩
    rw [arrived_iff hseen, hlength]
    omega
  · -- Only an early head can have been seen.
    have hseen : forall head' start', HeadAt (wire.take n) head' start' ->
        start' ≤ n ∧ EarlyHead wire head' start' := by
      intro head' start' hhead'
      rcases headAt_take_iff.mp hhead' with ⟨hle, hwhole | ⟨hearly, _⟩⟩
      · rcases hhead.unique hwhole with ⟨_, rfl⟩
        exact absurd hle hlate
      · exact ⟨hle, hearly⟩
    by_cases hearly : exists head early, EarlyHead wire head early
    · rcases hearly with ⟨head', early, hearly⟩
      have hstop := hfirst.early head' early hearly
      by_cases hin : early ≤ n
      · have hearlySeen : HeadAt (wire.take n) head' early := by
          refine headAt_take_iff.mpr ⟨hin, Or.inr ⟨hearly, ?_⟩⟩
          intro head'' start'' hwhole
          rcases hhead.unique hwhole with ⟨_, rfl⟩
          omega
        rw [arrived_iff hearlySeen, hlength]
        omega
      · have hnone : ¬ Arrived (wire.take n) := by
          rintro ⟨head'', start'', hhead'', _⟩
          rcases hseen _ _ hhead'' with ⟨hle, hearly''⟩
          rcases hearly.unique hearly'' with ⟨_, rfl⟩
          exact hin hle
        have hle := le_awaitedTo head' early
        exact iff_of_true hnone (Or.inl (by omega))
    · have hstop := hfirst.lone fun head early hearly' => hearly ⟨head, early, hearly'⟩
      have hnone : ¬ Arrived (wire.take n) := by
        rintro ⟨head'', start'', hhead'', _⟩
        exact hearly ⟨_, _, (hseen _ _ hhead'').right⟩
      exact iff_of_true hnone (Or.inl (by omega))

theorem GoesOn.waiting (h : GoesOn wire n) : Waiting (wire.take n) := by
  cases h with
  | start =>
      apply (waiting_iff_not_arrived _).mpr
      rintro ⟨head, start, ⟨headEnd, hfind, _⟩, _⟩
      cases hfind
  | read h hlt hread hend hwaiting => exact hwaiting

theorem GoesOn.upto (h : GoesOn wire m) (hmn : m ≤ n) (hend : n ≤ wire.length)
    (hwaiting : forall k, m < k -> k ≤ n -> Waiting (wire.take k)) : GoesOn wire n := by
  induction n with
  | zero =>
      rw [Nat.le_zero.mp hmn] at h
      exact h
  | succ n ih =>
      rcases Nat.le_succ_iff.mp hmn with hle | rfl
      · have hread : n + 1 ≤ n + readSize := by simp [readSize]
        have hfront := ih hle (by omega) fun k hk hkn => hwaiting k hk (by omega)
        exact .read hfront (Nat.lt_succ_self n) hread hend
          (hwaiting (n + 1) (by omega) (Nat.le_refl _))
      · exact h

/-- Past the first stop the loop goes on where one read leads from before it to
behind the head. -/
theorem goesOn_iff (hhead : HeadAt wire head start) (hfirst : FirstStop wire start first) :
    GoesOn wire n <-> n ≤ wire.length ∧
      (n < first ∨ (start ≤ n ∧ n < awaitedTo head start ∧ start < first + readSize)) := by
  have hbounds := hfirst.bounds hhead
  have hstart := hhead.start_le
  constructor
  · intro h
    induction h with
    | start => exact ⟨Nat.zero_le _, Or.inl hbounds.left⟩
    | read h hlt hread hend hwaiting ih =>
        rcases (waiting_take_iff hhead hfirst hend).mp hwaiting with hbefore | hbehind
        · exact ⟨hend, Or.inl hbefore⟩
        · refine ⟨hend, Or.inr ⟨hbehind.left, hbehind.right, ?_⟩⟩
          rcases ih.right with hbefore | ⟨_, _, hnear⟩
          · omega
          · exact hnear
  · rintro ⟨hend, hbefore | ⟨hle, hlt, hnear⟩⟩
    · exact GoesOn.start.upto (Nat.zero_le n) hend fun k _ hk =>
        (waiting_take_iff hhead hfirst (by omega)).mpr (Or.inl (by omega))
    · have hfront : GoesOn wire (first - 1) :=
        GoesOn.start.upto (Nat.zero_le _) (by omega) fun k _ hk =>
          (waiting_take_iff hhead hfirst (by omega)).mpr (Or.inl (by omega))
      have hpassed : GoesOn wire start := by
        refine .read hfront (by omega) (by omega) hstart ?_
        exact (waiting_take_iff hhead hfirst hstart).mpr (Or.inr ⟨Nat.le_refl _, by omega⟩)
      exact hpassed.upto hle hend fun k hk hkn =>
        (waiting_take_iff hhead hfirst (by omega)).mpr (Or.inr ⟨by omega, by omega⟩)

end

/-!
# Where it stops
-/

/-- The parser makes a request of a head, and the loop in front of it does not
panic. -/
structure Accepts (overflowChecks : Bool) (head : List Char) (start : Nat) : Prop where
  formed : WellFormed head
  first : overflowChecks = true -> start + firstLength head < usizeLimit
  last : start + lastLength head < usizeLimit

section

variable {overflowChecks : Bool} {wire : Bytes} {n first length : Nat}
  {head head' : List Char} {start start' : Nat}

theorem cutAt_iff (hhead : HeadAt (wire.take n) head start) (hn : n ≤ wire.length) :
    CutAt overflowChecks wire n start length <->
      Accepts overflowChecks head start ∧ length = lastLength head ∧
      ((n = wire.length ∧ GoesOn wire n ∧ n < maxRequest) ∨
        (awaitedTo head start ≤ n ∧
          exists m, GoesOn wire m ∧ m < n ∧ n ≤ m + readSize)) := by
  have harrived := arrived_iff hhead
  have hstart := hhead.start_le
  rw [List.length_take, Nat.min_eq_left hn] at harrived hstart
  constructor
  · rintro ⟨hstops, hbody, hfits⟩
    rcases parsedBody_eq_some_iff.mp hbody with ⟨head', hhead', hformed, hlength⟩
    rcases hhead.unique hhead' with ⟨rfl, _⟩
    subst hlength
    cases hstops with
    | ended hgoes hroom =>
        have hwaiting := mt harrived.mpr ((waiting_iff_not_arrived _).mp hgoes.waiting)
        have hrange : start + firstLength head < usizeLimit := by
          by_contra hpast
          rw [awaitedTo, if_neg hpast] at hwaiting
          exact hwaiting hstart
        exact ⟨⟨hformed, fun _ => hrange, hfits⟩, rfl, Or.inl ⟨rfl, hgoes, hroom⟩⟩
    | complete hgoes hlt hread hend hcomplete =>
        rcases isComplete_eq_true_iff.mp hcomplete with ⟨hdone, hrange⟩
        exact ⟨⟨hformed, hrange head start hhead, hfits⟩, rfl,
          Or.inr ⟨harrived.mp hdone, _, hgoes, hlt, hread⟩⟩
  · rintro ⟨haccepts, rfl, hstop⟩
    refine ⟨?_, parsedBody_eq_some_iff.mpr ⟨head, hhead, haccepts.formed, rfl⟩,
      haccepts.last⟩
    rcases hstop with ⟨rfl, hgoes, hroom⟩ | ⟨hreached, m, hgoes, hlt, hread⟩
    · exact .ended hgoes hroom
    · refine .complete hgoes hlt hread hn (isComplete_eq_true_iff.mpr ⟨harrived.mpr hreached, ?_⟩)
      intro head' start' hhead'
      rcases hhead.unique hhead' with ⟨rfl, rfl⟩
      exact haccepts.first

theorem cutAt_late_iff (hhead : HeadAt wire head start) (hfirst : FirstStop wire start first)
    (hle : start ≤ n) (hn : n ≤ wire.length) :
    CutAt overflowChecks wire n start length <->
      Accepts overflowChecks head start ∧ length = lastLength head ∧
      start < first + readSize ∧
      ((n = wire.length ∧ n < awaitedTo head start ∧ n < maxRequest) ∨
        (awaitedTo head start ≤ n ∧ n < awaitedTo head start + readSize ∧
          (awaitedTo head start = start -> n < first + readSize))) := by
  have hseen : HeadAt (wire.take n) head start := headAt_take_iff.mpr ⟨hle, Or.inl hhead⟩
  have hbounds := hfirst.bounds hhead
  have hawaited := le_awaitedTo head start
  rw [cutAt_iff hseen hn]
  simp only [goesOn_iff hhead hfirst]
  constructor
  · rintro ⟨haccepts, hlength, hstop⟩
    refine ⟨haccepts, hlength, ?_⟩
    rcases hstop with ⟨hall, ⟨_, hgoes⟩, hroom⟩ | ⟨hreached, m, ⟨hm, hgoes⟩, hlt, hread⟩
    · omega
    · omega
  · rintro ⟨haccepts, hlength, hnear, hstop⟩
    refine ⟨haccepts, hlength, ?_⟩
    rcases hstop with ⟨hall, hlt, hroom⟩ | ⟨hreached, hread, hopen⟩
    · exact Or.inl ⟨hall, ⟨hn, Or.inr ⟨hle, hlt, hnear⟩⟩, hroom⟩
    · by_cases hbody : awaitedTo head start = start
      · have hopen := hopen hbody
        exact Or.inr ⟨hreached, first - 1, ⟨by omega, Or.inl (by omega)⟩, by omega, by omega⟩
      · exact Or.inr ⟨hreached, awaitedTo head start - 1,
          ⟨by omega, Or.inr ⟨by omega, by omega, hnear⟩⟩, by omega, by omega⟩

theorem cutAt_early_iff (hearly : EarlyHead wire head start) (hhead : HeadAt wire head' start')
    (hle : start ≤ n) (hn : n < start') :
    CutAt overflowChecks wire n start length <->
      Accepts overflowChecks head start ∧ length = lastLength head ∧
      awaitedTo head start ≤ n ∧ n < awaitedTo head start + readSize := by
  have hseen : HeadAt (wire.take n) head start := by
    refine headAt_take_iff.mpr ⟨hle, Or.inr ⟨hearly, ?_⟩⟩
    intro head'' start'' hwhole
    rcases hhead.unique hwhole with ⟨_, rfl⟩
    exact hn
  rcases exists_firstStop wire start' with ⟨first, hfirst⟩
  have hstop := hfirst.early head start hearly
  have hbounds := hfirst.bounds hhead
  have hend := hhead.start_le
  rw [cutAt_iff hseen (by omega)]
  simp only [goesOn_iff hhead hfirst]
  constructor
  · rintro ⟨haccepts, hlength, ⟨hall, _⟩ | ⟨hreached, m, ⟨hm, hgoes⟩, hlt, hread⟩⟩
    · omega
    · exact ⟨haccepts, hlength, hreached, by omega⟩
  · rintro ⟨haccepts, hlength, hreached, hread⟩
    exact ⟨haccepts, hlength, Or.inr ⟨hreached, first - 1,
      ⟨by omega, Or.inl (by omega)⟩, by omega, by omega⟩⟩

theorem CutAt.cases (h : CutAt overflowChecks wire n start length) :
    (exists head, HeadAt wire head start ∧ start ≤ n) ∨
      exists head head' start', EarlyHead wire head start ∧ HeadAt wire head' start' ∧
        start ≤ n ∧ n < start' := by
  rcases parsedBody_eq_some_iff.mp h.body with ⟨head, hseen, _, _⟩
  rcases headAt_take_iff.mp hseen with ⟨hle, hhead | ⟨hearly, hbefore⟩⟩
  · exact Or.inl ⟨head, hhead, hle⟩
  · rcases hearly.exists_late with ⟨head', start', hhead, _⟩
    exact Or.inr ⟨head, head', start', hearly, hhead, hle, hbefore head' start' hhead⟩

end

/-!
# When the splits agree
-/

/-- How many bytes of a head's last length there are with `stop` bytes of the stream in
hand. -/
def lengthIn (head : List Char) (start stop : Nat) : Nat :=
  min (stop - start) (lastLength head)

/-- The head of the whole stream announces no more at last than at first, unless
nothing of the stream is behind its first length or an early head keeps the loop
from it.  An early head announces no more at last than at first, unless the loop
stops at one position for it.  Where the loop can stop for either head, as much is in
hand of the one's last length as of the other's, and the stream has the same bytes in
both places. -/
structure HeadsAgree (overflowChecks : Bool) (wire : Bytes) : Prop where
  late : forall head start, HeadAt wire head start -> Accepts overflowChecks head start ->
    awaitedTo head start < wire.length ->
    (forall head' early, EarlyHead wire head' early ->
      start < awaitedTo head' early + readSize ∧
      (awaitedTo head start = start -> start + 1 < awaitedTo head' early + readSize)) ->
    start + lastLength head ≤ awaitedTo head start
  early : forall head early head' start, EarlyHead wire head early ->
    HeadAt wire head' start -> Accepts overflowChecks head early ->
    awaitedTo head early + 1 < start ->
    early + lastLength head ≤ awaitedTo head early
  both : forall head early head' start, EarlyHead wire head early ->
    HeadAt wire head' start -> Accepts overflowChecks head early ->
    Accepts overflowChecks head' start ->
    awaitedTo head early < start -> start < awaitedTo head early + readSize ->
    (awaitedTo head' start ≤ wire.length ∨ wire.length < maxRequest) ->
    lengthIn head early (awaitedTo head early) =
        lengthIn head' start (min (awaitedTo head' start) wire.length) ∧
      forall i, i < lengthIn head early (awaitedTo head early) ->
        wire[early + i]? = wire[start + i]?

section

variable {overflowChecks : Bool} {wire : Bytes}

theorem take_drop_take (n start : Nat) (head : List Char) :
    ((wire.take n).drop start).take (lastLength head) =
      (wire.drop start).take (lengthIn head start n) := by
  rw [List.drop_take, List.take_take, Nat.min_comm, lengthIn]

/-- Two stretches of a stream are the same bytes. -/
theorem take_drop_eq_iff {start start' length length' : Nat}
    (hle : start + length ≤ wire.length) (hle' : start' + length' ≤ wire.length) :
    (wire.drop start).take length = (wire.drop start').take length' <->
      length = length' ∧
        forall i, i < length -> wire[start + i]? = wire[start' + i]? := by
  constructor
  · intro h
    have hlength := congrArg List.length h
    rw [List.length_take, List.length_take, List.length_drop, List.length_drop,
      Nat.min_eq_left (by omega), Nat.min_eq_left (by omega)] at hlength
    refine ⟨hlength, fun i hi => ?_⟩
    have hbyte := congrArg (fun bytes => bytes[i]?) h
    simpa only [List.getElem?_take, List.getElem?_drop, if_pos hi,
      if_pos (Nat.lt_of_lt_of_eq hi hlength)] using hbyte
  · rintro ⟨rfl, hbytes⟩
    apply List.ext_getElem?
    intro i
    rw [List.getElem?_take, List.getElem?_take, List.getElem?_drop, List.getElem?_drop]
    split
    · next hi => exact hbytes i hi
    · rfl

theorem lengthIn_le (head : List Char) {start stop : Nat} (h : start ≤ stop) :
    start + lengthIn head start stop ≤ stop := by
  rw [lengthIn]
  omega

theorem HeadsAgree.of_cutsAgree (h : CutsAgree overflowChecks wire) :
    HeadsAgree overflowChecks wire := by
  have hsize : readSize = 2048 := rfl
  refine ⟨?_, ?_, ?_⟩
  · intro head start hhead haccepts hmore hnear
    rcases exists_firstStop wire start with ⟨first, hfirst⟩
    have hbounds := hfirst.bounds hhead
    have hawaited := le_awaitedTo head start
    have hpassed := (hfirst.near_iff (n := start) (by omega)).mpr
      fun head' early hearly => (hnear head' early hearly).left
    have hpassed' : awaitedTo head start = start -> start + 1 < first + readSize :=
      fun hbody => (hfirst.near_iff (by omega)).mpr
        fun head' early hearly => (hnear head' early hearly).right hbody
    have hcut : CutAt overflowChecks wire (awaitedTo head start) start (lastLength head) :=
      (cutAt_late_iff hhead hfirst hawaited (by omega)).mpr
        ⟨haccepts, rfl, hpassed, Or.inr ⟨Nat.le_refl _, by omega, by omega⟩⟩
    have hcut' : CutAt overflowChecks wire (awaitedTo head start + 1) start (lastLength head) :=
      (cutAt_late_iff hhead hfirst (by omega) hmore).mpr
        ⟨haccepts, rfl, hpassed, Or.inr ⟨by omega, by omega, by omega⟩⟩
    exact (h _ _ _ _ _ _ (Nat.lt_succ_self _) hcut hcut').left rfl
  · intro head early head' start hearly hhead haccepts hroom
    have hawaited := le_awaitedTo head early
    have hcut : CutAt overflowChecks wire (awaitedTo head early) early (lastLength head) :=
      (cutAt_early_iff hearly hhead hawaited (by omega)).mpr
        ⟨haccepts, rfl, Nat.le_refl _, by omega⟩
    have hcut' : CutAt overflowChecks wire (awaitedTo head early + 1) early (lastLength head) :=
      (cutAt_early_iff hearly hhead (by omega) hroom).mpr ⟨haccepts, rfl, by omega, by omega⟩
    exact (h _ _ _ _ _ _ (Nat.lt_succ_self _) hcut hcut').left rfl
  · intro head early head' start hearly hhead haccepts haccepts' hbefore hnear hroom
    rcases exists_firstStop wire start with ⟨first, hfirst⟩
    have hstop := hfirst.early head early hearly
    have hstart := hhead.start_le
    have hawaited := le_awaitedTo head early
    have hawaited' := le_awaitedTo head' start
    have hlt := hhead.early_lt hearly
    have hcut : CutAt overflowChecks wire (awaitedTo head early) early (lastLength head) :=
      (cutAt_early_iff hearly hhead hawaited hbefore).mpr
        ⟨haccepts, rfl, Nat.le_refl _, by omega⟩
    have hcut' : CutAt overflowChecks wire (min (awaitedTo head' start) wire.length) start
        (lastLength head') :=
      (cutAt_late_iff hhead hfirst (by omega) (by omega)).mpr
        ⟨haccepts', rfl, by omega, by omega⟩
    have hbodies := (h _ _ _ _ _ _ (by omega) hcut hcut').right (by omega)
    rw [take_drop_take, take_drop_take] at hbodies
    have hin := lengthIn_le head hawaited
    have hstop' : start ≤ min (awaitedTo head' start) wire.length := by omega
    have hin' := lengthIn_le head' hstop'
    have hend : min (awaitedTo head' start) wire.length ≤ wire.length :=
      Nat.min_le_right _ _
    refine (take_drop_eq_iff ?_ ?_).mp hbodies.symm
    · omega
    · exact Nat.le_trans hin' hend

theorem lengthIn_of_le {head : List Char} {start stop n : Nat}
    (hwhole : start + lastLength head ≤ stop) (hle : stop ≤ n) :
    lengthIn head start n = lengthIn head start stop := by
  rw [lengthIn, lengthIn, Nat.min_eq_right (by omega), Nat.min_eq_right (by omega)]

theorem HeadsAgree.late_le (h : HeadsAgree overflowChecks wire) {head : List Char}
    {start n length : Nat} (hhead : HeadAt wire head start) (hle : start ≤ n)
    (hcut : CutAt overflowChecks wire n start length) (hpast : awaitedTo head start < n) :
    start + lastLength head ≤ awaitedTo head start := by
  have hsize : readSize = 2048 := rfl
  have hn := hcut.stops.le
  have hawaited := le_awaitedTo head start
  rcases exists_firstStop wire start with ⟨first, hfirst⟩
  rcases (cutAt_late_iff hhead hfirst hle hn).mp hcut with ⟨haccepts, _, hnear, hstop⟩
  apply h.late head start hhead haccepts (by omega)
  intro head' early hearly
  refine ⟨(hfirst.near_iff (by omega)).mp hnear head' early hearly, fun hbody => ?_⟩
  exact (hfirst.near_iff (by omega)).mp (by omega) head' early hearly

theorem HeadsAgree.early_le (h : HeadsAgree overflowChecks wire) {head head' : List Char}
    {early start n length : Nat} (hearly : EarlyHead wire head early)
    (hhead : HeadAt wire head' start) (hle : early ≤ n) (hn : n < start)
    (hcut : CutAt overflowChecks wire n early length) (hpast : awaitedTo head early < n) :
    early + lastLength head ≤ awaitedTo head early := by
  rcases (cutAt_early_iff hearly hhead hle hn).mp hcut with ⟨haccepts, _, _, _⟩
  exact h.early head early head' start hearly hhead haccepts (by omega)

theorem HeadsAgree.cutsAgree (h : HeadsAgree overflowChecks wire) :
    CutsAgree overflowChecks wire := by
  intro m n bodyStart length bodyStart' length' hlt hcut hcut'
  have hn := hcut'.stops.le
  rcases hcut.cases with ⟨head, hhead, hle⟩ | ⟨head, late, start, hearly, hlate, hle, hbefore⟩
  · rcases hcut'.cases with ⟨head', hhead', hle'⟩ | ⟨_, _, start', _, hlate', _, hbefore'⟩
    · -- Both behind the head of the whole stream.
      rcases hhead.unique hhead' with ⟨rfl, rfl⟩
      rcases exists_firstStop wire bodyStart with ⟨first, hfirst⟩
      rcases (cutAt_late_iff hhead hfirst hle (by omega)).mp hcut with ⟨_, rfl, _, hstop⟩
      refine ⟨fun _ => ?_, fun hne => absurd rfl hne⟩
      have hwhole := h.late_le hhead hle' hcut' (by omega)
      omega
    · rcases hhead.unique hlate' with ⟨_, rfl⟩
      omega
  · rcases (cutAt_early_iff hearly hlate hle hbefore).mp hcut with
      ⟨haccepts, rfl, hreached, _⟩
    rcases hcut'.cases with ⟨head', hhead', hle'⟩ |
      ⟨head', late', start', hearly', hlate', hle', hbefore'⟩
    · -- The first behind an early head, the second behind that of the whole stream.
      rcases hlate.unique hhead' with ⟨rfl, rfl⟩
      rcases exists_firstStop wire start with ⟨first, hfirst⟩
      rcases (cutAt_late_iff hlate hfirst hle' hn).mp hcut' with
        ⟨haccepts', rfl, hnear, hstop⟩
      have hstart := hfirst.early head bodyStart hearly
      refine ⟨fun hsame => by omega, fun _ => ?_⟩
      have hbytes := h.both head bodyStart late start hearly hlate haccepts haccepts'
        (by omega) (by omega) (by omega)
      have hlength : lengthIn head bodyStart m =
          lengthIn head bodyStart (awaitedTo head bodyStart) := by
        by_cases hexact : m = awaitedTo head bodyStart
        · rw [hexact]
        · exact lengthIn_of_le (h.early_le hearly hlate hle hbefore hcut (by omega)) hreached
      have hlength' : lengthIn late start n =
          lengthIn late start (min (awaitedTo late start) wire.length) := by
        rcases hstop with ⟨hall, hshort, _⟩ | ⟨hreached', _⟩
        · rw [Nat.min_eq_right (by omega), hall]
        · rw [Nat.min_eq_left (by omega)]
          by_cases hexact : n = awaitedTo late start
          · rw [hexact]
          · exact lengthIn_of_le (h.late_le hlate hle' hcut' (by omega)) hreached'
      have hin := lengthIn_le head hle
      have hin' := lengthIn_le late hle'
      rw [← hlength, ← hlength'] at hbytes
      rw [take_drop_take, take_drop_take]
      exact ((take_drop_eq_iff (by omega) (by omega)).mpr hbytes).symm
    · -- Both behind the early head.
      rcases hearly.unique hearly' with ⟨rfl, rfl⟩
      refine ⟨fun _ => ?_, fun hne => absurd rfl hne⟩
      have hwhole := h.early_le hearly hlate' hle' hbefore' hcut' (by omega)
      omega

theorem HeadsAgree.of_lone (hlone : forall head early, ¬ EarlyHead wire head early)
    (h : forall head start, HeadAt wire head start -> Accepts overflowChecks head start ->
      start + lastLength head ≤ awaitedTo head start) :
    HeadsAgree overflowChecks wire where
  late := fun head start hhead haccepts _ _ => h head start hhead haccepts
  early := fun head early _ _ hearly => absurd hearly (hlone head early)
  both := fun head early _ _ hearly => absurd hearly (hlone head early)

theorem not_earlyHead_of_lfLf (h : Bytes.findWindow MessageHead.lfLf wire = none)
    (head : List Char) (early : Nat) : ¬ EarlyHead wire head early := by
  rintro ⟨lf, _, hlf, _⟩
  rw [h] at hlf
  cases hlf

end

/-- How a stream of at most the cap is split does not matter to the request exactly
if its heads agree. -/
theorem splitIndependent_iff_headsAgree (overflowChecks : Bool) {wire : Bytes}
    (hsize : wire.length ≤ maxRequest) :
    SplitIndependent overflowChecks wire <-> HeadsAgree overflowChecks wire :=
  (splitIndependent_iff_cutsAgree overflowChecks hsize).trans
    ⟨HeadsAgree.of_cutsAgree, HeadsAgree.cutsAgree⟩

def oneLength : List (List Char) :=
  ["POST /register HTTP/1.0".toList, "Content-Length: 5".toList]

theorem isLine_of_mem_oneLength :
    forall line, line ∈ oneLength -> MessageHead.IsLine line := by
  simp only [oneLength, List.forall_mem_cons, List.not_mem_nil, false_implies,
    implies_true, and_true]
  exact ⟨MessageHead.IsLine.of_check rfl, MessageHead.IsLine.of_check rfl⟩

theorem splitIndependent_iff_headsAgree_oneLength :
    SplitIndependent true (MessageHead.render oneLength ++ Bytes.ofText "hello".toList) := by
  apply (splitIndependent_iff_headsAgree true (by decide +kernel)).mpr
  apply HeadsAgree.of_lone (not_earlyHead_of_lfLf (by decide +kernel))
  intro head start hhead haccepts
  rcases hhead.unique (headAt_render (List.cons_ne_nil _ _) isLine_of_mem_oneLength _)
    with ⟨rfl, rfl⟩
  decide +kernel

def twoLengthsWire : Bytes :=
  MessageHead.render twoLengths ++ Bytes.ofText "hello".toList

theorem twoLengths_heads_disagree (overflowChecks : Bool) :
    ¬ HeadsAgree overflowChecks twoLengthsWire := by
  intro h
  have hsize : (MessageHead.render twoLengths).length + 5 < usizeLimit := by decide +kernel
  have hlength : twoLengthsWire.length = (MessageHead.render twoLengths).length + 5 := by
    decide +kernel
  have hlf : Bytes.findWindow MessageHead.lfLf twoLengthsWire = none := by decide +kernel
  have hawaited : awaitedTo (MessageHead.join twoLengths)
      (MessageHead.render twoLengths).length = (MessageHead.render twoLengths).length := by
    rw [awaitedTo, twoLengths_announced.left, Nat.add_zero, if_pos (by omega)]
  have haccepts : Accepts overflowChecks (MessageHead.join twoLengths)
      (MessageHead.render twoLengths).length := by
    refine ⟨wellFormed_twoLengths, fun _ => ?_, ?_⟩
    · rw [twoLengths_announced.left]
      omega
    · rw [twoLengths_announced.right]
      exact hsize
  have hwhole := h.late _ _ (headAt_twoLengths _) haccepts (by rw [hawaited]; omega)
    fun head early hearly => absurd hearly (not_earlyHead_of_lfLf hlf head early)
  rw [hawaited, twoLengths_announced.right] at hwhole
  omega

/-- Split behind its head this request has no body; in one read it has five
bytes. -/
theorem twoLengths_not_splitIndependent :
    twoLengthsWire.length ≤ maxRequest ∧
    ¬ SplitIndependent true twoLengthsWire ∧
    ¬ SplitIndependent false twoLengthsWire := by
  have hsize : twoLengthsWire.length ≤ maxRequest := by decide +kernel
  exact ⟨hsize,
    fun h => twoLengths_heads_disagree true (.of_cutsAgree (h.cutsAgree hsize)),
    fun h => twoLengths_heads_disagree false (.of_cutsAgree (h.cutsAgree hsize))⟩

end Bastion

end Ephemwork

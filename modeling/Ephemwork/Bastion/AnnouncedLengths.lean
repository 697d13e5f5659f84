import Ephemwork.Bastion.Reading

/-!
# The lengths a head announces

The reading loop goes by the first content length of a head that parses, in whatever
line, the parser by the last one behind the request line.  Both are read off the bytes
that have arrived, and so is the read that brings the end of the first one's body.
-/

namespace Ephemwork

open Foundation

namespace Bastion

/-!
# The first length and the last
-/

def firstLength (head : List Char) : Nat :=
  ((MessageHead.textLines head).filterMap announcedLength).head?.getD 0

def lastLength (head : List Char) : Nat :=
  ((MessageHead.textLines head).tail.filterMap announcedLength).getLast?.getD 0

/-- The first line has a method and a path, and the content lengths behind it parse. -/
structure WellFormed (head : List Char) : Prop where
  named : 2 ≤ (Text.words ((MessageHead.textLines head).headD [])).length
  lengths : forall line, line ∈ (MessageHead.textLines head).tail ->
    contentLengthValue line ≠ none -> announcedLength line ≠ none

theorem announcedLength_append_cr (line : List Char) :
    announcedLength (line ++ ['\r']) = announcedLength line := by
  unfold announcedLength contentLengthValue
  by_cases hcolon : ':' ∈ line
  · rcases Text.exists_eq_append_of_mem hcolon with ⟨name, value, hname, rfl⟩
    have hspace : forall c, c ∈ ['\r'] -> Text.isWhitespace c = true := by
      intro c hc
      rw [List.mem_singleton.mp hc]
      rfl
    rw [List.append_assoc, List.cons_append, Text.splitOnce_append hname,
      Text.splitOnce_append hname]
    by_cases hlength : isContentLength name = true
    · simp only [if_pos hlength, Text.trim_append_of_all hspace]
    · simp only [if_neg hlength]
  · have hcolon' : ':' ∉ line ++ ['\r'] := by simp [hcolon]
    rw [(Text.splitOnce_eq_none_iff _ _).mpr hcolon,
      (Text.splitOnce_eq_none_iff _ _).mpr hcolon']

theorem announcedLength_trimEndCr (line : List Char) :
    announcedLength (trimEndCr line) = announcedLength line := by
  induction line using List.reverseRecOn with
  | nil => rfl
  | append_singleton line c ih =>
      by_cases hc : c = '\r'
      · subst hc
        have htrim : trimEndCr (line ++ ['\r']) = trimEndCr line := by
          simp [trimEndCr]
        rw [htrim, ih, announcedLength_append_cr]
      · have htrim : trimEndCr (line ++ [c]) = line ++ [c] := by
          simp [trimEndCr, hc]
        rw [htrim]

theorem expectedLength_eq (head : List Char) : expectedLength head = firstLength head := by
  have htrim : (fun line => announcedLength (trimEndCr line)) = announcedLength :=
    funext announcedLength_trimEndCr
  rw [expectedLength, htrim, ← List.head?_filterMap, firstLength,
    MessageHead.filterMap_textLines announcedLength_append_cr]

theorem firstLength_append_lf (head rest : List Char)
    (hrest : (rest.splitOn '\n').filterMap announcedLength = []) :
    firstLength (head ++ '\n' :: rest) = firstLength head := by
  rw [firstLength, firstLength, MessageHead.filterMap_textLines announcedLength_append_cr,
    MessageHead.filterMap_textLines announcedLength_append_cr,
    List.splitOn_append_cons_self, List.filterMap_append, hrest, List.append_nil]

theorem firstLength_append_cr (head : List Char) :
    firstLength (head ++ ['\r']) = firstLength head := by
  rw [firstLength, firstLength, MessageHead.filterMap_textLines announcedLength_append_cr,
    MessageHead.filterMap_textLines announcedLength_append_cr,
    MessageHead.filterMap_splitOn_append_cr announcedLength_append_cr]

theorem contentLength_eq_ok_iff {start length : Nat} {lines : List (List Char)} :
    contentLength start lines = .ok length <->
      (forall line, line ∈ lines -> contentLengthValue line ≠ none ->
        announcedLength line ≠ none) ∧
      length = (lines.filterMap announcedLength).getLast?.getD start := by
  induction lines generalizing start with
  | nil => simp [contentLength, eq_comm]
  | cons line rest ih =>
      rw [contentLength, List.forall_mem_cons]
      cases hvalue : contentLengthValue line with
      | none =>
          have hnone : announcedLength line = none := by simp [announcedLength, hvalue]
          simp [ih, hnone]
      | some value =>
          cases hparse : Decimal.parse usizeLimit (Text.trim value) with
          | none =>
              have hnone : announcedLength line = none := by
                simp [announcedLength, hvalue, hparse]
              simp [hparse, hnone]
          | some n =>
              have hsome : announcedLength line = some n := by
                simp [announcedLength, hvalue, hparse]
              simp [hparse, hsome, ih, List.getLast?_cons]

theorem parseHead_eq_ok_iff {head line : List Char} {more : List (List Char)}
    (hlines : MessageHead.textLines head = line :: more)
    {method path : String} {length : Nat} :
    parseHead head = .ok (method, path, length) <->
      exists first second others,
        Text.words line = first :: second :: others ∧
        String.ofList first = method ∧ String.ofList second = path ∧
        contentLength 0 more = .ok length := by
  unfold parseHead
  rw [hlines]
  cases hwords : Text.words line with
  | nil => simp [hwords]
  | cons first others =>
      cases others with
      | nil => simp [hwords]
      | cons second others =>
          cases hlength : contentLength 0 more with
          | error e => simp [hwords, hlength]
          | ok n => simp [hwords, hlength]

theorem exists_parseHead_iff {head : List Char} {length : Nat} :
    (exists method path, parseHead head = .ok (method, path, length)) <->
      WellFormed head ∧ length = lastLength head := by
  cases hlines : MessageHead.textLines head with
  | nil => exact absurd hlines (MessageHead.textLines_ne_nil head)
  | cons line more =>
      have hlast : lastLength head = (more.filterMap announcedLength).getLast?.getD 0 := by
        rw [lastLength, hlines, List.tail_cons]
      rw [hlast]
      constructor
      · rintro ⟨method, path, hparse⟩
        rcases (parseHead_eq_ok_iff hlines).mp hparse with
          ⟨first, second, others, hwords, _, _, hlength⟩
        rcases contentLength_eq_ok_iff.mp hlength with ⟨hlengths, hlength⟩
        refine ⟨⟨?_, ?_⟩, hlength⟩
        · simp [hlines, hwords]
        · rwa [hlines]
      · rintro ⟨hformed, hlength⟩
        have hnamed := hformed.named
        have hlengths := hformed.lengths
        rw [hlines] at hnamed hlengths
        have hvalue := contentLength_eq_ok_iff.mpr ⟨hlengths, hlength⟩
        cases hwords : Text.words line with
        | nil => simp [hwords] at hnamed
        | cons first others =>
            cases others with
            | nil => simp [hwords] at hnamed
            | cons second others =>
                exact ⟨_, _, (parseHead_eq_ok_iff hlines).mpr
                  ⟨first, second, others, hwords, rfl, rfl, hvalue⟩⟩

/-!
# The head in what has been received
-/

/-- The head found in the bytes received, empty if it is not text, and the start
of the body behind it. -/
def HeadAt (received : Bytes) (head : List Char) (start : Nat) : Prop :=
  exists headEnd, findHeaderTerminator received = some (headEnd, start) ∧
    head = (Bytes.toText? (received.take headEnd)).getD []

theorem HeadAt.unique {received : Bytes} {head head' : List Char} {start start' : Nat}
    (h : HeadAt received head start) (h' : HeadAt received head' start') :
    head = head' ∧ start = start' := by
  rcases h with ⟨headEnd, hfind, rfl⟩
  rcases h' with ⟨headEnd', hfind', rfl⟩
  rw [hfind] at hfind'
  cases hfind'
  exact ⟨rfl, rfl⟩

theorem HeadAt.start_le {received : Bytes} {head : List Char} {start : Nat}
    (h : HeadAt received head start) : start ≤ received.length := by
  rcases h with ⟨headEnd, hfind, _⟩
  exact (findHeaderTerminator_bounds hfind).right

theorem WellFormed.ne_nil {head : List Char} (h : WellFormed head) : head ≠ [] := by
  intro hnil
  have hnamed := h.named
  rw [hnil] at hnamed
  exact absurd hnamed (by decide)

theorem exists_head_of_parsedBody {raw : Bytes} {bodyStart length : Nat}
    (h : parsedBody raw = some (bodyStart, length)) :
    exists headEnd head method path,
      findHeaderTerminator raw = some (headEnd, bodyStart) ∧
      Bytes.toText? (raw.take headEnd) = some head ∧
      parseHead head = .ok (method, path, length) := by
  unfold parsedBody at h
  cases hfind : findHeaderTerminator raw with
  | none =>
      rw [hfind] at h
      cases h
  | some found =>
      rcases found with ⟨headEnd, start⟩
      simp only [hfind] at h
      cases htext : Bytes.toText? (raw.take headEnd) with
      | none =>
          rw [htext] at h
          cases h
      | some head =>
          simp only [htext] at h
          cases hparse : parseHead head with
          | error e =>
              rw [hparse] at h
              cases h
          | ok parsed =>
              rcases parsed with ⟨method, path, n⟩
              simp only [hparse, Option.some.injEq, Prod.mk.injEq] at h
              rcases h with ⟨rfl, rfl⟩
              exact ⟨headEnd, head, method, path, rfl, htext, hparse⟩

theorem parsedBody_eq_some_iff {raw : Bytes} {start length : Nat} :
    parsedBody raw = some (start, length) <->
      exists head, HeadAt raw head start ∧ WellFormed head ∧ length = lastLength head := by
  constructor
  · intro h
    rcases exists_head_of_parsedBody h with
      ⟨headEnd, head, method, path, hfind, htext, hparse⟩
    refine ⟨head, ⟨headEnd, hfind, ?_⟩, exists_parseHead_iff.mp ⟨method, path, hparse⟩⟩
    rw [htext, Option.getD_some]
  · rintro ⟨head, ⟨headEnd, hfind, hhead⟩, hformed, hlength⟩
    rcases exists_parseHead_iff.mpr ⟨hformed, hlength⟩ with ⟨method, path, hparse⟩
    cases htext : Bytes.toText? (raw.take headEnd) with
    | none =>
        rw [htext] at hhead
        exact absurd hhead hformed.ne_nil
    | some text =>
        rw [htext, Option.getD_some] at hhead
        rw [parsedBody, hfind]
        simp only [htext, ← hhead, hparse]

theorem take_bodyStart_of_found {buffer : Bytes} {headEnd bodyStart : Nat}
    (h : findHeaderTerminator buffer = some (headEnd, bodyStart)) :
    buffer.take (bodyStart - 1) = buffer.take headEnd ++ Bytes.ofText ['\n'] ∨
      buffer.take (bodyStart - 1) =
        buffer.take headEnd ++ Bytes.ofText ['\r', '\n', '\r'] := by
  have htake : forall (pattern : Bytes) (position count : Nat), pattern <+: buffer.drop position ->
      count ≤ pattern.length ->
      buffer.take (position + count) = buffer.take position ++ pattern.take count := by
    rintro pattern position count ⟨rest, hrest⟩ hcount
    rw [List.take_add, ← hrest, List.take_append_of_le_length hcount]
  unfold findHeaderTerminator at h
  split at h
  · next position hfind =>
      cases h
      exact Or.inr (htake _ _ 3 (Bytes.findWindow_prefix hfind) (by decide))
  · split at h
    · next position hfind =>
        cases h
        exact Or.inl (htake _ _ 1 (Bytes.findWindow_prefix hfind) (by decide))
    · cases h

theorem expectedLength_of_found {buffer : Bytes} {headEnd bodyStart : Nat}
    (h : findHeaderTerminator buffer = some (headEnd, bodyStart)) :
    expectedLength ((Bytes.toText? (buffer.take (bodyStart - 1))).getD []) =
      firstLength ((Bytes.toText? (buffer.take headEnd)).getD []) := by
  rw [expectedLength_eq]
  rcases take_bodyStart_of_found h with htake | htake
  · rw [htake, Bytes.toText?_append_ofText_cons (by decide)]
    cases Bytes.toText? (buffer.take headEnd) with
    | none => rfl
    | some head => exact firstLength_append_lf head [] rfl
  · rw [htake, Bytes.toText?_append_ofText_cons (by decide)]
    cases Bytes.toText? (buffer.take headEnd) with
    | none => rfl
    | some head =>
        have hshape : head ++ ['\r', '\n', '\r'] = (head ++ ['\r']) ++ '\n' :: ['\r'] := by
          simp
        rw [Option.map_some, Option.getD_some, Option.getD_some, hshape,
          firstLength_append_lf _ _ rfl, firstLength_append_cr]

theorem awaitedEnd_eq_some_iff {buffer : Bytes} {stop : Nat} :
    awaitedEnd buffer = some stop <->
      exists head start, HeadAt buffer head start ∧ stop = start + firstLength head := by
  constructor
  · intro h
    unfold awaitedEnd at h
    cases hfind : findHeaderTerminator buffer with
    | none =>
        rw [hfind] at h
        cases h
    | some found =>
        rcases found with ⟨headEnd, start⟩
        rw [hfind] at h
        simp only [expectedLength_of_found hfind] at h
        cases h
        exact ⟨_, start, ⟨headEnd, hfind, rfl⟩, rfl⟩
  · rintro ⟨head, start, ⟨headEnd, hfind, rfl⟩, rfl⟩
    rw [awaitedEnd, hfind]
    simp only [expectedLength_of_found hfind]

/-- The head and the bytes of its first length have come in.  A length past the
range of a sum is not waited for. -/
def Arrived (received : Bytes) : Prop :=
  exists head start, HeadAt received head start ∧
    (start + firstLength head ≤ received.length ∨ usizeLimit ≤ start + firstLength head)

theorem Arrived.le_of_headAt {received : Bytes} {head : List Char} {start : Nat}
    (h : Arrived received) (hhead : HeadAt received head start)
    (hrange : start + firstLength head < usizeLimit) :
    start + firstLength head ≤ received.length := by
  rcases h with ⟨head', start', hhead', hreached⟩
  rcases hhead.unique hhead' with ⟨rfl, rfl⟩
  omega

theorem waiting_iff_not_arrived (received : Bytes) : Waiting received <-> ¬ Arrived received := by
  unfold Waiting Arrived
  constructor
  · rintro h ⟨head, start, hhead, hreached⟩
    have hstop := h _ (awaitedEnd_eq_some_iff.mpr ⟨head, start, hhead, rfl⟩)
    omega
  · intro h stop hstop
    rcases awaitedEnd_eq_some_iff.mp hstop with ⟨head, start, hhead, rfl⟩
    constructor
    · by_contra hreached
      exact h ⟨head, start, hhead, Or.inl (by omega)⟩
    · by_contra hpast
      exact h ⟨head, start, hhead, Or.inr (by omega)⟩

theorem headAt_render {lines : List (List Char)} (hne : lines ≠ [])
    (h : forall line, line ∈ lines -> MessageHead.IsLine line) (body : Bytes) :
    HeadAt (MessageHead.render lines ++ body) (MessageHead.join lines)
      (MessageHead.render lines).length := by
  refine ⟨_, findHeaderTerminator_render hne h body, ?_⟩
  rw [MessageHead.render, List.append_assoc, List.take_left, Bytes.toText?_ofText,
    Option.getD_some]

theorem isComplete_eq_true_iff {overflowChecks : Bool} {received : Bytes} :
    isComplete overflowChecks received = .ok true <->
      Arrived received ∧
        forall head start, HeadAt received head start -> overflowChecks = true ->
          start + firstLength head < usizeLimit := by
  rw [isComplete_eq_awaitedEnd]
  cases hawaited : awaitedEnd received with
  | none =>
      have hnone : ¬ Arrived received := by
        rintro ⟨head, start, hhead, _⟩
        have hstop := awaitedEnd_eq_some_iff.mpr ⟨head, start, hhead, rfl⟩
        rw [hawaited] at hstop
        cases hstop
      simp [hnone]
  | some stop =>
      rcases awaitedEnd_eq_some_iff.mp hawaited with ⟨head, start, hhead, hstop⟩
      have harrived : Arrived received <->
          stop ≤ received.length ∨ usizeLimit ≤ stop := by
        constructor
        · rintro ⟨head', start', hhead', hreached⟩
          rcases hhead.unique hhead' with ⟨rfl, rfl⟩
          rwa [hstop]
        · rw [hstop]
          exact fun hreached => ⟨head, start, hhead, hreached⟩
      have hrange : (forall head start, HeadAt received head start ->
          overflowChecks = true -> start + firstLength head < usizeLimit) <->
            (overflowChecks = true -> stop < usizeLimit) := by
        constructor
        · rw [hstop]
          exact fun h => h head start hhead
        · intro h head' start' hhead'
          rcases hhead.unique hhead' with ⟨rfl, rfl⟩
          rwa [← hstop]
      rw [harrived, hrange]
      by_cases hfits : stop < usizeLimit
      · simp [hfits]
      · have hwrapped := awaitedEnd_mod_le hawaited hfits
        have hpast := Nat.le_of_not_lt hfits
        cases overflowChecks with
        | true => simp [hfits]
        | false => simp [hfits, hwrapped, hpast]

/-!
# The read that brings the end
-/

theorem delivered_append_data {reads : Stream} {index count : Nat} {bytes : Bytes}
    {fits : bytes.length ≤ readSize} (hread : reads (index + count) = .data bytes fits) :
    delivered reads index (count + 1) = delivered reads index count ++ bytes := by
  induction count generalizing index with
  | zero =>
      rw [Nat.add_zero] at hread
      simp [delivered, hread]
  | succ count ih =>
      have hnext : index + (count + 1) = index + 1 + count := by omega
      rw [hnext] at hread
      rw [delivered, ih hread, ← List.append_assoc]
      rfl

theorem delivered_succ_of_data {reads : Stream} {n : Nat} {bytes : Bytes}
    {fits : bytes.length ≤ readSize} (hread : reads n = .data bytes fits) :
    delivered reads 0 (n + 1) = delivered reads 0 n ++ bytes :=
  delivered_append_data (by rwa [Nat.zero_add])

def BringsData (reads : Stream) (index : Nat) : Prop :=
  exists bytes fits, reads index = .data bytes fits ∧ bytes ≠ []

/-- With read `n` the head and the bytes of its first length have come in, and
not before. -/
structure LastRead (reads : Stream) (n : Nat) : Prop where
  data : forall index, index ≤ n -> BringsData reads index
  room : (delivered reads 0 n).length < maxRequest
  before : forall index, index ≤ n -> ¬ Arrived (delivered reads 0 index)
  arrived : Arrived (delivered reads 0 (n + 1))

section

variable {reads : Stream} {n : Nat} {buffer : Bytes}

theorem length_delivered_le {m : Nat} (hdata : forall index, index < n -> BringsData reads index)
    (hmn : m ≤ n) : (delivered reads 0 m).length ≤ (delivered reads 0 n).length := by
  induction n with
  | zero =>
      rw [Nat.le_zero.mp hmn]
  | succ n ih =>
      rcases Nat.le_succ_iff.mp hmn with hle | rfl
      · rcases hdata n (Nat.lt_succ_self n) with ⟨bytes, fits, hread, _⟩
        rw [delivered_succ_of_data hread, List.length_append]
        have hfront := ih (fun index hindex => hdata index (by omega)) hle
        omega
      · exact Nat.le_refl _

theorem Reaches.of_delivered (hdata : forall index, index < n -> BringsData reads index)
    (hroom : forall index, index < n -> (delivered reads 0 index).length < maxRequest)
    (hbefore : forall index, index ≤ n -> ¬ Arrived (delivered reads 0 index)) :
    Reaches reads n (delivered reads 0 n) := by
  induction n with
  | zero => exact .start
  | succ n ih =>
      have hfront := ih (fun index hindex => hdata index (by omega))
        (fun index hindex => hroom index (by omega))
        (fun index hindex => hbefore index (by omega))
      rcases hdata n (Nat.lt_succ_self n) with ⟨bytes, fits, hread, hne⟩
      refine hfront.pass ⟨hroom n (Nat.lt_succ_self n), ⟨bytes, fits, hread, hne, ?_⟩, ?_⟩
      · exact delivered_succ_of_data hread
      · exact (waiting_iff_not_arrived _).mpr (hbefore (n + 1) (Nat.le_refl _))

theorem LastRead.reaches (h : LastRead reads n) : Reaches reads n (delivered reads 0 n) := by
  apply Reaches.of_delivered
  · exact fun index hindex => h.data index (Nat.le_of_lt hindex)
  · intro index hindex
    have hle := length_delivered_le (fun index hlt => h.data index (Nat.le_of_lt hlt))
      (Nat.le_of_lt hindex)
    exact Nat.lt_of_le_of_lt hle h.room
  · exact h.before

theorem Reaches.before (h : Reaches reads n buffer) :
    buffer = delivered reads 0 n ∧
      (forall index, index < n -> BringsData reads index) ∧
      forall index, index ≤ n -> ¬ Arrived (delivered reads 0 index) := by
  induction h with
  | start =>
      refine ⟨rfl, fun index hindex => absurd hindex (Nat.not_lt_zero _), ?_⟩
      intro index hindex
      rw [Nat.le_zero.mp hindex]
      rintro ⟨head, start, ⟨headEnd, hfind, _⟩, _⟩
      cases hfind
  | pass h hnext ih =>
      rcases ih with ⟨rfl, hdata, hbefore⟩
      rcases hnext.read with ⟨bytes, fits, hread, hne, hbytes⟩
      rw [← delivered_succ_of_data hread] at hbytes
      refine ⟨hbytes, ?_, ?_⟩
      · intro index hindex
        rcases Nat.lt_succ_iff_lt_or_eq.mp hindex with hlt | rfl
        · exact hdata index hlt
        · exact ⟨bytes, fits, hread, hne⟩
      · intro index hindex
        rcases Nat.le_succ_iff.mp hindex with hle | rfl
        · exact hbefore index hle
        · rw [← hbytes]
          exact (waiting_iff_not_arrived _).mp hnext.waiting

theorem Reaches.lastRead (h : Reaches reads n buffer) (hroom : buffer.length < maxRequest)
    {bytes : Bytes} {fits : bytes.length ≤ readSize} (hread : reads n = .data bytes fits)
    (hne : bytes ≠ []) (harrived : Arrived (buffer ++ bytes)) :
    LastRead reads n ∧ buffer ++ bytes = delivered reads 0 (n + 1) := by
  rcases h.before with ⟨rfl, hdata, hbefore⟩
  rw [← delivered_succ_of_data hread] at harrived ⊢
  refine ⟨⟨?_, hroom, hbefore, harrived⟩, rfl⟩
  intro index hindex
  rcases Nat.lt_or_eq_of_le hindex with hlt | rfl
  · exact hdata index hlt
  · exact ⟨bytes, fits, hread, hne⟩

end

end Bastion

end Ephemwork

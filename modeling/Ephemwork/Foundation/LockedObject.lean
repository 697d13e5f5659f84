import Mathlib.Logic.Function.Basic
import Ephemwork.Foundation.TransitionSystem

/-!
# Objects behind a lock

Clients share an object behind a lock.  A client arrives with a request, takes
the lock when it is free, decides there on its answer, on what the object becomes
and on the effects it has to perform, performs them one after the other, releases
the lock and is answered.  Whatever the order of their steps, the clients are
served as if one after the other, in the order in which they took the lock.
-/

namespace Foundation

/-- What a client that holds the lock does for its request. -/
structure LockedObject (object request response effect world : Type) where
  serve : request -> object -> response × object × List effect
  perform : effect -> world -> world

inductive Stage (request response effect : Type) where
  | outside
  | waiting (wanted : request)
  | holding (answer : response) (left : List effect)
  | leaving (answer : response)
  | gone (answer : response)

inductive Move (client request : Type) where
  | arrive (who : client) (wanted : request)
  | take (who : client)
  | work (who : client)
  | release (who : client)
  | answer (who : client)
deriving DecidableEq, Repr

def Move.who {client request : Type} : Move client request -> client
  | arrive who _ => who
  | take who => who
  | work who => who
  | release who => who
  | answer who => who

/-- A client that has taken the lock, and what was decided there. -/
structure Served (client request response : Type) where
  who : client
  wanted : request
  answer : response

structure LockState (client object request response effect world : Type) where
  object : object
  world : world
  holder : Option client
  stage : client -> Stage request response effect
  /-- In the order in which they took the lock. -/
  served : List (Served client request response)

namespace Stage

variable {request response effect : Type}

def answer? : Stage request response effect -> Option response
  | outside => none
  | waiting _ => none
  | holding answer _ => some answer
  | leaving answer => some answer
  | gone answer => some answer

def isHolding : Stage request response effect -> Bool
  | holding _ _ => true
  | _ => false

def left : Stage request response effect -> List effect
  | holding _ left => left
  | _ => []

end Stage

namespace LockedObject

variable {client object request response effect world : Type}

section

variable (L : LockedObject object request response effect world)

def performAll (effects : List effect) (state : world) : world :=
  effects.foldl (fun state effect => L.perform effect state) state

def sequential : TransitionSystem (object × world) request response where
  step := fun s wanted =>
    let (answer, object, effects) := L.serve wanted s.1
    some (answer, (object, L.performAll effects s.2))

theorem sequential_run_cons {s t : object × world} {wanted : request}
    {rest : List request} {answers : List response}
    (h : L.sequential.run s (wanted :: rest) = some (answers, t)) :
    exists tail,
      L.sequential.run
          ((L.serve wanted s.1).2.1, L.performAll (L.serve wanted s.1).2.2 s.2) rest =
        some (tail, t) ∧
      answers = (L.serve wanted s.1).1 :: tail := by
  rcases L.sequential.run_cons_some h with ⟨answer, mid, tail, hstep, hrest, hanswers⟩
  cases hstep
  exact ⟨tail, hrest, hanswers⟩

/-- The clients take their steps in any order; an output is an answer that a
client receives. -/
def shared [DecidableEq client] :
    TransitionSystem (LockState client object request response effect world)
      (Move client request) (Option (client × response)) where
  step := fun s move =>
    match move with
    | .arrive who wanted =>
        match s.stage who with
        | .outside =>
            some (none, { s with stage := Function.update s.stage who (.waiting wanted) })
        | _ => none
    | .take who =>
        match s.holder, s.stage who with
        | none, .waiting wanted =>
            let (answer, object, effects) := L.serve wanted s.object
            some (none,
              { object := object
                world := s.world
                holder := some who
                stage := Function.update s.stage who (.holding answer effects)
                served := s.served ++ [⟨who, wanted, answer⟩] })
        | _, _ => none
    | .work who =>
        match s.stage who with
        | .holding answer (effect :: left) =>
            some (none,
              { s with
                world := L.perform effect s.world
                stage := Function.update s.stage who (.holding answer left) })
        | _ => none
    | .release who =>
        match s.stage who with
        | .holding answer [] =>
            some (none,
              { s with
                holder := none
                stage := Function.update s.stage who (.leaving answer) })
        | _ => none
    | .answer who =>
        match s.stage who with
        | .leaving answer =>
            some (some (who, answer),
              { s with stage := Function.update s.stage who (.gone answer) })
        | _ => none

end

def start (initial : object) (state : world) :
    LockState client object request response effect world where
  object := initial
  world := state
  holder := none
  stage := fun _ => .outside
  served := []

def unfinished (s : LockState client object request response effect world) : List effect :=
  match s.holder with
  | none => []
  | some who => (s.stage who).left

/-!
# What each step does
-/

section

variable [DecidableEq client] {L : LockedObject object request response effect world}
  {s t : LockState client object request response effect world}
  {output : Option (client × response)} {who : client}

theorem arrive_step {wanted : request}
    (h : L.shared.step s (.arrive who wanted) = some (output, t)) :
    s.stage who = .outside ∧ output = none ∧
      t = { s with stage := Function.update s.stage who (.waiting wanted) } := by
  simp only [shared] at h
  split at h
  · next hstage =>
      cases h
      exact ⟨hstage, rfl, rfl⟩
  · cases h

theorem take_step (h : L.shared.step s (.take who) = some (output, t)) :
    exists wanted, s.holder = none ∧ s.stage who = .waiting wanted ∧ output = none ∧
      t =
        { object := (L.serve wanted s.object).2.1
          world := s.world
          holder := some who
          stage := Function.update s.stage who
            (.holding (L.serve wanted s.object).1 (L.serve wanted s.object).2.2)
          served := s.served ++ [⟨who, wanted, (L.serve wanted s.object).1⟩] } := by
  simp only [shared] at h
  split at h
  · next wanted hholder hstage =>
      cases h
      exact ⟨wanted, hholder, hstage, rfl, rfl⟩
  · cases h

theorem work_step (h : L.shared.step s (.work who) = some (output, t)) :
    exists answer effect left, s.stage who = .holding answer (effect :: left) ∧
      output = none ∧
      t =
        { s with
          world := L.perform effect s.world
          stage := Function.update s.stage who (.holding answer left) } := by
  simp only [shared] at h
  split at h
  · next answer effect left hstage =>
      cases h
      exact ⟨answer, effect, left, hstage, rfl, rfl⟩
  · cases h

theorem release_step (h : L.shared.step s (.release who) = some (output, t)) :
    exists answer, s.stage who = .holding answer [] ∧ output = none ∧
      t =
        { s with
          holder := none
          stage := Function.update s.stage who (.leaving answer) } := by
  simp only [shared] at h
  split at h
  · next answer hstage =>
      cases h
      exact ⟨answer, hstage, rfl, rfl⟩
  · cases h

theorem answer_step (h : L.shared.step s (.answer who) = some (output, t)) :
    exists answer, s.stage who = .leaving answer ∧ output = some (who, answer) ∧
      t = { s with stage := Function.update s.stage who (.gone answer) } := by
  simp only [shared] at h
  split at h
  · next answer hstage =>
      cases h
      exact ⟨answer, hstage, rfl, rfl⟩
  · cases h

end

/-!
# One after the other
-/

def HoldsAlone (s : LockState client object request response effect world) : Prop :=
  forall who, s.holder = some who <-> (s.stage who).isHolding = true

/-- The clients that have taken the lock were served in this order from the given
start: with these answers, leaving the object as it is, and the world as it will
be when the holder has performed the rest of its effects. -/
structure Linearized (L : LockedObject object request response effect world)
    (initial : object × world)
    (s : LockState client object request response effect world) : Prop where
  alone : HoldsAlone s
  runs : L.sequential.run initial (s.served.map Served.wanted) =
    some (s.served.map Served.answer,
      (s.object, L.performAll (unfinished s) s.world))
  once : (s.served.map Served.who).Nodup
  known : forall who answer, (s.stage who).answer? = some answer <->
    exists one, one ∈ s.served ∧ one.who = who ∧ one.answer = answer

theorem linearized_start (L : LockedObject object request response effect world)
    (initial : object) (state : world) :
    Linearized L (initial, state)
      (start initial state :
        LockState client object request response effect world) := by
  refine ⟨?_, rfl, List.nodup_nil, ?_⟩
  · intro who
    constructor
    · intro h
      cases h
    · intro h
      cases h
  · intro who answer
    constructor
    · intro h
      cases h
    · intro h
      rcases h with ⟨one, hone, _⟩
      cases hone

section

variable {L : LockedObject object request response effect world}
  {initial : object × world}
  {s : LockState client object request response effect world} {who : client}

theorem Linearized.notMem (h : Linearized L initial s)
    (hnone : (s.stage who).answer? = none) : who ∉ s.served.map Served.who := by
  intro hmem
  rcases List.mem_map.mp hmem with ⟨one, hone, hwho⟩
  have hanswer := (h.known who one.answer).mpr ⟨one, hone, hwho, rfl⟩
  rw [hnone] at hanswer
  cases hanswer

theorem unfinished_of_stage {stage : Stage request response effect}
    (h : s.holder = some who) (hstage : s.stage who = stage) :
    unfinished s = stage.left := by
  rw [unfinished, h, ← hstage]

theorem unfinished_of_free (h : s.holder = none) : unfinished s = [] := by
  rw [unfinished, h]

end

section

variable [DecidableEq client] {L : LockedObject object request response effect world}
  {initial : object × world}
  {s t : LockState client object request response effect world}
  {output : Option (client × response)} {who : client}

theorem Linearized.keep (h : Linearized L initial s)
    {stage : Stage request response effect} (hserved : t.served = s.served)
    (hobject : t.object = s.object) (hstage : t.stage = Function.update s.stage who stage)
    (hanswer : stage.answer? = (s.stage who).answer?) (halone : HoldsAlone t)
    (hworld : L.performAll (unfinished t) t.world =
      L.performAll (unfinished s) s.world) : Linearized L initial t := by
  refine ⟨halone, ?_, ?_, ?_⟩
  · rw [hserved, hobject, hworld, h.runs]
  · rw [hserved]
    exact h.once
  · intro other answer
    rw [hserved, ← h.known, hstage]
    by_cases hother : other = who
    · rw [hother, Function.update_self, hanswer]
    · rw [Function.update_of_ne hother]

theorem HoldsAlone.update (h : HoldsAlone s) {stage : Stage request response effect}
    (hstage : t.stage = Function.update s.stage who stage) (hholder : t.holder = s.holder)
    (hsame : stage.isHolding = (s.stage who).isHolding) : HoldsAlone t := by
  intro other
  rw [hholder, hstage, h other]
  by_cases hother : other = who
  · rw [hother, Function.update_self, hsame]
  · rw [Function.update_of_ne hother]

theorem unfinished_update {stage : Stage request response effect}
    (hleft : stage.left = (s.stage who).left) :
    unfinished { s with stage := Function.update s.stage who stage } = unfinished s := by
  rw [unfinished, unfinished]
  cases hholder : s.holder with
  | none => rfl
  | some other =>
      show (Function.update s.stage who stage other).left = (s.stage other).left
      by_cases hsame : other = who
      · rw [hsame, Function.update_self, hleft]
      · rw [Function.update_of_ne hsame]

theorem Linearized.arrive (h : Linearized L initial s) {wanted : request}
    (hstage : s.stage who = .outside) :
    Linearized L initial
      { s with stage := Function.update s.stage who (.waiting wanted) } := by
  have hleft : (Stage.waiting wanted : Stage request response effect).left =
      (s.stage who).left := by
    rw [hstage]
    rfl
  refine h.keep rfl rfl rfl ?_ (h.alone.update rfl rfl ?_) ?_
  · rw [hstage]
    rfl
  · rw [hstage]
    rfl
  · rw [unfinished_update hleft]

theorem Linearized.work (h : Linearized L initial s) {answer : response}
    {next : effect} {left : List effect}
    (hstage : s.stage who = .holding answer (next :: left)) :
    Linearized L initial
      { s with
        world := L.perform next s.world
        stage := Function.update s.stage who (.holding answer left) } := by
  have hholder : s.holder = some who := (h.alone who).mpr (by rw [hstage]; rfl)
  refine h.keep rfl rfl rfl ?_ (h.alone.update rfl rfl ?_) ?_
  · rw [hstage]
    rfl
  · rw [hstage]
    rfl
  · have hbefore : unfinished s = next :: left := unfinished_of_stage hholder hstage
    have hafter : unfinished
        { s with
          world := L.perform next s.world
          stage := Function.update s.stage who (.holding answer left) } =
        (Stage.holding answer left : Stage request response effect).left :=
      unfinished_of_stage hholder (Function.update_self who _ s.stage)
    rw [hbefore, hafter]
    rfl

theorem Linearized.release (h : Linearized L initial s) {answer : response}
    (hstage : s.stage who = .holding answer []) :
    Linearized L initial
      { s with
        holder := none
        stage := Function.update s.stage who (.leaving answer) } := by
  have hholder : s.holder = some who := (h.alone who).mpr (by rw [hstage]; rfl)
  refine h.keep rfl rfl rfl ?_ ?_ ?_
  · rw [hstage]
    rfl
  · -- Whoever else were at work would be the holder too.
    intro other
    apply iff_of_false
    · intro hother
      cases hother
    · intro hother
      change (Function.update s.stage who _ other).isHolding = true at hother
      by_cases hsame : other = who
      · rw [hsame, Function.update_self] at hother
        cases hother
      · rw [Function.update_of_ne hsame, ← h.alone, hholder] at hother
        exact hsame (Option.some.inj hother).symm
  · have hbefore : unfinished s = [] := unfinished_of_stage hholder hstage
    rw [hbefore]
    rfl

theorem Linearized.answer (h : Linearized L initial s) {answer : response}
    (hstage : s.stage who = .leaving answer) :
    Linearized L initial
      { s with stage := Function.update s.stage who (.gone answer) } := by
  have hleft : (Stage.gone answer : Stage request response effect).left =
      (s.stage who).left := by
    rw [hstage]
    rfl
  refine h.keep rfl rfl rfl ?_ (h.alone.update rfl rfl ?_) ?_
  · rw [hstage]
    rfl
  · rw [hstage]
    rfl
  · rw [unfinished_update hleft]

theorem Linearized.take (h : Linearized L initial s) {wanted : request}
    (hholder : s.holder = none) (hstage : s.stage who = .waiting wanted) :
    Linearized L initial
      { object := (L.serve wanted s.object).2.1
        world := s.world
        holder := some who
        stage := Function.update s.stage who
          (.holding (L.serve wanted s.object).1 (L.serve wanted s.object).2.2)
        served := s.served ++ [⟨who, wanted, (L.serve wanted s.object).1⟩] } := by
  have hnew : who ∉ s.served.map Served.who := h.notMem (by rw [hstage]; rfl)
  refine ⟨?_, ?_, ?_, ?_⟩
  · intro other
    show some who = some other <-> (Function.update s.stage who _ other).isHolding = true
    by_cases hsame : other = who
    · rw [hsame, Function.update_self]
      exact iff_of_true rfl rfl
    · rw [Function.update_of_ne hsame, ← h.alone, hholder]
      apply iff_of_false
      · intro heq
        exact hsame (Option.some.inj heq).symm
      · intro heq
        cases heq
  · have hruns := h.runs
    rw [unfinished_of_free hholder] at hruns
    have hlast : L.sequential.run (s.object, s.world) [wanted] =
        some ([(L.serve wanted s.object).1],
          ((L.serve wanted s.object).2.1,
            L.performAll (L.serve wanted s.object).2.2 s.world)) := rfl
    rw [List.map_append, List.map_append]
    show L.sequential.run initial (s.served.map Served.wanted ++ [wanted]) = _
    have hleft : unfinished
        { object := (L.serve wanted s.object).2.1
          world := s.world
          holder := some who
          stage := Function.update s.stage who
            (.holding (L.serve wanted s.object).1 (L.serve wanted s.object).2.2)
          served := s.served ++ [⟨who, wanted, (L.serve wanted s.object).1⟩] } =
        (Stage.holding (L.serve wanted s.object).1 (L.serve wanted s.object).2.2 :
          Stage request response effect).left :=
      unfinished_of_stage rfl (Function.update_self who _ s.stage)
    rw [TransitionSystem.run_append _ hruns hlast, hleft]
    rfl
  · rw [List.map_append, List.nodup_append]
    refine ⟨h.once, List.pairwise_singleton _ who, ?_⟩
    intro other hother last hlast heq
    rw [heq, List.mem_singleton.mp hlast] at hother
    exact hnew hother
  · intro other answer
    show (Function.update s.stage who _ other).answer? = some answer <-> _
    by_cases hsame : other = who
    · rw [hsame, Function.update_self]
      constructor
      · intro hanswer
        exact ⟨_, List.mem_append_right _ (List.mem_singleton_self _), rfl,
          Option.some.inj hanswer⟩
      · intro hanswer
        rcases hanswer with ⟨one, hone, hwho, rfl⟩
        rcases List.mem_append.mp hone with hone | hone
        · exact absurd (List.mem_map.mpr ⟨one, hone, hwho⟩) hnew
        · rw [List.mem_singleton.mp hone]
          rfl
    · rw [Function.update_of_ne hsame, h.known]
      constructor
      · intro hanswer
        rcases hanswer with ⟨one, hone, hrest⟩
        exact ⟨one, List.mem_append_left _ hone, hrest⟩
      · intro hanswer
        rcases hanswer with ⟨one, hone, hwho, hrest⟩
        rcases List.mem_append.mp hone with hone | hone
        · exact ⟨one, hone, hwho, hrest⟩
        · rw [List.mem_singleton.mp hone] at hwho
          exact absurd hwho.symm hsame

theorem Linearized.step (h : Linearized L initial s) {move : Move client request}
    (hstep : L.shared.step s move = some (output, t)) : Linearized L initial t := by
  cases move with
  | arrive who wanted =>
      rcases arrive_step hstep with ⟨hstage, _, rfl⟩
      exact h.arrive hstage
  | take who =>
      rcases take_step hstep with ⟨wanted, hholder, hstage, _, rfl⟩
      exact h.take hholder hstage
  | work who =>
      rcases work_step hstep with ⟨answer, next, left, hstage, _, rfl⟩
      exact h.work hstage
  | release who =>
      rcases release_step hstep with ⟨answer, hstage, _, rfl⟩
      exact h.release hstage
  | answer who =>
      rcases answer_step hstep with ⟨answer, hstage, _, rfl⟩
      exact h.answer hstage

theorem linearized_run {begin : object} {state : world} {moves : List (Move client request)}
    {outputs : List (Option (client × response))}
    (hrun : L.shared.run (start begin state) moves = some (outputs, s)) :
    Linearized L (begin, state) s :=
  TransitionSystem.invariant_run _ (fun _ _ _ _ h _ hstep => h.step hstep) hrun
    (fun _ _ => trivial) (linearized_start L begin state)

/-!
# What a run keeps
-/

theorem gone_step {answer : response} {move : Move client request}
    (h : s.stage who = .gone answer) (hstep : L.shared.step s move = some (output, t)) :
    t.stage who = .gone answer := by
  have hother : forall other stage, s.stage other ≠ .gone answer ->
      Function.update s.stage other stage who = .gone answer := by
    intro other stage hne
    have hsame : who ≠ other := fun heq => hne (heq ▸ h)
    rw [Function.update_of_ne hsame, h]
  cases move with
  | arrive other wanted =>
      rcases arrive_step hstep with ⟨hstage, _, rfl⟩
      exact hother other _ (by rw [hstage]; exact fun heq => nomatch heq)
  | take other =>
      rcases take_step hstep with ⟨wanted, _, hstage, _, rfl⟩
      exact hother other _ (by rw [hstage]; exact fun heq => nomatch heq)
  | work other =>
      rcases work_step hstep with ⟨_, _, _, hstage, _, rfl⟩
      exact hother other _ (by rw [hstage]; exact fun heq => nomatch heq)
  | release other =>
      rcases release_step hstep with ⟨_, hstage, _, rfl⟩
      exact hother other _ (by rw [hstage]; exact fun heq => nomatch heq)
  | answer other =>
      rcases answer_step hstep with ⟨_, hstage, _, rfl⟩
      exact hother other _ (by rw [hstage]; exact fun heq => nomatch heq)

theorem gone_of_output_step {answer : response} {move : Move client request}
    (hstep : L.shared.step s move = some (some (who, answer), t)) :
    t.stage who = .gone answer := by
  cases move with
  | arrive other wanted => cases (arrive_step hstep).2.1
  | take other =>
      rcases take_step hstep with ⟨_, _, _, houtput, _⟩
      cases houtput
  | work other =>
      rcases work_step hstep with ⟨_, _, _, _, houtput, _⟩
      cases houtput
  | release other =>
      rcases release_step hstep with ⟨_, _, houtput, _⟩
      cases houtput
  | answer other =>
      rcases answer_step hstep with ⟨_, _, houtput, rfl⟩
      cases houtput
      exact Function.update_self who _ s.stage

theorem gone_run {answer : response} {moves : List (Move client request)}
    {outputs : List (Option (client × response))}
    (hrun : L.shared.run s moves = some (outputs, t)) (h : s.stage who = .gone answer) :
    t.stage who = .gone answer :=
  TransitionSystem.invariant_run _ (fun _ _ _ _ hgone _ hstep => gone_step hgone hstep) hrun
    (fun _ _ => trivial) h

theorem gone_of_output {answer : response} {moves : List (Move client request)}
    {outputs : List (Option (client × response))}
    (hrun : L.shared.run s moves = some (outputs, t))
    (h : some (who, answer) ∈ outputs) : t.stage who = .gone answer := by
  induction moves generalizing s outputs with
  | nil =>
      cases hrun
      cases h
  | cons move rest ih =>
      rcases L.shared.run_cons_some hrun with ⟨first, mid, tail, hstep, hrest, rfl⟩
      rcases List.mem_cons.mp h with hfirst | htail
      · rw [← hfirst] at hstep
        exact gone_run hrest (gone_of_output_step hstep)
      · exact ih hrest htail

theorem served_step {move : Move client request}
    (hstep : L.shared.step s move = some (output, t)) : s.served <+: t.served := by
  cases move with
  | arrive other wanted =>
      rcases arrive_step hstep with ⟨_, _, rfl⟩
      exact List.prefix_refl _
  | take other =>
      rcases take_step hstep with ⟨wanted, _, _, _, rfl⟩
      exact List.prefix_append _ _
  | work other =>
      rcases work_step hstep with ⟨_, _, _, _, _, rfl⟩
      exact List.prefix_refl _
  | release other =>
      rcases release_step hstep with ⟨_, _, _, rfl⟩
      exact List.prefix_refl _
  | answer other =>
      rcases answer_step hstep with ⟨_, _, _, rfl⟩
      exact List.prefix_refl _

theorem served_run {moves : List (Move client request)}
    {outputs : List (Option (client × response))}
    (hrun : L.shared.run s moves = some (outputs, t)) : s.served <+: t.served := by
  have hkeep : forall (u : LockState client object request response effect world)
      (move : Move client request) output v, s.served <+: u.served -> True ->
      L.shared.step u move = some (output, v) -> s.served <+: v.served :=
    fun _ _ _ _ hserved _ hstep => hserved.trans (served_step hstep)
  exact L.shared.invariant_run hkeep hrun (fun _ _ => trivial) (List.prefix_refl s.served)

end

/-!
# The order of the answers
-/

def ServedBefore (s : LockState client object request response effect world)
    (first second : client) : Prop :=
  exists front back, s.served = front ++ back ∧ first ∈ front.map Served.who ∧
    second ∉ front.map Served.who

section

variable [DecidableEq client] {L : LockedObject object request response effect world}
  {initial : object × world}
  {s t : LockState client object request response effect world}

theorem exists_served_of_output {who : client} {answer : response}
    {moves : List (Move client request)} {outputs : List (Option (client × response))}
    (h : Linearized L initial t) (hrun : L.shared.run s moves = some (outputs, t))
    (houtput : some (who, answer) ∈ outputs) :
    exists one, one ∈ t.served ∧ one.who = who ∧ one.answer = answer :=
  (h.known who answer).mp (by rw [gone_of_output hrun houtput]; rfl)

theorem servedBefore_of_run {early late : client} {answer : response} {wanted : request}
    {first rest : List (Move client request)}
    {outputs outputs' : List (Option (client × response))}
    {begin : LockState client object request response effect world}
    (h : Linearized L initial s) (hfirst : L.shared.run begin first = some (outputs, s))
    (hrest : L.shared.run s (.arrive late wanted :: rest) = some (outputs', t))
    (houtput : some (early, answer) ∈ outputs) : ServedBefore t early late := by
  rcases served_run hrest with ⟨back, hback⟩
  rcases exists_served_of_output h hfirst houtput with ⟨one, hone, hwho, _⟩
  rcases L.shared.run_cons_some hrest with ⟨_, _, _, hstep, _, _⟩
  have hlate : s.stage late = .outside := (arrive_step hstep).1
  have hnew : late ∉ s.served.map Served.who := h.notMem (by rw [hlate]; rfl)
  exact ⟨s.served, back, hback.symm, List.mem_map.mpr ⟨one, hone, hwho⟩, hnew⟩

end

/-!
# Where a request comes from
-/

section

variable [DecidableEq client] {L : LockedObject object request response effect world}
  {s t : LockState client object request response effect world}

def Asks (s : LockState client object request response effect world) (who : client)
    (wanted : request) : Prop :=
  s.stage who = .waiting wanted ∨
    exists one, one ∈ s.served ∧ one.who = who ∧ one.wanted = wanted

theorem asks_update {who other : client} {wanted : request}
    {stage : Stage request response effect} (h : Asks t who wanted)
    (hserved : t.served = s.served)
    (hupdate : t.stage = Function.update s.stage other stage)
    (hstage : forall w, stage ≠ .waiting w) : Asks s who wanted := by
  rcases h with hwaiting | hserves
  · rw [hupdate] at hwaiting
    by_cases hsame : who = other
    · rw [hsame, Function.update_self] at hwaiting
      exact absurd hwaiting (hstage wanted)
    · rw [Function.update_of_ne hsame] at hwaiting
      exact Or.inl hwaiting
  · rw [hserved] at hserves
    exact Or.inr hserves

theorem asks_step {move : Move client request} {output : Option (client × response)}
    (hstep : L.shared.step s move = some (output, t)) {who : client} {wanted : request}
    (h : Asks t who wanted) : Asks s who wanted ∨ move = .arrive who wanted := by
  cases move with
  | arrive other asked =>
      rcases arrive_step hstep with ⟨_, _, rfl⟩
      rcases h with hwaiting | hserves
      · change Function.update s.stage other (.waiting asked) who = .waiting wanted
          at hwaiting
        by_cases hsame : who = other
        · rw [hsame, Function.update_self] at hwaiting
          cases hwaiting
          rw [hsame]
          exact Or.inr rfl
        · rw [Function.update_of_ne hsame] at hwaiting
          exact Or.inl (Or.inl hwaiting)
      · exact Or.inl (Or.inr hserves)
  | take other =>
      rcases take_step hstep with ⟨asked, _, hstage, _, rfl⟩
      left
      rcases h with hwaiting | hserves
      · change Function.update s.stage other _ who = .waiting wanted at hwaiting
        by_cases hsame : who = other
        · rw [hsame, Function.update_self] at hwaiting
          cases hwaiting
        · rw [Function.update_of_ne hsame] at hwaiting
          exact Or.inl hwaiting
      · rcases hserves with ⟨one, hone, hwho, hwanted⟩
        rcases List.mem_append.mp hone with hone | hone
        · exact Or.inr ⟨one, hone, hwho, hwanted⟩
        · rw [List.mem_singleton.mp hone] at hwho hwanted
          change other = who at hwho
          change asked = wanted at hwanted
          rw [← hwho, ← hwanted]
          exact Or.inl hstage
  | work other =>
      rcases work_step hstep with ⟨_, _, _, _, _, rfl⟩
      exact Or.inl (asks_update h rfl rfl fun _ heq => nomatch heq)
  | release other =>
      rcases release_step hstep with ⟨_, _, _, rfl⟩
      exact Or.inl (asks_update h rfl rfl fun _ heq => nomatch heq)
  | answer other =>
      rcases answer_step hstep with ⟨_, _, _, rfl⟩
      exact Or.inl (asks_update h rfl rfl fun _ heq => nomatch heq)

theorem asks_run {moves : List (Move client request)}
    {outputs : List (Option (client × response))}
    (hrun : L.shared.run s moves = some (outputs, t)) {who : client} {wanted : request}
    (h : Asks t who wanted) : Asks s who wanted ∨ .arrive who wanted ∈ moves := by
  induction moves generalizing s outputs with
  | nil =>
      cases hrun
      exact Or.inl h
  | cons move rest ih =>
      rcases L.shared.run_cons_some hrun with ⟨_, mid, _, hstep, hrest, _⟩
      rcases ih hrest with hmid | hlater
      · rcases asks_step hstep hmid with hbefore | hmove
        · exact Or.inl hbefore
        · rw [hmove]
          exact Or.inr List.mem_cons_self
      · exact Or.inr (List.mem_cons_of_mem move hlater)

theorem arrived_of_served {initial : object} {state : world}
    {moves : List (Move client request)} {outputs : List (Option (client × response))}
    (hrun : L.shared.run (start initial state) moves = some (outputs, t))
    {one : Served client request response} (hone : one ∈ t.served) :
    .arrive one.who one.wanted ∈ moves := by
  rcases asks_run hrun (Or.inr ⟨one, hone, rfl, rfl⟩) with hstart | harrived
  · rcases hstart with hwaiting | hserved
    · cases hwaiting
    · rcases hserved with ⟨_, hnone, _⟩
      cases hnone
  · exact harrived

end

/-!
# In the middle of the work
-/

section

variable [DecidableEq client] {L : LockedObject object request response effect world}
  {initial : object × world}
  {s t : LockState client object request response effect world}

end

/-!
# No client waits for ever
-/

section

variable [DecidableEq client] {L : LockedObject object request response effect world}
  {s : LockState client object request response effect world} {who : client}

theorem step_work {answer : response} {next : effect} {left : List effect}
    (h : s.stage who = .holding answer (next :: left)) :
    L.shared.step s (.work who) =
      some (none,
        { s with
          world := L.perform next s.world
          stage := Function.update s.stage who (.holding answer left) }) := by
  simp only [shared, h]

theorem run_finish {answer : response} {left : List effect}
    (h : s.stage who = .holding answer left) :
    exists outputs,
      L.shared.run s (List.replicate left.length (.work who) ++ [.release who]) =
        some (outputs,
          { s with
            world := L.performAll left s.world
            holder := none
            stage := Function.update s.stage who (.leaving answer) }) := by
  induction left generalizing s with
  | nil =>
      have hstep : L.shared.step s (.release who) =
          some (none,
            { s with
              holder := none
              stage := Function.update s.stage who (.leaving answer) }) := by
        simp only [shared, h]
      exact ⟨[none], by rw [List.length_nil, List.replicate_zero, List.nil_append,
        L.shared.run_cons_of_step hstep]; rfl⟩
  | cons next rest ih =>
      have hstage : LockState.stage
          { s with
            world := L.perform next s.world
            stage := Function.update s.stage who (.holding answer rest) } who =
          .holding answer rest := Function.update_self who _ s.stage
      rcases ih hstage with ⟨outputs, hrest⟩
      refine ⟨none :: outputs, ?_⟩
      rw [List.length_cons, List.replicate_succ, List.cons_append,
        L.shared.run_cons_of_step (step_work h), hrest]
      simp only [Function.update_idem]
      rfl

theorem run_alone {wanted : request} (hholder : s.holder = none)
    (h : s.stage who = .waiting wanted) :
    exists moves outputs t answer, L.shared.run s moves = some (outputs, t) ∧
      t.stage who = .gone answer ∧ (forall move, move ∈ moves -> move.who = who) ∧
      moves.length = (L.serve wanted s.object).2.2.length + 3 := by
  have htake : exists t, L.shared.step s (.take who) = some (none, t) ∧
      t.stage who = .holding (L.serve wanted s.object).1 (L.serve wanted s.object).2.2 := by
    simp only [shared, hholder, h]
    exact ⟨_, rfl, Function.update_self who _ s.stage⟩
  rcases htake with ⟨t, hstep, hstage⟩
  rcases run_finish hstage with ⟨outputs, hfinish⟩
  have hanswer : L.shared.step
      { t with
        world := L.performAll (L.serve wanted s.object).2.2 t.world
        holder := none
        stage := Function.update t.stage who (.leaving (L.serve wanted s.object).1) }
      (.answer who) =
        some (some (who, (L.serve wanted s.object).1),
          { t with
            world := L.performAll (L.serve wanted s.object).2.2 t.world
            holder := none
            stage := Function.update t.stage who (.gone (L.serve wanted s.object).1) }) := by
    simp only [shared, Function.update_self, Function.update_idem]
  have hlast := L.shared.run_cons_of_step hanswer []
  have hwhole := L.shared.run_append hfinish hlast
  have hrun := L.shared.run_cons_of_step hstep
    (List.replicate (L.serve wanted s.object).2.2.length (.work who) ++ [.release who] ++
      [.answer who])
  rw [hwhole] at hrun
  refine ⟨_, _, _, _, hrun, Function.update_self who _ _, ?_, ?_⟩
  · intro move hmove
    simp only [List.mem_cons, List.mem_append, List.mem_replicate, List.not_mem_nil,
      or_false] at hmove
    rcases hmove with rfl | (⟨_, rfl⟩ | rfl) | rfl
    all_goals rfl
  · simp

end

end LockedObject

end Foundation

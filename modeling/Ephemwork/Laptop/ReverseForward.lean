import Ephemwork.Foundation.StopFlag
import Ephemwork.Foundation.TransitionSystem
import Ephemwork.Laptop.Bridge

/-!
# Reverse forwards

`ReverseForward` of `src/tunnel.rs` and the threads that `open_ssh2_reverse_forward`
starts: a worker that accepts connections from the bastion, and for each of them a
thread that bridges it to the local service.  They share the flag `stop`, which the
owner of the forward sets, and the worker sets `dead` when the session is lost.  What
libssh2 and the local sockets do comes with the moves.
-/

namespace Ephemwork

open Foundation

namespace Laptop

/-!
# The loops of the threads
-/

inductive ErrorCode where
  | session (code : Int)
  | sftp (code : Int)
deriving DecidableEq, Repr

def libssh2ErrorEagain : Int := -37

def errorCodeIsEagain : ErrorCode -> Bool
  | .session code => code == libssh2ErrorEagain
  | .sftp _ => false

def isFatalSshError (code : ErrorCode) : Bool :=
  !errorCodeIsEagain code

inductive AcceptResult where
  | channel
  | failed (code : ErrorCode)
deriving DecidableEq, Repr

/-- The worker; it remembers whether the session is lost. -/
def acceptLoop : PolledLoop AcceptResult Bool where
  isOver := fun _ => false
  body := fun result lost =>
    match result with
    | .channel => (.again, lost)
    | .failed code => if isFatalSshError code then (.leave, true) else (.pause, lost)

/-- The loop of `bridge_bidirectional`, which pauses after a round that moved
nothing. -/
def bridgeLoop {left right : Type} (peerA : Peer left) (peerB : Peer right) :
    PolledLoop Unit (BridgeState left right) where
  isOver := fun s => s.aDone && s.bDone
  body := fun _ s =>
    match bridgeBody peerA peerB s with
    | (.error _, next) => (.leave, next)
    | (.ok (), next) =>
        (if next.aToB = s.aToB ∧ next.bToA = s.bToA then .pause else .again, next)

/-- `handle_accepted_channel` on a thread of its own. -/
inductive BridgeThread (left right : Type) where
  | connecting
  /-- It leaves the loop to close the channel. -/
  | bridging (loop : LoopState (BridgeState left right))
  /-- There was no connection to the local port. -/
  | refused

def BridgeThread.rounds {left right : Type} : BridgeThread left right -> Nat
  | .bridging loop => loop.phase.rounds
  | _ => 0

structure ReverseForward (left right : Type) where
  stop : Bool
  dead : Bool
  worker : LoopState Bool
  /-- In the order in which they were accepted. -/
  bridges : List (BridgeThread left right)

inductive ForwardMove (left right : Type) where
  | worker (move : LoopMove AcceptResult)
  | connect (index : Nat) (sockets : Option (left × right))
  | bridge (index : Nat) (move : LoopMove Unit)

namespace ForwardMove

variable {left right : Type}

def isWorker : ForwardMove left right -> Bool
  | .worker _ => true
  | _ => false

def isAccept : ForwardMove left right -> Bool
  | .worker move => move.isWork
  | _ => false

def isRound (index : Nat) : ForwardMove left right -> Bool
  | .bridge other move => other == index && move.isWork
  | _ => false

end ForwardMove

namespace ReverseForward

variable {left right : Type}

def opened : ReverseForward left right where
  stop := false
  dead := false
  worker := .start false
  bridges := []

def afterConnect : Option (left × right) -> BridgeThread left right
  | none => .refused
  | some (a, b) => .bridging (.start (.initial a b))

/-- What the worker's move does besides: an accepted channel gets its thread, and a
worker that leaves because the session is lost says so. -/
def afterWorker (f : ReverseForward left right) (move : LoopMove AcceptResult)
    (worker : LoopState Bool) : ReverseForward left right :=
  match move with
  | .work .channel => { f with worker := worker, bridges := f.bridges ++ [.connecting] }
  | .leave => { f with worker := worker, dead := f.dead || f.worker.memory }
  | _ => { f with worker := worker }

variable (peerA : Peer left) (peerB : Peer right)

def step (f : ReverseForward left right) :
    ForwardMove left right -> Option (ReverseForward left right)
  | .worker move =>
      (acceptLoop.step f.stop f.worker move).map (f.afterWorker move)
  | .connect index sockets =>
      match f.bridges[index]? with
      | some .connecting =>
          some { f with bridges := f.bridges.set index (afterConnect sockets) }
      | _ => none
  | .bridge index move =>
      match f.bridges[index]? with
      | some (.bridging loop) =>
          ((bridgeLoop peerA peerB).step f.stop loop move).map fun loop =>
            { f with bridges := f.bridges.set index (.bridging loop) }
      | _ => none

def isDead (f : ReverseForward left right) : Bool :=
  f.dead

def setStop (f : ReverseForward left right) : ReverseForward left right :=
  { f with stop := true }

def canJoin (f : ReverseForward left right) : Bool :=
  decide (f.worker.phase = .finished)

/-!
# What a move changes
-/

variable {peerA peerB} {f g : ReverseForward left right}

inductive Stepped (peerA : Peer left) (peerB : Peer right) (f : ReverseForward left right) :
    ForwardMove left right -> ReverseForward left right -> Prop where
  | worker (move : LoopMove AcceptResult) (worker : LoopState Bool)
      (stepped : PolledLoop.Stepped acceptLoop f.stop f.worker move worker) :
      Stepped peerA peerB f (.worker move) (f.afterWorker move worker)
  | connect (index : Nat) (sockets : Option (left × right))
      (connecting : f.bridges[index]? = some .connecting) :
      Stepped peerA peerB f (.connect index sockets)
        { f with bridges := f.bridges.set index (afterConnect sockets) }
  | bridge (index : Nat) (move : LoopMove Unit)
      (loop loop' : LoopState (BridgeState left right))
      (bridging : f.bridges[index]? = some (.bridging loop))
      (stepped : (bridgeLoop peerA peerB).step f.stop loop move = some loop') :
      Stepped peerA peerB f (.bridge index move)
        { f with bridges := f.bridges.set index (.bridging loop') }

theorem step_cases {move : ForwardMove left right} (h : step peerA peerB f move = some g) :
    Stepped peerA peerB f move g := by
  cases move with
  | worker move =>
      simp only [step, Option.map_eq_some_iff] at h
      rcases h with ⟨worker, hworker, rfl⟩
      exact .worker move worker (PolledLoop.step_cases hworker)
  | connect index sockets =>
      simp only [step] at h
      split at h
      · next hconnecting =>
          cases h
          exact .connect index sockets hconnecting
      · cases h
  | bridge index move =>
      simp only [step] at h
      split at h
      · next loop hbridging =>
          rw [Option.map_eq_some_iff] at h
          rcases h with ⟨loop', hloop, rfl⟩
          exact .bridge index move loop loop' hbridging hloop
      · cases h

@[simp] theorem afterWorker_worker (move : LoopMove AcceptResult)
    (worker : LoopState Bool) : (f.afterWorker move worker).worker = worker := by
  unfold afterWorker
  split <;> rfl

@[simp] theorem afterWorker_stop (move : LoopMove AcceptResult)
    (worker : LoopState Bool) : (f.afterWorker move worker).stop = f.stop := by
  unfold afterWorker
  split <;> rfl

theorem stop_step {move : ForwardMove left right} (h : step peerA peerB f move = some g) :
    g.stop = f.stop := by
  cases step_cases h with
  | worker move worker stepped => exact afterWorker_stop move worker
  | connect index sockets connecting => rfl
  | bridge index move loop loop' bridging stepped => rfl

theorem finished_step {move : ForwardMove left right}
    (h : step peerA peerB f move = some g) (hfinished : f.worker.phase = .finished) :
    g.worker = f.worker := by
  cases step_cases h with
  | worker move worker stepped =>
      cases stepped with
      | check hphase => rw [hfinished] at hphase; cases hphase
      | work given hphase => rw [hfinished] at hphase; cases hphase
      | resume hphase => rw [hfinished] at hphase; cases hphase
      | leave hphase => rw [hfinished] at hphase; cases hphase
  | connect index sockets connecting => rfl
  | bridge index move loop loop' bridging stepped => rfl

theorem lost_step {move : ForwardMove left right} (h : step peerA peerB f move = some g)
    (hlost : g.worker.memory = true) :
    f.worker.memory = true ∨
      exists code, isFatalSshError code = true ∧
        move = .worker (.work (.failed code)) := by
  cases step_cases h with
  | worker move worker stepped =>
      rw [afterWorker_worker] at hlost
      cases stepped with
      | check hphase => exact Or.inl hlost
      | work given hphase =>
          cases given with
          | channel => exact Or.inl hlost
          | failed code =>
              cases hfatal : isFatalSshError code with
              | true => exact Or.inr ⟨code, hfatal, rfl⟩
              | false =>
                  simp only [acceptLoop, hfatal, Bool.false_eq_true, if_false] at hlost
                  exact Or.inl hlost
      | resume hphase => exact Or.inl hlost
      | leave hphase => exact Or.inl hlost
  | connect index sockets connecting => exact Or.inl hlost
  | bridge index move loop loop' bridging stepped => exact Or.inl hlost

theorem lost_of_step {move : ForwardMove left right}
    (h : step peerA peerB f move = some g)
    (hlost : f.worker.memory = true ∨
      exists code, isFatalSshError code = true ∧
        move = .worker (.work (.failed code))) : g.worker.memory = true := by
  cases step_cases h with
  | worker move worker stepped =>
      rw [afterWorker_worker]
      cases stepped with
      | check hphase => exact hlost.resolve_right fun ⟨_, _, h⟩ => by cases h
      | work given hphase =>
          rcases hlost with hbefore | ⟨code, hfatal, heq⟩
          · cases given with
            | channel => exact hbefore
            | failed code =>
                cases hfatal : isFatalSshError code with
                | true => simp [acceptLoop, hfatal]
                | false => simp [acceptLoop, hfatal, hbefore]
          · cases heq
            simp [acceptLoop, hfatal]
      | resume hphase => exact hlost.resolve_right fun ⟨_, _, h⟩ => by cases h
      | leave hphase => exact hlost.resolve_right fun ⟨_, _, h⟩ => by cases h
  | connect index sockets connecting =>
      exact hlost.resolve_right fun ⟨_, _, h⟩ => by cases h
  | bridge index move loop loop' bridging stepped =>
      exact hlost.resolve_right fun ⟨_, _, h⟩ => by cases h

/-- A worker that has lost the session is about to set the flag and return, and then
has; nothing else sets it. -/
structure Ok (f : ReverseForward left right) : Prop where
  lost : f.worker.memory = true ->
    f.worker.phase = .leaving ∨ f.worker.phase = .finished ∧ f.dead = true
  dead : f.dead = true -> f.worker.memory = true

theorem ok_opened : (opened : ReverseForward left right).Ok :=
  ⟨fun h => absurd h Bool.false_ne_true, fun h => absurd h Bool.false_ne_true⟩

theorem ok_setStop (h : f.Ok) : f.setStop.Ok :=
  ⟨h.lost, h.dead⟩

theorem ok_step {move : ForwardMove left right} (hok : f.Ok)
    (h : step peerA peerB f move = some g) : g.Ok := by
  cases step_cases h with
  | worker move worker stepped =>
      cases stepped with
      | check hphase =>
          refine ⟨fun hlost => ?_, hok.dead⟩
          rcases hok.lost hlost with hleaving | ⟨hfinished, _⟩
          · rw [hphase] at hleaving
            cases hleaving
          · rw [hphase] at hfinished
            cases hfinished
      | work given hphase =>
          have hnew : f.worker.memory = false := by
            cases hmemory : f.worker.memory with
            | false => rfl
            | true =>
                rcases hok.lost hmemory with hleaving | ⟨hfinished, _⟩
                · rw [hphase] at hleaving
                  cases hleaving
                · rw [hphase] at hfinished
                  cases hfinished
          have halive : f.dead ≠ true := by
            intro hdead
            rw [hok.dead hdead] at hnew
            cases hnew
          cases given with
          | channel =>
              refine ⟨fun hlost => ?_, fun hdead => absurd hdead halive⟩
              rw [afterWorker_worker] at hlost
              simp only [acceptLoop, hnew] at hlost
              cases hlost
          | failed code =>
              refine ⟨fun hlost => ?_, fun hdead => absurd hdead halive⟩
              rw [afterWorker_worker] at hlost ⊢
              cases hfatal : isFatalSshError code with
              | true =>
                  simp only [acceptLoop, hfatal, if_true]
                  exact Or.inl rfl
              | false =>
                  simp only [acceptLoop, hfatal, hnew, Bool.false_eq_true, if_false] at hlost
      | resume hphase =>
          refine ⟨fun hlost => ?_, hok.dead⟩
          rcases hok.lost hlost with hleaving | ⟨hfinished, _⟩
          · rw [hphase] at hleaving
            cases hleaving
          · rw [hphase] at hfinished
            cases hfinished
      | leave hphase =>
          constructor
          · intro hlost
            have hlost' : f.worker.memory = true := hlost
            exact Or.inr ⟨rfl, by simp [afterWorker, hlost']⟩
          · intro hdead
            simp only [afterWorker, Bool.or_eq_true] at hdead
            rcases hdead with hdead | hlost
            · exact hok.dead hdead
            · exact hlost
  | connect index sockets connecting => exact ⟨hok.lost, hok.dead⟩
  | bridge index move loop loop' bridging stepped => exact ⟨hok.lost, hok.dead⟩

/-!
# Once the flag is set
-/

theorem left_step {move : ForwardMove left right} (hstop : f.stop = true)
    (h : step peerA peerB f move = some g) :
    g.worker.phase.left + move.isWorker.toNat ≤ f.worker.phase.left := by
  cases move with
  | worker move =>
      simp only [step, Option.map_eq_some_iff, hstop] at h
      rcases h with ⟨worker, hworker, rfl⟩
      rw [afterWorker_worker]
      exact PolledLoop.left_step hworker
  | connect index sockets =>
      cases step_cases h
      exact Nat.le_refl _
  | bridge index move =>
      cases step_cases h
      exact Nat.le_refl _

theorem accepts_step {move : ForwardMove left right} (hstop : f.stop = true)
    (h : step peerA peerB f move = some g) :
    g.worker.phase.rounds + move.isAccept.toNat ≤ f.worker.phase.rounds := by
  cases move with
  | worker move =>
      simp only [step, Option.map_eq_some_iff, hstop] at h
      rcases h with ⟨worker, hworker, rfl⟩
      rw [afterWorker_worker]
      exact PolledLoop.rounds_step hworker
  | connect index sockets =>
      cases step_cases h
      exact Nat.le_refl _
  | bridge index move =>
      cases step_cases h
      exact Nat.le_refl _

def roundsAt (f : ReverseForward left right) (index : Nat) : Nat :=
  (f.bridges[index]?.map BridgeThread.rounds).getD 0

theorem roundsAt_le (index : Nat) : f.roundsAt index ≤ 1 := by
  unfold roundsAt
  cases f.bridges[index]? with
  | none => exact Nat.zero_le 1
  | some bridge =>
      cases bridge with
      | connecting => exact Nat.zero_le 1
      | bridging loop => exact loop.phase.rounds_le
      | refused => exact Nat.zero_le 1

theorem roundsAt_set {index other : Nat} {old bridge : BridgeThread left right}
    (hold : f.bridges[index]? = some old) :
    ({ f with bridges := f.bridges.set index bridge } :
        ReverseForward left right).roundsAt other =
      if other = index then bridge.rounds else f.roundsAt other := by
  have hlength : index < f.bridges.length := (List.getElem?_eq_some_iff.mp hold).1
  unfold roundsAt
  rw [List.getElem?_set]
  by_cases hsame : other = index
  · subst hsame
    simp [hlength]
  · rw [if_neg (fun h => hsame h.symm), if_neg hsame]

theorem rounds_step {move : ForwardMove left right} (hstop : f.stop = true) (index : Nat)
    (h : step peerA peerB f move = some g) :
    g.roundsAt index + (move.isRound index).toNat ≤ f.roundsAt index := by
  cases step_cases h with
  | worker move worker stepped =>
      have hsame : (f.afterWorker move worker).roundsAt index = f.roundsAt index := by
        unfold afterWorker
        split
        · unfold roundsAt
          simp only [List.getElem?_append]
          split
          · rfl
          · next hbeyond =>
              rw [List.getElem?_eq_none (Nat.le_of_not_lt hbeyond)]
              cases hnew : ([BridgeThread.connecting] :
                  List (BridgeThread left right))[index - f.bridges.length]? with
              | none => rfl
              | some bridge =>
                  rw [List.mem_singleton.mp (List.mem_of_getElem? hnew)]
                  rfl
        · rfl
        · rfl
      rw [hsame]
      exact Nat.le_refl _
  | connect other sockets connecting =>
      rw [roundsAt_set connecting]
      split
      · cases sockets with
        | none => exact Nat.zero_le _
        | some pair => exact Nat.zero_le _
      · exact Nat.le_refl _
  | bridge other move loop loop' bridging stepped =>
      rw [hstop] at stepped
      have hrounds := PolledLoop.rounds_step stepped
      rw [roundsAt_set bridging]
      by_cases hsame : index = other
      · subst hsame
        rw [if_pos rfl]
        simpa [ForwardMove.isRound, roundsAt, bridging, BridgeThread.rounds] using hrounds
      · rw [if_neg hsame]
        have hother : (other == index) = false := by
          rw [beq_eq_false_iff_ne]
          exact fun h => hsame h.symm
        simp [ForwardMove.isRound, hother]

end ReverseForward

end Laptop

end Ephemwork

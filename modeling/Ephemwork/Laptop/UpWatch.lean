import Ephemwork.Laptop.Headers
import Ephemwork.Laptop.ReverseForward
import Ephemwork.Laptop.UpResources

/-!
# Watching over a session

`up` of `src/main.rs` after `up_service` has returned: it waits for Ctrl-C, for SIGTERM
or for the death of the reverse forward, deregisters, and drops the session field by
field, while the threads of the reverse forward go on.  Their steps interleave in any
order.
-/

namespace Ephemwork

open Foundation
open Bastion (SerdeJson)

namespace Laptop

/-!
# The system
-/

inductive Exit where
  | ctrlC
  | sigterm
  | tunnelDied
  /-- A signal handler could not be installed. -/
  | signalError
deriving DecidableEq, Repr

def Exit.code : Exit -> Nat
  | .ctrlC => 0
  | .sigterm => 0
  | .tunnelDied => 2
  | .signalError => 1

inductive MainPhase where
  /-- `up_service` has opened the reverse forward, and SIGTERM has no handler yet. -/
  | installing
  /-- In the `select!`. -/
  | waiting
  | deregistering (exit : Exit)
  /-- Before the drop of what comes next. -/
  | dropping (exit : Exit)
  /-- In the drop of the reverse forward, after `stop` has been set. -/
  | joining (exit : Exit)
  | exited (exit : Exit)
deriving DecidableEq, Repr

namespace MainPhase

def exit? : MainPhase -> Option Exit
  | .installing => none
  | .waiting => none
  | .deregistering exit => some exit
  | .dropping exit => some exit
  | .joining exit => some exit
  | .exited exit => some exit

/-- Whether the bastion has been told, where the exit is one that tells it. -/
def told : MainPhase -> Bool
  | .dropping exit => exit != .signalError
  | .joining exit => exit != .signalError
  | .exited exit => exit != .signalError
  | _ => false

def exitCode? : MainPhase -> Option Nat
  | .exited exit => some exit.code
  | _ => none

def isExited : MainPhase -> Bool
  | .exited _ => true
  | _ => false

def isEarly : MainPhase -> Bool
  | .installing => true
  | .waiting => true
  | .deregistering _ => true
  | _ => false

def isLate : MainPhase -> Bool
  | .joining _ => true
  | .exited _ => true
  | _ => false

end MainPhase

structure Watch (world left right : Type) where
  phase : MainPhase
  /-- A worker's session has none. -/
  reverse : Option (ReverseForward left right)
  bastion : world
  ledger : Ledger Resource

inductive WatchMove (left right : Type) where
  /-- `signal(SignalKind::terminate())` -/
  | install (installed : Bool)
  | ctrlC (received : Bool)
  | sigterm
  /-- A turn of `wait_for_tunnel_death`. -/
  | look
  | deregister
  | drop
  | join
  | forward (move : ForwardMove left right)

namespace WatchMove

variable {left right : Type}

def isMain : WatchMove left right -> Bool
  | .deregister => true
  | .drop => true
  | .join => true
  | _ => false

def isWorker : WatchMove left right -> Bool
  | .forward move => move.isWorker
  | _ => false

def isAccept : WatchMove left right -> Bool
  | .forward move => move.isAccept
  | _ => false

def isRound (index : Nat) : WatchMove left right -> Bool
  | .forward move => move.isRound index
  | _ => false

end WatchMove

section System

variable {world left right : Type} (serde : SerdeJson)
  (exchange : world -> BastionEndpoint -> Bytes -> Except String Bytes × world)
  (peerA : Peer left) (peerB : Peer right) (session : ActiveSession)

namespace Watch

/-- The session as `up_service` returned it; the threads run since the reverse forward
was opened. -/
def start (ledger : Ledger Resource) (bastion : world) : Watch world left right where
  phase := .installing
  reverse := session.localPort.map fun _ => .opened
  bastion := bastion
  ledger := ledger

def tunnelIsDead (s : Watch world left right) : Bool :=
  (s.reverse.map ReverseForward.isDead).getD false

def dropNext (s : Watch world left right) (exit : Exit) : Watch world left right :=
  match Ledger.next s.ledger.scope with
  | none => { s with phase := .exited exit }
  | some (r, rest) =>
      if r.isReverse then
        { s with
          phase := .joining exit
          reverse := s.reverse.map ReverseForward.setStop }
      else
        { s with ledger := s.ledger.release r rest }

def step (s : Watch world left right) :
    WatchMove left right -> Option (Watch world left right)
  | .install installed =>
      if s.phase = .installing then
        some { s with phase := if installed then .waiting else .dropping .signalError }
      else
        none
  | .ctrlC received =>
      if s.phase = .waiting then
        some { s with
          phase := if received then .deregistering .ctrlC else .dropping .signalError }
      else
        none
  | .sigterm =>
      if s.phase = .waiting then some { s with phase := .deregistering .sigterm } else none
  | .look =>
      if s.phase = .waiting then
        some { s with
          phase := if s.tunnelIsDead then .deregistering .tunnelDied else .waiting }
      else
        none
  | .deregister =>
      match s.phase with
      | .deregistering exit =>
          some { s with
            phase := .dropping exit
            bastion := session.shutdown serde exchange s.bastion }
      | _ => none
  | .drop =>
      match s.phase with
      | .dropping exit => some (s.dropNext exit)
      | _ => none
  | .join =>
      match s.phase, s.reverse, Ledger.next s.ledger.scope with
      | .joining exit, some forward, some (r, rest) =>
          if forward.canJoin then
            some { s with phase := .dropping exit, ledger := s.ledger.release r rest }
          else
            none
      | _, _, _ => none
  | .forward move =>
      match s.reverse with
      | none => none
      | some forward =>
          if s.phase.isExited then
            none
          else
            (forward.step peerA peerB move).map fun forward =>
              { s with reverse := some forward }

end Watch

def watchSystem : TransitionSystem (Watch world left right) (WatchMove left right) Unit where
  step := fun s move =>
    (s.step serde exchange peerA peerB session move).map fun t => ((), t)

namespace Watch

variable {serde exchange peerA peerB session} {s t : Watch world left right}

inductive Stepped (serde : SerdeJson)
    (exchange : world -> BastionEndpoint -> Bytes -> Except String Bytes × world)
    (peerA : Peer left) (peerB : Peer right) (session : ActiveSession)
    (s : Watch world left right) : WatchMove left right -> Watch world left right -> Prop where
  | install (installed : Bool) (phase_eq : s.phase = .installing) :
      Stepped serde exchange peerA peerB session s (.install installed)
        { s with phase := if installed then .waiting else .dropping .signalError }
  | ctrlC (received : Bool) (phase_eq : s.phase = .waiting) :
      Stepped serde exchange peerA peerB session s (.ctrlC received)
        { s with
          phase := if received then .deregistering .ctrlC else .dropping .signalError }
  | sigterm (phase_eq : s.phase = .waiting) :
      Stepped serde exchange peerA peerB session s .sigterm
        { s with phase := .deregistering .sigterm }
  | look (phase_eq : s.phase = .waiting) :
      Stepped serde exchange peerA peerB session s .look
        { s with phase := if s.tunnelIsDead then .deregistering .tunnelDied else .waiting }
  | deregister (exit : Exit) (phase_eq : s.phase = .deregistering exit) :
      Stepped serde exchange peerA peerB session s .deregister
        { s with
          phase := .dropping exit
          bastion := session.shutdown serde exchange s.bastion }
  | last (exit : Exit) (phase_eq : s.phase = .dropping exit)
      (next_eq : Ledger.next s.ledger.scope = none) :
      Stepped serde exchange peerA peerB session s .drop { s with phase := .exited exit }
  | tell (exit : Exit) (r : Resource) (rest : List (List Resource))
      (phase_eq : s.phase = .dropping exit)
      (next_eq : Ledger.next s.ledger.scope = some (r, rest))
      (reverse : r.isReverse = true) :
      Stepped serde exchange peerA peerB session s .drop
        { s with
          phase := .joining exit
          reverse := s.reverse.map ReverseForward.setStop }
  | release (exit : Exit) (r : Resource) (rest : List (List Resource))
      (phase_eq : s.phase = .dropping exit)
      (next_eq : Ledger.next s.ledger.scope = some (r, rest))
      (other : r.isReverse = false) :
      Stepped serde exchange peerA peerB session s .drop
        { s with ledger := s.ledger.release r rest }
  | join (exit : Exit) (forward : ReverseForward left right) (r : Resource)
      (rest : List (List Resource)) (phase_eq : s.phase = .joining exit)
      (reverse_eq : s.reverse = some forward)
      (next_eq : Ledger.next s.ledger.scope = some (r, rest))
      (returned : forward.worker.phase = .finished) :
      Stepped serde exchange peerA peerB session s .join
        { s with phase := .dropping exit, ledger := s.ledger.release r rest }
  | forward (move : ForwardMove left right) (before after : ReverseForward left right)
      (reverse_eq : s.reverse = some before) (running : s.phase.isExited = false)
      (stepped : before.step peerA peerB move = some after) :
      Stepped serde exchange peerA peerB session s (.forward move)
        { s with reverse := some after }

theorem step_cases {move : WatchMove left right}
    (h : s.step serde exchange peerA peerB session move = some t) :
    Stepped serde exchange peerA peerB session s move t := by
  cases move with
  | install installed =>
      simp only [step, Option.ite_none_right_eq_some, Option.some.injEq] at h
      rcases h with ⟨hphase, rfl⟩
      exact .install installed hphase
  | ctrlC received =>
      simp only [step, Option.ite_none_right_eq_some, Option.some.injEq] at h
      rcases h with ⟨hphase, rfl⟩
      exact .ctrlC received hphase
  | sigterm =>
      simp only [step, Option.ite_none_right_eq_some, Option.some.injEq] at h
      rcases h with ⟨hphase, rfl⟩
      exact .sigterm hphase
  | look =>
      simp only [step, Option.ite_none_right_eq_some, Option.some.injEq] at h
      rcases h with ⟨hphase, rfl⟩
      exact .look hphase
  | deregister =>
      simp only [step] at h
      split at h
      · next exit hphase =>
          cases h
          exact .deregister exit hphase
      · cases h
  | drop =>
      simp only [step] at h
      split at h
      · next exit hphase =>
          cases h
          unfold dropNext
          split
          · next hnext => exact .last exit hphase hnext
          · next r rest hnext =>
              cases hreverse : r.isReverse with
              | true => exact .tell exit r rest hphase hnext hreverse
              | false => exact .release exit r rest hphase hnext hreverse
      · cases h
  | join =>
      simp only [step] at h
      split at h
      · next exit forward r rest hphase hreverse hnext =>
          rw [Option.ite_none_right_eq_some, Option.some.injEq] at h
          rcases h with ⟨hjoin, rfl⟩
          exact .join exit forward r rest hphase hreverse hnext
            (by simpa [ReverseForward.canJoin] using hjoin)
      · cases h
  | forward move =>
      simp only [step] at h
      split at h
      · cases h
      · next before hreverse =>
          split at h
          · cases h
          · next hrunning =>
              rw [Option.map_eq_some_iff] at h
              rcases h with ⟨after, hafter, rfl⟩
              exact .forward move before after hreverse (Bool.eq_false_iff.mpr hrunning) hafter

/-!
# What holds at every moment
-/

/-- The ledger with which the watch begins: nothing has been dropped, and a reverse
forward, which only a service has, is dropped first. -/
structure Begins (env : UpEnvironment) (request : UpRequest) (session : ActiveSession)
    (ledger : Ledger Resource) : Prop where
  accounted : Holding.Accounted env request ledger
  releases : ledger.releases = []
  service : session.localPort.isSome = true -> exists r rest,
    Ledger.next ledger.scope = some (r, rest) ∧ r.isReverse = true ∧
      forall other, other ∈ rest.flatten -> other.isReverse = false
  worker : session.localPort.isSome = false ->
    forall other, other ∈ ledger.held -> other.isReverse = false

inductive Stage (begun : Ledger Resource) (s : Watch world left right) : Prop where
  | intact (ledger_eq : s.ledger = begun)
      (running : forall forward, s.reverse = some forward -> forward.stop = false)
      (phase : s.phase.isLate = false)
  | joining (exit : Exit) (forward : ReverseForward left right)
      (ledger_eq : s.ledger = begun) (phase_eq : s.phase = .joining exit)
      (reverse_eq : s.reverse = some forward) (stop : forward.stop = true)
  | ending (exit : Exit)
      (phase : s.phase = .dropping exit ∨ s.phase = .exited exit ∧ s.ledger.held = [])
      (returned : forall forward, s.reverse = some forward ->
        forward.stop = true ∧ forward.worker.phase = .finished)
      (other : forall r, r ∈ s.ledger.held -> r.isReverse = false)

structure Ok (serde : SerdeJson)
    (exchange : world -> BastionEndpoint -> Bytes -> Except String Bytes × world)
    (env : UpEnvironment) (request : UpRequest) (session : ActiveSession)
    (begun : Ledger Resource) (bastion : world) (s : Watch world left right) : Prop where
  accounted : Holding.Accounted env request s.ledger
  forward_ok : forall forward, s.reverse = some forward -> forward.Ok
  has_forward : s.reverse.isSome = session.localPort.isSome
  stage : Stage begun s
  bastion_eq : s.bastion =
    if s.phase.told then session.shutdown serde exchange bastion else bastion
  tells : forall exit, s.phase = .deregistering exit -> exit ≠ .signalError

section Steps

variable {env : UpEnvironment} {request : UpRequest} {begun : Ledger Resource}
  {bastion : world}

theorem accounted_release {ledger : Ledger Resource} {r : Resource}
    {rest : List (List Resource)} (h : Holding.Accounted env request ledger)
    (hnext : Ledger.next ledger.scope = some (r, rest)) :
    Holding.Accounted env request (ledger.release r rest) := by
  refine ⟨h.sound.release (Ledger.flatten_of_next hnext), ?_⟩
  rw [Ledger.acquisitions_release]
  exact h.asked

theorem ok_start (h : Begins env request session begun) :
    Ok serde exchange env request session begun bastion
      (start session begun bastion : Watch world left right) := by
  refine ⟨h.accounted, ?_, ?_, ?_, rfl, fun exit h => (by cases h)⟩
  · intro forward hforward
    simp only [start, Option.map_eq_some_iff] at hforward
    rcases hforward with ⟨_, _, rfl⟩
    exact ReverseForward.ok_opened
  · simp [start]
  · refine .intact rfl ?_ rfl
    intro forward hforward
    simp only [start, Option.map_eq_some_iff] at hforward
    rcases hforward with ⟨_, _, rfl⟩
    rfl

theorem Stage.turn (h : Stage begun s) (hearly : s.phase.isEarly = true)
    (phase : MainPhase) (after : world) (hphase : phase.isLate = false) :
    Stage begun { s with phase := phase, bastion := after } := by
  cases h with
  | intact hledger hrunning _ => exact .intact hledger hrunning hphase
  | joining exit forward hledger hjoining hreverse hstop =>
      rw [hjoining] at hearly
      cases hearly
  | ending exit hending hreturned hother =>
      rcases hending with hdropping | ⟨hexited, _⟩
      · rw [hdropping] at hearly
        cases hearly
      · rw [hexited] at hearly
        cases hearly

theorem ok_step {move : WatchMove left right}
    (hbegins : Begins env request session begun)
    (hok : Ok serde exchange env request session begun bastion s)
    (h : s.step serde exchange peerA peerB session move = some t) :
    Ok serde exchange env request session begun bastion t := by
  have hbastion := hok.bastion_eq
  cases step_cases h with
  | install installed hphase =>
      have hearly : s.phase.isEarly = true := by rw [hphase]; rfl
      rw [hphase] at hbastion
      cases installed with
      | true =>
          exact ⟨hok.accounted, hok.forward_ok, hok.has_forward,
            hok.stage.turn hearly _ _ rfl, hbastion, fun exit h => (by cases h)⟩
      | false =>
          exact ⟨hok.accounted, hok.forward_ok, hok.has_forward,
            hok.stage.turn hearly _ _ rfl, hbastion, fun exit h => (by cases h)⟩
  | ctrlC received hphase =>
      have hearly : s.phase.isEarly = true := by rw [hphase]; rfl
      rw [hphase] at hbastion
      cases received with
      | true =>
          exact ⟨hok.accounted, hok.forward_ok, hok.has_forward,
            hok.stage.turn hearly _ _ rfl, hbastion, fun exit h => (by cases h; decide)⟩
      | false =>
          exact ⟨hok.accounted, hok.forward_ok, hok.has_forward,
            hok.stage.turn hearly _ _ rfl, hbastion, fun exit h => (by cases h)⟩
  | sigterm hphase =>
      have hearly : s.phase.isEarly = true := by rw [hphase]; rfl
      rw [hphase] at hbastion
      exact ⟨hok.accounted, hok.forward_ok, hok.has_forward,
        hok.stage.turn hearly _ _ rfl, hbastion, fun exit h => (by cases h; decide)⟩
  | look hphase =>
      have hearly : s.phase.isEarly = true := by rw [hphase]; rfl
      rw [hphase] at hbastion
      cases hdead : s.tunnelIsDead with
      | true =>
          exact ⟨hok.accounted, hok.forward_ok, hok.has_forward,
            hok.stage.turn hearly _ _ rfl, hbastion, fun exit h => (by cases h; decide)⟩
      | false =>
          exact ⟨hok.accounted, hok.forward_ok, hok.has_forward,
            hok.stage.turn hearly _ _ rfl, hbastion, fun exit h => (by cases h)⟩
  | deregister exit hphase =>
      have hearly : s.phase.isEarly = true := by rw [hphase]; rfl
      rw [hphase] at hbastion
      have htold : (MainPhase.dropping exit).told = true := by
        simpa [MainPhase.told] using hok.tells exit hphase
      refine ⟨hok.accounted, hok.forward_ok, hok.has_forward,
        hok.stage.turn hearly _ _ rfl, ?_, fun exit h => (by cases h)⟩
      rw [htold, if_pos rfl, hbastion]
      rfl
  | last exit hphase hnext =>
      have hheld : s.ledger.held = [] := Ledger.flatten_of_next_none hnext
      rw [hphase] at hbastion
      refine ⟨hok.accounted, hok.forward_ok, hok.has_forward, ?_, hbastion,
        fun exit h => (by cases h)⟩
      have hreturned : forall forward, s.reverse = some forward ->
          forward.stop = true ∧ forward.worker.phase = .finished := by
        cases hok.stage with
        | intact hledger _ _ =>
            -- A service has its reverse forward to drop.
            cases hlocal : session.localPort.isSome with
            | true =>
                rcases hbegins.service hlocal with ⟨r, rest, hfirst, _⟩
                rw [hledger, hfirst] at hnext
                cases hnext
            | false =>
                intro forward hforward
                have hsome := hok.has_forward
                rw [hforward, hlocal] at hsome
                cases hsome
        | joining other forward _ hjoining _ _ =>
            rw [hphase] at hjoining
            cases hjoining
        | ending other _ hreturned _ => exact hreturned
      refine .ending exit (Or.inr ⟨rfl, hheld⟩) hreturned ?_
      intro r hr
      rw [hheld] at hr
      cases hr
  | tell exit r rest hphase hnext hreverse =>
      rw [hphase] at hbastion
      have hfirst : r ∈ s.ledger.held := by
        rw [Ledger.held, Ledger.flatten_of_next hnext]
        exact List.mem_cons_self
      cases hok.stage with
      | intact hledger _ _ =>
          cases hlocal : session.localPort.isSome with
          | false =>
              rw [hledger] at hfirst
              rw [hbegins.worker hlocal r hfirst] at hreverse
              cases hreverse
          | true =>
              have hsome := hok.has_forward
              rw [hlocal, Option.isSome_iff_exists] at hsome
              rcases hsome with ⟨forward, hforward⟩
              refine ⟨hok.accounted, ?_, ?_, ?_, hbastion, fun exit h => (by cases h)⟩
              · intro told htold
                rw [hforward] at htold
                cases htold
                exact ReverseForward.ok_setStop (hok.forward_ok forward hforward)
              · simpa using hok.has_forward
              · refine .joining exit forward.setStop hledger rfl ?_ rfl
                simp [hforward]
      | joining other forward _ hjoining _ _ =>
          rw [hphase] at hjoining
          cases hjoining
      | ending other _ _ hother =>
          rw [hother r hfirst] at hreverse
          cases hreverse
  | release exit r rest hphase hnext hother =>
      rw [hphase] at hbastion
      have hheld : s.ledger.held = r :: rest.flatten := Ledger.flatten_of_next hnext
      refine ⟨accounted_release hok.accounted hnext, hok.forward_ok, hok.has_forward, ?_, ?_,
        hok.tells⟩
      · cases hok.stage with
        | intact hledger _ _ =>
            cases hlocal : session.localPort.isSome with
            | true =>
                rcases hbegins.service hlocal with ⟨first, _, hfirst, hreverse, _⟩
                rw [hledger, hfirst] at hnext
                cases hnext
                rw [hreverse] at hother
                cases hother
            | false =>
                refine .ending exit (Or.inl hphase) ?_ ?_
                · intro forward hforward
                  have hsome := hok.has_forward
                  rw [hforward, hlocal] at hsome
                  cases hsome
                · intro other hlater
                  refine hbegins.worker hlocal other ?_
                  rw [← hledger, hheld]
                  exact List.mem_cons_of_mem r hlater
        | joining other forward _ hjoining _ _ =>
            rw [hphase] at hjoining
            cases hjoining
        | ending other _ hreturned hrest =>
            refine .ending exit (Or.inl hphase) hreturned ?_
            intro other hlater
            refine hrest other ?_
            rw [hheld]
            exact List.mem_cons_of_mem r hlater
      · show s.bastion = _
        rw [hphase]
        exact hbastion
  | join exit forward r rest hphase hreverse hnext hreturned =>
      rw [hphase] at hbastion
      refine ⟨accounted_release hok.accounted hnext, hok.forward_ok, hok.has_forward, ?_,
        hbastion, fun exit h => (by cases h)⟩
      cases hok.stage with
      | intact _ _ hlate =>
          rw [hphase] at hlate
          cases hlate
      | ending other hending _ _ =>
          rcases hending with hdropping | ⟨hexited, _⟩
          · rw [hphase] at hdropping
            cases hdropping
          · rw [hphase] at hexited
            cases hexited
      | joining other forward' hledger _ hreverse' hstop =>
          rw [hreverse] at hreverse'
          cases hreverse'
          have hlocal : session.localPort.isSome = true := by
            rw [← hok.has_forward, hreverse]
            rfl
          rcases hbegins.service hlocal with ⟨first, others, hfirst, _, hother⟩
          rw [hledger, hfirst] at hnext
          cases hnext
          refine .ending exit (Or.inl rfl) ?_ hother
          intro told htold
          rw [hreverse] at htold
          cases htold
          exact ⟨hstop, hreturned⟩
  | forward move before after hreverse hrunning hstepped =>
      refine ⟨hok.accounted, ?_, ?_, ?_, hbastion, hok.tells⟩
      · intro told htold
        cases htold
        exact ReverseForward.ok_step (hok.forward_ok before hreverse) hstepped
      · rw [← hok.has_forward, hreverse]
        rfl
      · have hstop := ReverseForward.stop_step hstepped
        cases hok.stage with
        | intact hledger hfree hnot =>
            refine .intact hledger ?_ hnot
            intro told htold
            cases htold
            rw [hstop]
            exact hfree before hreverse
        | joining exit forward hledger hjoining hreverse' hset =>
            rw [hreverse] at hreverse'
            cases hreverse'
            exact .joining exit after hledger hjoining rfl (hstop.trans hset)
        | ending exit hending hreturned hother =>
            refine .ending exit hending ?_ hother
            intro told htold
            cases htold
            rcases hreturned before hreverse with ⟨hset, hfinished⟩
            rw [ReverseForward.finished_step hstepped hfinished]
            exact ⟨hstop.trans hset, hfinished⟩

end Steps

theorem begins_of_holds {ledger : Ledger Resource}
    (h : Holding.Holds env request session ledger) :
    Begins env request session ledger := by
  cases h with
  | service target endpoint localPort remotePort specs hlocal _ _ _ hopening =>
      refine ⟨hopening.toAccounted, hopening.releases, ?_, ?_⟩
      · intro _
        rw [hopening.scope]
        refine ⟨_, _, rfl, rfl, ?_⟩
        intro other hother
        simp only [List.flatten_cons, List.flatten_nil, List.nil_append, List.append_nil,
          List.singleton_append, List.mem_cons] at hother
        rcases hother with rfl | rfl | rfl | hforward
        · rfl
        · rfl
        · rfl
        · rcases List.mem_map.mp hforward with ⟨_, _, rfl⟩
          rfl
      · intro hnone
        rw [hlocal] at hnone
        cases hnone
  | worker specs hlocal _ _ _ hopening =>
      refine ⟨hopening.toAccounted, hopening.releases, ?_, ?_⟩
      · intro hsome
        rw [hlocal] at hsome
        cases hsome
      · intro _ other hother
        rw [Ledger.held, hopening.scope] at hother
        simp only [Holding.workerOwners, List.flatten_cons, List.flatten_nil,
          List.append_nil, List.singleton_append, List.mem_cons] at hother
        rcases hother with rfl | hforward
        · rfl
        · rcases List.mem_map.mp hforward with ⟨_, _, rfl⟩
          rfl

end Watch

theorem watchSystem_step {s t : Watch world left right} {move : WatchMove left right}
    {output : Unit}
    (h : (watchSystem serde exchange peerA peerB session).step s move = some (output, t)) :
    s.step serde exchange peerA peerB session move = some t := by
  simp only [watchSystem, Option.map_eq_some_iff, Prod.mk.injEq] at h
  rcases h with ⟨t', hstep, _, rfl⟩
  exact hstep

theorem watchSystem_step_of {s t : Watch world left right} {move : WatchMove left right}
    (h : s.step serde exchange peerA peerB session move = some t) :
    (watchSystem serde exchange peerA peerB session).step s move = some ((), t) := by
  simp [watchSystem, h]

/-!
# Whole runs
-/

/-- The accept loop was given an error other than `EAGAIN`. -/
def IsFatal (move : WatchMove left right) : Prop :=
  exists code, isFatalSshError code = true ∧
    move = .forward (.worker (.work (.failed code)))

def Exit.Causes : Exit -> WatchMove left right -> Prop
  | .ctrlC, move => move = .ctrlC true
  | .sigterm, move => move = .sigterm
  | .tunnelDied, move => IsFatal move
  | .signalError, move => move = .install false ∨ move = .ctrlC false

def Exit.Decided (s : Watch world left right) (move : WatchMove left right) : Exit -> Prop
  | .ctrlC => move = .ctrlC true
  | .sigterm => move = .sigterm
  | .tunnelDied => s.tunnelIsDead = true
  | .signalError => move = .install false ∨ move = .ctrlC false

def Watch.Lost (s : Watch world left right) : Prop :=
  exists forward, s.reverse = some forward ∧ forward.worker.memory = true

section Runs

variable {serde exchange peerA peerB session}
  {s t : Watch world left right} {env : UpEnvironment} {request : UpRequest}
  {begun : Ledger Resource} {bastion : world} {moves : List (WatchMove left right)}
  {outputs : List Unit}

theorem ok_run (hbegins : Watch.Begins env request session begun)
    (hs : Watch.Ok serde exchange env request session begun bastion s)
    (hrun : (watchSystem serde exchange peerA peerB session).run s moves =
      some (outputs, t)) :
    Watch.Ok serde exchange env request session begun bastion t :=
  (watchSystem serde exchange peerA peerB session).invariant_run
    (fun _ _ _ _ hok _ hstep => Watch.ok_step hbegins hok (watchSystem_step _ _ _ _ _ hstep))
    hrun (fun _ _ => trivial) hs

theorem lost_step {move : WatchMove left right}
    (h : s.step serde exchange peerA peerB session move = some t) (hlost : t.Lost) :
    s.Lost ∨ IsFatal move := by
  rcases hlost with ⟨forward, hforward, hmemory⟩
  cases Watch.step_cases h with
  | install installed hphase => exact Or.inl ⟨forward, hforward, hmemory⟩
  | ctrlC received hphase => exact Or.inl ⟨forward, hforward, hmemory⟩
  | sigterm hphase => exact Or.inl ⟨forward, hforward, hmemory⟩
  | look hphase => exact Or.inl ⟨forward, hforward, hmemory⟩
  | deregister exit hphase => exact Or.inl ⟨forward, hforward, hmemory⟩
  | last exit hphase hnext => exact Or.inl ⟨forward, hforward, hmemory⟩
  | tell exit r rest hphase hnext hreverse =>
      rw [Option.map_eq_some_iff] at hforward
      rcases hforward with ⟨before, hbefore, rfl⟩
      exact Or.inl ⟨before, hbefore, hmemory⟩
  | release exit r rest hphase hnext hother => exact Or.inl ⟨forward, hforward, hmemory⟩
  | join exit other r rest hphase hreverse hnext hreturned =>
      exact Or.inl ⟨forward, hforward, hmemory⟩
  | forward move before after hreverse hrunning hstepped =>
      cases hforward
      rcases ReverseForward.lost_step hstepped hmemory with hbefore | ⟨code, hfatal, rfl⟩
      · exact Or.inl ⟨before, hreverse, hbefore⟩
      · exact Or.inr ⟨code, hfatal, rfl⟩

theorem lost_of_dead (hok : Watch.Ok serde exchange env request session begun bastion s)
    (hdead : s.tunnelIsDead = true) : s.Lost := by
  unfold Watch.tunnelIsDead at hdead
  cases hreverse : s.reverse with
  | none =>
      rw [hreverse] at hdead
      cases hdead
  | some forward =>
      rw [hreverse] at hdead
      exact ⟨forward, hreverse, (hok.forward_ok forward hreverse).dead hdead⟩

theorem exit_step {move : WatchMove left right} {exit : Exit}
    (h : s.step serde exchange peerA peerB session move = some t)
    (hexit : t.phase.exit? = some exit) :
    s.phase.exit? = some exit ∨ exit.Decided s move := by
  cases Watch.step_cases h with
  | install installed hphase =>
      cases installed with
      | true => cases hexit
      | false =>
          cases hexit
          exact Or.inr (Or.inl rfl)
  | ctrlC received hphase =>
      cases received with
      | true =>
          cases hexit
          exact Or.inr rfl
      | false =>
          cases hexit
          exact Or.inr (Or.inr rfl)
  | sigterm hphase =>
      cases hexit
      exact Or.inr rfl
  | look hphase =>
      cases hdead : s.tunnelIsDead with
      | true =>
          rw [hdead] at hexit
          cases hexit
          exact Or.inr hdead
      | false =>
          rw [hdead] at hexit
          cases hexit
  | deregister other hphase =>
      rw [hphase]
      exact Or.inl hexit
  | last other hphase hnext =>
      rw [hphase]
      exact Or.inl hexit
  | tell other r rest hphase hnext hreverse =>
      rw [hphase]
      exact Or.inl hexit
  | release other r rest hphase hnext hother => exact Or.inl hexit
  | join other forward r rest hphase hreverse hnext hreturned =>
      rw [hphase]
      exact Or.inl hexit
  | forward move before after hreverse hrunning hstepped => exact Or.inl hexit

def Watch.Ends (s : Watch world left right) (exit : Exit) : Prop :=
  s.phase.exit? = some exit ∨ exit = .tunnelDied ∧ s.Lost

theorem ends_step {move : WatchMove left right} {exit : Exit}
    (hok : Watch.Ok serde exchange env request session begun bastion s)
    (h : s.step serde exchange peerA peerB session move = some t) (hends : t.Ends exit) :
    s.Ends exit ∨ exit.Causes move := by
  rcases hends with hexit | ⟨rfl, hlost⟩
  · rcases exit_step h hexit with hbefore | hdecided
    · exact Or.inl (Or.inl hbefore)
    · cases exit with
      | ctrlC => exact Or.inr hdecided
      | sigterm => exact Or.inr hdecided
      | tunnelDied => exact Or.inl (Or.inr ⟨rfl, lost_of_dead hok hdecided⟩)
      | signalError => exact Or.inr hdecided
  · rcases lost_step h hlost with hbefore | hfatal
    · exact Or.inl (Or.inr ⟨rfl, hbefore⟩)
    · exact Or.inr hfatal

theorem cause_of_ends (hbegins : Watch.Begins env request session begun)
    (hrun : (watchSystem serde exchange peerA peerB session).run
      (Watch.start session begun bastion) moves = some (outputs, s))
    {exit : Exit} (hends : s.Ends exit) :
    exists move, move ∈ moves ∧ exit.Causes move := by
  have hstart : Watch.Ok serde exchange env request session begun bastion
      (Watch.start session begun bastion : Watch world left right) :=
    Watch.ok_start hbegins
  have hcause : (Watch.start session begun bastion : Watch world left right).Ends exit ∨
      exists move, move ∈ moves ∧ exit.Causes move :=
    (watchSystem serde exchange peerA peerB session).exists_cause
      (fun _ _ _ _ hok hstep =>
        Watch.ok_step hbegins hok (watchSystem_step _ _ _ _ _ hstep))
      (fun _ _ _ _ hok hstep => ends_step hok (watchSystem_step _ _ _ _ _ hstep))
      hrun hstart hends
  refine hcause.resolve_left ?_
  intro hends
  rcases hends with hphase | ⟨_, forward, hforward, hmemory⟩
  · cases hphase
  · simp only [Watch.start, Option.map_eq_some_iff] at hforward
    rcases hforward with ⟨_, _, rfl⟩
    cases hmemory

/-!
# How many steps are left
-/

/-- The steps that the main thread takes by itself before it exits, at most. -/
def Watch.mainLeft (s : Watch world left right) : Nat :=
  match s.phase with
  | .installing => 2 * s.ledger.held.length + 3
  | .waiting => 2 * s.ledger.held.length + 3
  | .deregistering _ => 2 * s.ledger.held.length + 2
  | .dropping _ => 2 * s.ledger.held.length + 1
  | .joining _ => 2 * s.ledger.held.length
  | .exited _ => 0

theorem length_held_release {ledger : Ledger Resource} {r : Resource}
    {rest : List (List Resource)} (hnext : Ledger.next ledger.scope = some (r, rest)) :
    ledger.held.length = (ledger.release r rest).held.length + 1 := by
  rw [Ledger.held, Ledger.flatten_of_next hnext]
  rfl

theorem mainLeft_step {move : WatchMove left right}
    (h : s.step serde exchange peerA peerB session move = some t) :
    t.mainLeft + move.isMain.toNat ≤ s.mainLeft := by
  cases Watch.step_cases h with
  | install installed hphase =>
      cases installed <;> simp [Watch.mainLeft, hphase, WatchMove.isMain]
  | ctrlC received hphase =>
      cases received <;> simp [Watch.mainLeft, hphase, WatchMove.isMain]
  | sigterm hphase => simp [Watch.mainLeft, hphase, WatchMove.isMain]
  | look hphase =>
      cases hdead : s.tunnelIsDead <;> simp [Watch.mainLeft, hphase, WatchMove.isMain]
  | deregister exit hphase => simp [Watch.mainLeft, hphase, WatchMove.isMain]
  | last exit hphase hnext => simp [Watch.mainLeft, hphase, WatchMove.isMain]
  | tell exit r rest hphase hnext hreverse =>
      simp [Watch.mainLeft, hphase, WatchMove.isMain]
  | release exit r rest hphase hnext hother =>
      have hlength := length_held_release hnext
      simp only [Watch.mainLeft, hphase, WatchMove.isMain, Bool.toNat_true]
      omega
  | join exit forward r rest hphase hreverse hnext hreturned =>
      have hlength := length_held_release hnext
      simp only [Watch.mainLeft, hphase, WatchMove.isMain, Bool.toNat_true]
      omega
  | forward move before after hreverse hrunning hstepped => exact Nat.le_refl _

def Watch.Stopped (s : Watch world left right) : Prop :=
  exists forward, s.reverse = some forward ∧ forward.stop = true

structure Budget (peerA : Peer left) (peerB : Peer right) where
  counted : WatchMove left right -> Bool
  left : ReverseForward left right -> Nat
  spends : forall {move f g}, f.stop = true ->
    ReverseForward.step peerA peerB f move = some g ->
    left g + (counted (.forward move)).toNat ≤ left f
  setStop : forall f, left (ReverseForward.setStop f) = left f
  threads : forall move, (forall inner, move ≠ .forward inner) -> counted move = false

def Watch.leftOf (budget : Budget peerA peerB) (s : Watch world left right) : Nat :=
  (s.reverse.map budget.left).getD 0

theorem stopped_step (budget : Budget peerA peerB) {move : WatchMove left right}
    (hstopped : s.Stopped)
    (h : s.step serde exchange peerA peerB session move = some t) :
    t.Stopped ∧ t.leftOf budget + (budget.counted move).toNat ≤ s.leftOf budget := by
  rcases hstopped with ⟨forward, hforward, hstop⟩
  have hmain : forall {u : Watch world left right}, u.reverse = s.reverse ->
      (forall inner, move ≠ .forward inner) ->
      u.Stopped ∧ u.leftOf budget + (budget.counted move).toNat ≤ s.leftOf budget := by
    intro u hsame hother
    rw [budget.threads move hother]
    refine ⟨⟨forward, hsame.trans hforward, hstop⟩, ?_⟩
    rw [Watch.leftOf, Watch.leftOf, hsame]
    exact Nat.le_refl _
  cases Watch.step_cases h with
  | install installed hphase => exact hmain rfl fun inner h => by cases h
  | ctrlC received hphase => exact hmain rfl fun inner h => by cases h
  | sigterm hphase => exact hmain rfl fun inner h => by cases h
  | look hphase => exact hmain rfl fun inner h => by cases h
  | deregister exit hphase => exact hmain rfl fun inner h => by cases h
  | last exit hphase hnext => exact hmain rfl fun inner h => by cases h
  | release exit r rest hphase hnext hother => exact hmain rfl fun inner h => by cases h
  | join exit other r rest hphase hreverse hnext hreturned =>
      exact hmain rfl fun inner h => by cases h
  | tell exit r rest hphase hnext hreverse =>
      rw [budget.threads .drop fun inner h => by cases h]
      refine ⟨⟨forward.setStop, by simp [hforward], rfl⟩, ?_⟩
      simp [Watch.leftOf, hforward, budget.setStop]
  | forward move before after hreverse hrunning hstepped =>
      rw [hforward] at hreverse
      cases hreverse
      refine ⟨⟨after, rfl, (ReverseForward.stop_step hstepped).trans hstop⟩, ?_⟩
      simpa [Watch.leftOf, hforward] using budget.spends hstop hstepped

theorem countP_le_of_stopped (budget : Budget peerA peerB) (hstopped : s.Stopped)
    (hrun : (watchSystem serde exchange peerA peerB session).run s moves =
      some (outputs, t)) :
    moves.countP budget.counted ≤ s.leftOf budget := by
  have hcount := (watchSystem serde exchange peerA peerB session).countP_le_of_budget
    (fun _ _ _ _ hs hstep => stopped_step budget hs (watchSystem_step _ _ _ _ _ hstep))
    hrun hstopped
  exact Nat.le_trans (Nat.le_add_right _ _) hcount

def workerBudget : Budget peerA peerB where
  counted := WatchMove.isWorker
  left := fun f => f.worker.phase.left
  spends := ReverseForward.left_step
  setStop := fun _ => rfl
  threads := by
    intro move h
    cases move with
    | forward inner => exact absurd rfl (h inner)
    | _ => rfl

def acceptBudget : Budget peerA peerB where
  counted := WatchMove.isAccept
  left := fun f => f.worker.phase.rounds
  spends := ReverseForward.accepts_step
  setStop := fun _ => rfl
  threads := by
    intro move h
    cases move with
    | forward inner => exact absurd rfl (h inner)
    | _ => rfl

def roundBudget (index : Nat) : Budget peerA peerB where
  counted := WatchMove.isRound index
  left := fun f => f.roundsAt index
  spends := fun hstop h => ReverseForward.rounds_step hstop index h
  setStop := fun _ => rfl
  threads := by
    intro move h
    cases move with
    | forward inner => exact absurd rfl (h inner)
    | _ => rfl

/-!
# The ways out
-/

theorem exit_keep {move : WatchMove left right} {exit : Exit}
    (h : s.step serde exchange peerA peerB session move = some t)
    (hexit : s.phase.exit? = some exit) : t.phase.exit? = some exit := by
  cases Watch.step_cases h with
  | install installed hphase =>
      rw [hphase] at hexit
      cases hexit
  | ctrlC received hphase =>
      rw [hphase] at hexit
      cases hexit
  | sigterm hphase =>
      rw [hphase] at hexit
      cases hexit
  | look hphase =>
      rw [hphase] at hexit
      cases hexit
  | deregister other hphase =>
      rw [hphase] at hexit
      exact hexit
  | last other hphase hnext =>
      rw [hphase] at hexit
      exact hexit
  | tell other r rest hphase hnext hreverse =>
      rw [hphase] at hexit
      exact hexit
  | release other r rest hphase hnext hother => exact hexit
  | join other forward r rest hphase hreverse hnext hreturned =>
      rw [hphase] at hexit
      exact hexit
  | forward move before after hreverse hrunning hstepped => exact hexit

def Watch.workerLeft (s : Watch world left right) : Nat :=
  (s.reverse.map fun forward => forward.worker.phase.left).getD 0

theorem workerLeft_le (s : Watch world left right) : s.workerLeft ≤ 4 := by
  unfold Watch.workerLeft
  cases s.reverse with
  | none => exact Nat.zero_le 4
  | some forward => exact forward.worker.phase.left_le

def Watch.stepsLeft (s : Watch world left right) : Nat :=
  5 * s.mainLeft + s.workerLeft

theorem stepsLeft_of_main {move : WatchMove left right}
    (h : s.step serde exchange peerA peerB session move = some t)
    (hmain : move.isMain = true) : t.stepsLeft < s.stepsLeft := by
  have hmove := mainLeft_step h
  have hworker := workerLeft_le t
  rw [hmain, Bool.toNat_true] at hmove
  unfold Watch.stepsLeft
  omega

theorem exists_progress (peerA : Peer left) (peerB : Peer right)
    (hbegins : Watch.Begins env request session begun)
    (hok : Watch.Ok serde exchange env request session begun bastion s) {exit : Exit}
    (hexit : s.phase.exit? = some exit) :
    s.phase = .exited exit ∨
      exists move t, s.step serde exchange peerA peerB session move = some t ∧
        (move.isMain = true ∨ move.isWorker = true) ∧ t.stepsLeft < s.stepsLeft := by
  cases hphase : s.phase with
  | installing =>
      rw [hphase] at hexit
      cases hexit
  | waiting =>
      rw [hphase] at hexit
      cases hexit
  | deregistering other =>
      have hstep : exists t, s.step serde exchange peerA peerB session .deregister =
          some t := ⟨_, by simp only [Watch.step, hphase]; rfl⟩
      rcases hstep with ⟨t, hstep⟩
      exact Or.inr ⟨.deregister, t, hstep, Or.inl rfl, stepsLeft_of_main hstep rfl⟩
  | dropping other =>
      have hstep : exists t, s.step serde exchange peerA peerB session .drop = some t :=
        ⟨_, by simp only [Watch.step, hphase]; rfl⟩
      rcases hstep with ⟨t, hstep⟩
      exact Or.inr ⟨.drop, t, hstep, Or.inl rfl, stepsLeft_of_main hstep rfl⟩
  | exited other =>
      rw [hphase] at hexit
      cases hexit
      exact Or.inl rfl
  | joining other =>
      refine Or.inr ?_
      cases hok.stage with
      | intact _ _ hlate =>
          rw [hphase] at hlate
          cases hlate
      | ending exit' hending _ _ =>
          rcases hending with hdropping | ⟨hexited, _⟩
          · rw [hphase] at hdropping
            cases hdropping
          · rw [hphase] at hexited
            cases hexited
      | joining exit' forward hledger _ hreverse hstop =>
          by_cases hfinished : forward.worker.phase = .finished
          · have hlocal : session.localPort.isSome = true := by
              rw [← hok.has_forward, hreverse]
              rfl
            rcases hbegins.service hlocal with ⟨r, rest, hnext, _, _⟩
            rw [← hledger] at hnext
            have hstep : s.step serde exchange peerA peerB session .join =
                some { s with
                  phase := .dropping other, ledger := s.ledger.release r rest } := by
              simp [Watch.step, hphase, hreverse, hnext, ReverseForward.canJoin, hfinished]
            exact ⟨.join, _, hstep, Or.inl rfl, stepsLeft_of_main hstep rfl⟩
          · -- The main thread waits for the worker, which can always go on.
            rcases acceptLoop.exists_step forward.stop hfinished .channel with
              ⟨move, worker, hworker⟩
            have hinner : ReverseForward.step peerA peerB forward (.worker move) =
                some (forward.afterWorker move worker) := by
              simp [ReverseForward.step, hworker]
            have hrunning : s.phase.isExited = false := by rw [hphase]; rfl
            have hstep : s.step serde exchange peerA peerB session
                  (.forward (.worker move)) =
                some { s with reverse := some (forward.afterWorker move worker) } := by
              simp [Watch.step, hreverse, hrunning, hinner]
            refine ⟨_, _, hstep, Or.inr rfl, ?_⟩
            have hmain := mainLeft_step hstep
            have hleft := ReverseForward.left_step hstop hinner
            simp only [Watch.stepsLeft, Watch.workerLeft, hreverse, Option.map_some,
              Option.getD_some, WatchMove.isMain, ForwardMove.isWorker, Bool.toNat_true,
              Bool.toNat_false] at hmain hleft ⊢
            omega

theorem exists_exit (peerA : Peer left) (peerB : Peer right)
    (hbegins : Watch.Begins env request session begun) {exit : Exit} (n : Nat) (hn : s.stepsLeft ≤ n)
    (hok : Watch.Ok serde exchange env request session begun bastion s)
    (hexit : s.phase.exit? = some exit) :
    exists more outputs t,
      (watchSystem serde exchange peerA peerB session).run s more = some (outputs, t) ∧
      t.phase = .exited exit ∧
      forall move, move ∈ more -> move.isMain = true ∨ move.isWorker = true := by
  induction n generalizing s with
  | zero =>
      rcases exists_progress peerA peerB hbegins hok hexit with hexited | ⟨_, _, _, _, hless⟩
      · exact ⟨[], [], s, rfl, hexited, fun _ h => absurd h List.not_mem_nil⟩
      · omega
  | succ n ih =>
      rcases exists_progress peerA peerB hbegins hok hexit with
        hexited | ⟨move, u, hstep, hmove, hless⟩
      · exact ⟨[], [], s, rfl, hexited, fun _ h => absurd h List.not_mem_nil⟩
      · rcases ih (by omega) (Watch.ok_step hbegins hok hstep) (exit_keep hstep hexit) with
          ⟨more, outputs, t, hrun, hend, hmoves⟩
        refine ⟨move :: more, () :: outputs, t, ?_, hend, ?_⟩
        · rw [(watchSystem serde exchange peerA peerB session).run_cons_of_step
            (watchSystem_step_of _ _ _ _ _ hstep), hrun]
          rfl
        · intro other hother
          rcases List.mem_cons.mp hother with rfl | hlater
          · exact hmove
          · exact hmoves other hlater

theorem lost_of_step {move : WatchMove left right}
    (h : s.step serde exchange peerA peerB session move = some t)
    (hlost : s.Lost ∨ IsFatal move) : t.Lost := by
  have hkeep : (forall inner, move ≠ .forward inner) -> t.reverse = s.reverse -> t.Lost := by
    intro hmain hsame
    rcases hlost with ⟨forward, hforward, hmemory⟩ | ⟨code, _, heq⟩
    · exact ⟨forward, hsame.trans hforward, hmemory⟩
    · exact absurd heq (hmain _)
  cases Watch.step_cases h with
  | install installed hphase => exact hkeep (fun inner h => by cases h) rfl
  | ctrlC received hphase => exact hkeep (fun inner h => by cases h) rfl
  | sigterm hphase => exact hkeep (fun inner h => by cases h) rfl
  | look hphase => exact hkeep (fun inner h => by cases h) rfl
  | deregister exit hphase => exact hkeep (fun inner h => by cases h) rfl
  | last exit hphase hnext => exact hkeep (fun inner h => by cases h) rfl
  | release exit r rest hphase hnext hother => exact hkeep (fun inner h => by cases h) rfl
  | join exit other r rest hphase hreverse hnext hreturned =>
      exact hkeep (fun inner h => by cases h) rfl
  | tell exit r rest hphase hnext hreverse =>
      rcases hlost with ⟨forward, hforward, hmemory⟩ | ⟨code, _, heq⟩
      · exact ⟨forward.setStop, by simp [hforward], hmemory⟩
      · cases heq
  | forward move before after hreverse hrunning hstepped =>
      refine ⟨after, rfl, ReverseForward.lost_of_step hstepped ?_⟩
      rcases hlost with ⟨forward, hforward, hmemory⟩ | ⟨code, hfatal, heq⟩
      · rw [hreverse] at hforward
        cases hforward
        exact Or.inl hmemory
      · cases heq
        exact Or.inr ⟨code, hfatal, rfl⟩

theorem lost_of_fatal (hbegins : Watch.Begins env request session begun)
    (hs : Watch.Ok serde exchange env request session begun bastion s)
    (hrun : (watchSystem serde exchange peerA peerB session).run s moves =
      some (outputs, t))
    {move : WatchMove left right} (hmove : move ∈ moves) (hfatal : IsFatal move) : t.Lost :=
  (watchSystem serde exchange peerA peerB session).of_cause
    (fun _ _ _ _ hok hstep => Watch.ok_step hbegins hok (watchSystem_step _ _ _ _ _ hstep))
    (fun _ _ _ _ _ hcause hstep =>
      lost_of_step (watchSystem_step _ _ _ _ _ hstep) (Or.inr hcause))
    (fun _ _ _ _ _ hlost hstep =>
      lost_of_step (watchSystem_step _ _ _ _ _ hstep) (Or.inl hlost))
    hrun hs hmove hfatal

theorem exists_died (peerA : Peer left) (peerB : Peer right)
    (hok : Watch.Ok serde exchange env request session begun bastion s)
    (hwaiting : s.phase = .waiting) (hlost : s.Lost) :
    exists more outputs t,
      (watchSystem serde exchange peerA peerB session).run s more = some (outputs, t) ∧
      t.phase.exit? = some .tunnelDied ∧
      forall move, move ∈ more -> move.isWorker = true ∨ move = .look := by
  rcases hlost with ⟨forward, hforward, hmemory⟩
  rcases (hok.forward_ok forward hforward).lost hmemory with hleaving | ⟨_, hdead⟩
  · have hleave : acceptLoop.step forward.stop forward.worker .leave =
        some { forward.worker with phase := .finished } := by
      simp [PolledLoop.step, hleaving]
    have hlook : (watchSystem serde exchange peerA peerB session).run s
        [.forward (.worker .leave), .look] = some ([(), ()], { s with
          phase := .deregistering .tunnelDied
          reverse := some (forward.afterWorker .leave
            { forward.worker with phase := .finished }) }) := by
      simp [TransitionSystem.run, watchSystem, Watch.step, hwaiting, hforward,
        MainPhase.isExited, ReverseForward.step, hleave, Watch.tunnelIsDead,
        ReverseForward.isDead, ReverseForward.afterWorker, hmemory]
    refine ⟨_, _, _, hlook, rfl, ?_⟩
    intro move hmove
    rcases List.mem_pair.mp hmove with rfl | rfl
    · exact Or.inl rfl
    · exact Or.inr rfl
  · have hlook : (watchSystem serde exchange peerA peerB session).run s [.look] =
        some ([()], { s with phase := .deregistering .tunnelDied }) := by
      simp [TransitionSystem.run, watchSystem, Watch.step, hwaiting, Watch.tunnelIsDead,
        hforward, ReverseForward.isDead, hdead]
    refine ⟨_, _, _, hlook, rfl, ?_⟩
    intro move hmove
    exact Or.inr (List.mem_singleton.mp hmove)

end Runs

/-- What is so at every moment of a watch. -/
structure Watched (serde : SerdeJson)
    (exchange : world -> BastionEndpoint -> Bytes -> Except String Bytes × world)
    (env : UpEnvironment) (request : UpRequest) (session : ActiveSession) (bastion : world)
    (moves : List (WatchMove left right)) (s : Watch world left right) : Prop where
  /-- What `up` started is released once or still held, nothing before what needs it. -/
  sound : s.ledger.Sound Resource.needs
  asked : forall r, r ∈ s.ledger.acquisitions -> Holding.Asked env request r
  /-- The bastion is told once, before anything is dropped, unless a signal handler
  failed. -/
  bastion_eq : s.bastion =
    if s.phase.told then session.shutdown serde exchange bastion else bastion
  caused : forall exit, s.phase.exit? = some exit ->
    exists move, move ∈ moves ∧ exit.Causes move
  dead : s.tunnelIsDead = true -> exists move, move ∈ moves ∧ IsFatal move
  /-- Nothing is dropped before the worker has returned. -/
  released : s.ledger.releases ≠ [] -> s.phase.isEarly = false ∧
    forall forward, s.reverse = some forward ->
      forward.stop = true ∧ forward.worker.phase = .finished
  exited : forall exit, s.phase = .exited exit -> s.ledger.held = []

section Results

variable {serde exchange peerA peerB session}
  {env : UpEnvironment} {request : UpRequest} {context : BastionContext}
  {before bastion : world} {file : State} {ledger : Ledger Resource}
  {s : Watch world left right} {moves : List (WatchMove left right)} {outputs : List Unit}

theorem begins_of_up
    (hup : Holding.upService env serde exchange request context before =
      ((.ok (session, file), bastion), ledger)) :
    Watch.Begins env request session ledger := by
  have haccount := Holding.upService_account env request serde exchange context before
  rw [hup] at haccount
  exact Watch.begins_of_holds haccount

theorem ok_of_run
    (hup : Holding.upService env serde exchange request context before =
      ((.ok (session, file), bastion), ledger))
    (hrun : (watchSystem serde exchange peerA peerB session).run
      (Watch.start session ledger bastion) moves = some (outputs, s)) :
    Watch.Ok serde exchange env request session ledger bastion s :=
  ok_run (begins_of_up hup) (Watch.ok_start (begins_of_up hup)) hrun

/-- In whatever order the main thread and the threads of the reverse forward take their
steps. -/
theorem watched
    (hup : Holding.upService env serde exchange request context before =
      ((.ok (session, file), bastion), ledger))
    (hrun : (watchSystem serde exchange peerA peerB session).run
      (Watch.start session ledger bastion) moves = some (outputs, s)) :
    Watched serde exchange env request session bastion moves s := by
  have hbegins := begins_of_up hup
  have hok := ok_of_run hup hrun
  refine ⟨hok.accounted.sound, hok.accounted.asked, hok.bastion_eq,
    fun exit hexit => cause_of_ends hbegins hrun (Or.inl hexit), ?_, ?_, ?_⟩
  · intro hdead
    exact cause_of_ends hbegins hrun (Or.inr ⟨rfl, lost_of_dead hok hdead⟩)
  · intro hreleases
    cases hok.stage with
    | intact hledger _ _ =>
        rw [hledger] at hreleases
        exact absurd hbegins.releases hreleases
    | joining exit forward hledger _ _ _ =>
        rw [hledger] at hreleases
        exact absurd hbegins.releases hreleases
    | ending exit hending hreturned _ =>
        refine ⟨?_, hreturned⟩
        rcases hending with hdropping | ⟨hexited, _⟩
        · rw [hdropping]
          rfl
        · rw [hexited]
          rfl
  · intro exit hexited
    cases hok.stage with
    | intact _ _ hlate =>
        rw [hexited] at hlate
        cases hlate
    | joining other forward _ hjoining _ _ =>
        rw [hexited] at hjoining
        cases hjoining
    | ending other hending _ _ =>
        rcases hending with hdropping | ⟨_, hheld⟩
        · rw [hexited] at hdropping
          cases hdropping
        · exact hheld

/-- How a watch ends from a moment on. -/
structure WaysOut (serde : SerdeJson)
    (exchange : world -> BastionEndpoint -> Bytes -> Except String Bytes × world)
    (peerA : Peer left) (peerB : Peer right) (session : ActiveSession)
    (ledger : Ledger Resource) (moves : List (WatchMove left right))
    (s : Watch world left right) : Prop where
  /-- The main thread has few steps of its own, whatever the others do. -/
  few : moves.countP WatchMove.isMain ≤ 2 * ledger.held.length + 3
  /-- Nothing keeps an `up` that ends from exiting. -/
  exits : forall exit, s.phase.exit? = some exit -> exists more outputs t,
    (watchSystem serde exchange peerA peerB session).run s more = some (outputs, t) ∧
      t.phase = .exited exit ∧
      forall move, move ∈ more -> move.isMain = true ∨ move.isWorker = true
  /-- A lost session is noticed without any signal, and the process exits with 2. -/
  notices : s.phase = .waiting -> (exists move, move ∈ moves ∧ IsFatal move) ->
    exists more outputs t,
      (watchSystem serde exchange peerA peerB session).run s more = some (outputs, t) ∧
        t.phase = .exited .tunnelDied ∧ t.phase.exitCode? = some 2 ∧
        forall move, move ∈ more ->
          move.isMain = true ∨ move.isWorker = true ∨ move = .look
  /-- Once told to stop, the worker has four steps, one connection to accept and each
  bridge one round. -/
  stops : s.Stopped -> forall more outputs t,
    (watchSystem serde exchange peerA peerB session).run s more = some (outputs, t) ->
      more.countP WatchMove.isWorker ≤ 4 ∧ more.countP WatchMove.isAccept ≤ 1 ∧
        forall index, more.countP (WatchMove.isRound index) ≤ 1

theorem ways_out
    (hup : Holding.upService env serde exchange request context before =
      ((.ok (session, file), bastion), ledger))
    (hrun : (watchSystem serde exchange peerA peerB session).run
      (Watch.start session ledger bastion) moves = some (outputs, s)) :
    WaysOut serde exchange peerA peerB session ledger moves s := by
  have hbegins := begins_of_up hup
  have hok := ok_of_run hup hrun
  refine ⟨?_, ?_, ?_, ?_⟩
  · have hcount := (watchSystem serde exchange peerA peerB session).countP_le_of_budget
      (fun (u : Watch world left right) _ _ _ (_ : True) hstep =>
        ⟨trivial, mainLeft_step (watchSystem_step _ _ _ _ _ hstep)⟩) hrun trivial
    exact Nat.le_trans (Nat.le_add_right _ _) hcount
  · intro exit hexit
    exact exists_exit peerA peerB hbegins _ (Nat.le_refl _) hok hexit
  · intro hwaiting hfatal
    rcases hfatal with ⟨move, hmove, hfatal⟩
    have hlost := lost_of_fatal hbegins (Watch.ok_start hbegins) hrun hmove hfatal
    rcases exists_died peerA peerB hok hwaiting hlost with
      ⟨first, noticed, t, hfirst, hdied, hmoves⟩
    rcases exists_exit peerA peerB hbegins _ (Nat.le_refl _) (ok_run hbegins hok hfirst)
      hdied with ⟨rest, ended, u, hrest, hexited, hmoves'⟩
    refine ⟨first ++ rest, noticed ++ ended, u,
      (watchSystem serde exchange peerA peerB session).run_append hfirst hrest, hexited,
      by rw [hexited]; rfl, ?_⟩
    intro move hmove
    rcases List.mem_append.mp hmove with hearlier | hlater
    · exact Or.inr (hmoves move hearlier)
    · rcases hmoves' move hlater with hmain | hworker
      · exact Or.inl hmain
      · exact Or.inr (Or.inl hworker)
  · intro hstopped more outputs' t hmore
    have hworker := countP_le_of_stopped workerBudget hstopped hmore
    have haccept := countP_le_of_stopped acceptBudget hstopped hmore
    rcases hstopped with ⟨forward, hforward, hstop⟩
    simp only [Watch.leftOf, hforward, Option.map_some, Option.getD_some] at hworker haccept
    refine ⟨Nat.le_trans hworker forward.worker.phase.left_le,
      Nat.le_trans haccept forward.worker.phase.rounds_le, ?_⟩
    intro index
    have hround := countP_le_of_stopped (roundBudget index) ⟨forward, hforward, hstop⟩ hmore
    simp only [Watch.leftOf, hforward, Option.map_some, Option.getD_some] at hround
    exact Nat.le_trans hround (forward.roundsAt_le index)

end Results

end System

/-!
# A session that is lost
-/

def tunnelLost : List (WatchMove Unit Unit) :=
  [.install true, .forward (.worker .check),
    .forward (.worker (.work (.failed (.session (-43))))), .forward (.worker .leave), .look]

def idlePeer : Peer Unit where
  read := fun s => (.failed { kind := .wouldBlock, message := "would block" }, s)
  write := fun s _ => (.failed { kind := .wouldBlock, message := "would block" }, s)

section

open Bastion

theorem exists_watch_tunnelLost :
    exists session file bastion ledger s,
      Holding.upService (failingAt none) serdeJson
          (connect serdeJson noopListener true Arrival.bytewise) aliceUp ⟨"demo"⟩
          (Registry.default, ()) = ((.ok (session, file), bastion), ledger) ∧
      (watchSystem serdeJson (connect serdeJson noopListener true Arrival.bytewise)
          idlePeer idlePeer session).run (Watch.start session ledger bastion) tunnelLost =
        some (tunnelLost.map fun _ => (), s) ∧
      s.phase = .deregistering .tunnelDied := by
  have hport : aliceUp.localServicePort = some 8000 := rfl
  rcases exists_upService_ok hport rfl (admitted_aliceUp _) with
    ⟨session, file, bastion, hup⟩
  rcases upService_registers serdeJson_registerRequest_faithful
    serdeJson_registerResponse_faithful noopListener true Arrival.bytewise
    (failingAt none) ⟨"demo"⟩ hport hup with ⟨port, _, _, hremote⟩
  cases hholding : Holding.upService (failingAt none) serdeJson
      (connect serdeJson noopListener true Arrival.bytewise) aliceUp ⟨"demo"⟩
      (Registry.default, ()) with
  | mk outcome ledger =>
      have hsame := Holding.upService_outcome (failingAt none) aliceUp ⟨"demo"⟩ serdeJson
        (connect serdeJson noopListener true Arrival.bytewise) (Registry.default, ())
      rw [hholding, hup] at hsame
      cases hsame
      have haccount := Holding.upService_account (failingAt none) aliceUp serdeJson
        (connect serdeJson noopListener true Arrival.bytewise) ⟨"demo"⟩ (Registry.default, ())
      rw [hholding] at haccount
      have hlocal : session.localPort.isSome = true := by
        cases haccount with
        | service target endpoint localPort remotePort specs hlocal _ _ _ _ =>
            rw [hlocal]
            rfl
        | worker specs _ hnone _ _ _ =>
            rw [hremote] at hnone
            cases hnone
      rcases Option.isSome_iff_exists.mp hlocal with ⟨localPort, hlocal⟩
      have hstart : (Watch.start session ledger bastion : Watch _ Unit Unit) =
          { phase := .installing, reverse := some .opened, bastion := bastion,
            ledger := ledger } := by
        rw [Watch.start, hlocal]
        rfl
      refine ⟨session, file, bastion, ledger, {
        phase := .deregistering .tunnelDied
        reverse := some {
          stop := false
          dead := true
          worker := { phase := .finished, memory := true }
          bridges := [] }
        bastion := bastion
        ledger := ledger }, rfl, ?_, rfl⟩
      rw [hstart]
      rfl

theorem exists_watch_exited :
    exists session file bastion ledger more outputs s,
      Holding.upService (failingAt none) serdeJson
          (connect serdeJson noopListener true Arrival.bytewise) aliceUp ⟨"demo"⟩
          (Registry.default, ()) = ((.ok (session, file), bastion), ledger) ∧
      (watchSystem serdeJson (connect serdeJson noopListener true Arrival.bytewise)
          idlePeer idlePeer session).run (Watch.start session ledger bastion)
          (tunnelLost ++ more) = some (outputs, s) ∧
      s.phase = .exited .tunnelDied := by
  rcases exists_watch_tunnelLost with
    ⟨session, file, bastion, ledger, s, hup, hrun, hphase⟩
  have hok := ok_of_run hup hrun
  have hexit : s.phase.exit? = some .tunnelDied := by
    rw [hphase]
    rfl
  rcases exists_exit idlePeer idlePeer (begins_of_up hup) _ (Nat.le_refl _) hok hexit with
    ⟨more, outputs, t, hmore, hexited, _⟩
  exact ⟨session, file, bastion, ledger, more, _, t, hup,
    (watchSystem serdeJson (connect serdeJson noopListener true Arrival.bytewise)
      idlePeer idlePeer session).run_append hrun hmore, hexited⟩

theorem watched_tunnelLost :
    exists session file bastion ledger more s,
      Holding.upService (failingAt none) serdeJson
          (connect serdeJson noopListener true Arrival.bytewise) aliceUp ⟨"demo"⟩
          (Registry.default, ()) = ((.ok (session, file), bastion), ledger) ∧
      s.phase = .exited .tunnelDied ∧
      Watched serdeJson (connect serdeJson noopListener true Arrival.bytewise)
        (failingAt none) aliceUp session bastion (tunnelLost ++ more) s := by
  rcases exists_watch_exited with
    ⟨session, file, bastion, ledger, more, outputs, s, hup, hrun, hphase⟩
  exact ⟨session, file, bastion, ledger, more, s, hup, hphase, watched hup hrun⟩

theorem ways_out_tunnelLost :
    exists session file bastion ledger more, exists s : Watch (Registry × Unit) Unit Unit,
      Holding.upService (failingAt none) serdeJson
          (connect serdeJson noopListener true Arrival.bytewise) aliceUp ⟨"demo"⟩
          (Registry.default, ()) = ((.ok (session, file), bastion), ledger) ∧
      s.phase = .exited .tunnelDied ∧
      WaysOut serdeJson (connect serdeJson noopListener true Arrival.bytewise) idlePeer
        idlePeer session ledger (tunnelLost ++ more) s := by
  rcases exists_watch_exited with
    ⟨session, file, bastion, ledger, more, outputs, s, hup, hrun, hphase⟩
  exact ⟨session, file, bastion, ledger, more, s, hup, hphase, ways_out hup hrun⟩

end

end Laptop

end Ephemwork

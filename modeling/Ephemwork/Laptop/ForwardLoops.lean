import Ephemwork.Foundation.Calls
import Ephemwork.Laptop.FailedUp

/-!
# Opening the forwards

The loops in which `up_service` and `up_worker` open the forwards of a request, on
the local ports of the laptop.  Both reuse what a live session has.  The worker's
tests that a port is free before it opens a tunnel; the service's takes any listener
on the port for its tunnel.
-/

namespace Ephemwork

open Foundation

namespace Laptop

/-!
# The local ports
-/

/-- The ports of the laptop that accept connections while forwards are opened. -/
structure LocalPorts where
  /-- Those of processes that no session owns. -/
  unknown : UInt16 -> Bool
  /-- Those of the tunnels of the loop. -/
  tunnels : List UInt16

namespace LocalPorts

def accepts (ports : LocalPorts) (port : UInt16) : Bool :=
  ports.unknown port || ports.tunnels.contains port

def listen (ports : LocalPorts) (port : UInt16) : LocalPorts :=
  { ports with tunnels := port :: ports.tunnels }

def ofUnknown (unknown : UInt16 -> Bool) : LocalPorts where
  unknown := unknown
  tunnels := []

@[simp] theorem accepts_listen (ports : LocalPorts) (port other : UInt16) :
    (ports.listen port).accepts other = true <->
      ports.accepts other = true ∨ other = port := by
  simp [accepts, listen, or_assoc, or_comm]

@[simp] theorem accepts_ofUnknown (unknown : UInt16 -> Bool) (port : UInt16) :
    (ofUnknown unknown).accepts port = unknown port := by
  simp [accepts, ofUnknown]

end LocalPorts

/-!
# Opening one forward

Of the environment, `openForward` says whether the client for an entry can be
spawned and `forwardReady` whether its tunnel then comes up in time, if the port
is free.  A client that finds its port taken opens no tunnel.
-/

def portInUse (port : UInt16) : String :=
  "local port " ++ toString port ++ " is already in use — likely a leftover " ++
    "process from a previous `ephemwork up` that didn't shut down cleanly.\n\n" ++
    "  Find it:  lsof -nP -iTCP:" ++ toString port ++ " -sTCP:LISTEN\n" ++
    "  Kill it:  pkill -f \"uvicorn\\|node\\|<your run_command>\"\n" ++
    "  Then re-run ephemwork up."

def notReachable (port : UInt16) : String :=
  "port 127.0.0.1:" ++ toString port ++ " did not become reachable within 15s"

section Loop

variable (env : UpEnvironment)

def assertPortFree (index : Nat) (port : UInt16) : Call LocalPorts UpError Unit :=
  Call.ofFn fun ports =>
    if ports.accepts port then
      (.error (.step (.forwardPortFree index) (portInUse port)), ports)
    else
      (.ok (), ports)

def startRemoteHostForward (index : Nat) (port : UInt16) :
    Call LocalPorts UpError Unit :=
  Call.ofFn fun ports =>
    match env.failure (.openForward index) with
    | some message => (.error (.step (.openForward index) message), ports)
    | none =>
        if ports.accepts port = false ∧ env.failure (.forwardReady index) = none then
          (.ok (), ports.listen port)
        else
          (.ok (), ports)

def waitForLocalPort (index : Nat) (port : UInt16) : Call LocalPorts UpError Unit :=
  Call.ofFn fun ports =>
    if ports.accepts port then
      (.ok (), ports)
    else
      (.error (.step (.forwardReady index) (notReachable port)), ports)

def openForward (testFree : Bool) (index : Nat) (port : UInt16) :
    Call LocalPorts UpError Unit := do
  Call.skipIf (!testFree) (assertPortFree index port)
  startRemoteHostForward env index port
  waitForLocalPort index port

/-- What keeps the forward from being opened does not happen, where `taken` says
that something listens on the port already. -/
def Opens (testFree : Bool) (index : Nat) (taken : Prop) : Prop :=
  (testFree = true -> ¬ taken) ∧ env.failure (.openForward index) = none ∧
    (¬ taken -> env.failure (.forwardReady index) = none)

theorem startThenWait_exec (index : Nat) (port : UInt16) (ports : LocalPorts) :
    (startRemoteHostForward env index port >>= fun _ =>
        waitForLocalPort index port).exec ports =
      match env.failure (.openForward index) with
      | some message => (.error (.step (.openForward index) message), ports)
      | none =>
          if ports.accepts port then
            (.ok (), ports)
          else if env.failure (.forwardReady index) = none then
            (.ok (), ports.listen port)
          else
            (.error (.step (.forwardReady index) (notReachable port)), ports) := by
  rw [Call.exec_bind]
  simp only [startRemoteHostForward, waitForLocalPort, Call.exec_ofFn]
  cases env.failure (.openForward index) with
  | some message => rfl
  | none =>
      cases htaken : ports.accepts port with
      | true => simp [htaken]
      | false =>
          cases hready : env.failure (.forwardReady index) with
          | none => simp
          | some message => simp [htaken]

theorem openForward_exec (testFree : Bool) (index : Nat) (port : UInt16)
    (ports : LocalPorts) :
    (openForward env testFree index port).exec ports =
      if testFree = true ∧ ports.accepts port = true then
        (.error (.step (.forwardPortFree index) (portInUse port)), ports)
      else
        (startRemoteHostForward env index port >>= fun _ =>
          waitForLocalPort index port).exec ports := by
  cases testFree with
  | false => simp [openForward, Call.skipIf]
  | true =>
      cases htaken : ports.accepts port with
      | true => simp [openForward, Call.skipIf, Call.exec_bind, assertPortFree, htaken]
      | false => simp [openForward, Call.skipIf, Call.exec_bind, assertPortFree, htaken]

theorem openForward_of_opens {testFree : Bool} {index : Nat} {port : UInt16}
    {ports : LocalPorts} (h : Opens env testFree index (ports.accepts port = true)) :
    exists t, (openForward env testFree index port).exec ports = (.ok (), t) ∧
      forall other, t.accepts other = true <->
        ports.accepts other = true ∨ other = port := by
  rcases h with ⟨hfree, hspawn, hready⟩
  have htest : ¬ (testFree = true ∧ ports.accepts port = true) :=
    fun h => hfree h.left h.right
  rw [openForward_exec, if_neg htest, startThenWait_exec, hspawn]
  cases htaken : ports.accepts port with
  | true =>
      refine ⟨ports, by simp, ?_⟩
      intro other
      constructor
      · exact Or.inl
      · intro h
        rcases h with h | rfl
        · exact h
        · exact htaken
  | false =>
      have hup : env.failure (.forwardReady index) = none :=
        hready (by simp [htaken])
      exact ⟨ports.listen port, by simp [hup], ports.accepts_listen port⟩

theorem openForward_of_not_opens {testFree : Bool} {index : Nat} {port : UInt16}
    {ports : LocalPorts} (h : ¬ Opens env testFree index (ports.accepts port = true)) :
    exists e t, (openForward env testFree index port).exec ports = (.error e, t) := by
  rw [openForward_exec]
  by_cases htest : testFree = true ∧ ports.accepts port = true
  · rw [if_pos htest]
    exact ⟨_, _, rfl⟩
  · rw [if_neg htest, startThenWait_exec]
    cases hspawn : env.failure (.openForward index) with
    | some message => exact ⟨_, _, rfl⟩
    | none =>
        -- The port is free and the tunnel does not come up.
        have hstuck : ports.accepts port = false ∧
            env.failure (.forwardReady index) ≠ none := by
          constructor
          · by_contra htaken
            have htaken' : ports.accepts port = true := by simpa using htaken
            exact h ⟨fun htrue _ => htest ⟨htrue, htaken'⟩, hspawn,
              fun hfree => absurd htaken' hfree⟩
          · intro hup
            exact h ⟨fun htrue htaken => htest ⟨htrue, htaken⟩, hspawn, fun _ => hup⟩
        rw [hstuck.left]
        simp [hstuck.right]

theorem openForward_ok {testFree : Bool} {index : Nat} {port : UInt16}
    {ports t : LocalPorts}
    (hexec : (openForward env testFree index port).exec ports = (.ok (), t)) :
    Opens env testFree index (ports.accepts port = true) ∧
      forall other, t.accepts other = true <->
        ports.accepts other = true ∨ other = port := by
  by_cases hopens : Opens env testFree index (ports.accepts port = true)
  · rcases openForward_of_opens env hopens with ⟨t', hexec', haccepts⟩
    rw [hexec] at hexec'
    cases hexec'
    exact ⟨hopens, haccepts⟩
  · rcases openForward_of_not_opens env hopens with ⟨e, t', hexec'⟩
    rw [hexec] at hexec'
    cases hexec'

end Loop

/-!
# The loops
-/

/-- What a loop did: the entries it reused and those it opened. -/
structure Forwards where
  reused : List ForwardPortSpec
  opened : List ForwardPortSpec
deriving DecidableEq, Repr

/-- The local ports that are recorded as the session's own. -/
def Forwards.owned (forwards : Forwards) : List UInt16 :=
  forwards.opened.map ForwardPortSpec.localPort

section Loops

variable (env : UpEnvironment) (state : State) (user : String)

/-- An entry, and whether a session of the user has it. -/
def readForward (raw : String) : Except UpError (ForwardPortSpec × Bool) :=
  match parseForwardPortSpec raw with
  | .error e => .error (.forwardPort e)
  | .ok spec => (checkForwardReuse env state user spec).map fun reused => (spec, reused)

def forwardLoop (testFree : Bool) :
    Nat -> List String -> Call LocalPorts UpError Forwards
  | _, [] => return { reused := [], opened := [] }
  | index, raw :: rest =>
      match readForward env state user raw with
      | .error e => throw e
      | .ok (spec, true) => do
          let forwards <- forwardLoop testFree (index + 1) rest
          return { forwards with reused := spec :: forwards.reused }
      | .ok (spec, false) => do
          openForward env testFree index spec.localPort
          let forwards <- forwardLoop testFree (index + 1) rest
          return { forwards with opened := spec :: forwards.opened }

def serviceForwards (raws : List String) : Call LocalPorts UpError Forwards :=
  forwardLoop env state user false 0 raws

def workerForwards (raws : List String) : Call LocalPorts UpError Forwards :=
  forwardLoop env state user true 0 raws

/-!
# When a loop succeeds
-/

def SomeBlocked (raws : List String) : Prop :=
  exists raw, raw ∈ raws ∧ exists e, readForward env state user raw = .error e

def toReuse : List String -> List ForwardPortSpec
  | [] => []
  | raw :: rest =>
      match readForward env state user raw with
      | .ok (spec, true) => spec :: toReuse rest
      | _ => toReuse rest

def toOpen : Nat -> List String -> List (Nat × ForwardPortSpec)
  | _, [] => []
  | index, raw :: rest =>
      match readForward env state user raw with
      | .ok (spec, false) => (index, spec) :: toOpen (index + 1) rest
      | _ => toOpen (index + 1) rest

/-- The port is held from the start, or an entry before took it. -/
def Taken (held : UInt16 -> Prop) (before : List (Nat × ForwardPortSpec))
    (port : UInt16) : Prop :=
  held port ∨ port ∈ before.map fun entry => entry.2.localPort

def AllOpen (testFree : Bool) (held : UInt16 -> Prop)
    (entries : List (Nat × ForwardPortSpec)) : Prop :=
  forall before index spec after, entries = before ++ (index, spec) :: after ->
    Opens env testFree index (Taken held before spec.localPort)

theorem taken_nil (held : UInt16 -> Prop) (port : UInt16) :
    Taken held [] port <-> held port := by
  simp [Taken]

theorem taken_cons (held : UInt16 -> Prop) (entry : Nat × ForwardPortSpec)
    (before : List (Nat × ForwardPortSpec)) (port : UInt16) :
    Taken held (entry :: before) port <->
      Taken (fun other => held other ∨ other = entry.2.localPort) before port := by
  simp [Taken, or_assoc]

theorem allOpen_nil (testFree : Bool) (held : UInt16 -> Prop) :
    AllOpen env testFree held [] := by
  intro before index spec after hsplit
  cases before with
  | nil => cases hsplit
  | cons entry before => cases hsplit

theorem allOpen_cons (testFree : Bool) (held : UInt16 -> Prop) (index : Nat)
    (spec : ForwardPortSpec) (rest : List (Nat × ForwardPortSpec)) :
    AllOpen env testFree held ((index, spec) :: rest) <->
      Opens env testFree index (held spec.localPort) ∧
        AllOpen env testFree (fun port => held port ∨ port = spec.localPort) rest := by
  constructor
  · intro h
    constructor
    · have hfirst := h [] index spec rest rfl
      rw [taken_nil] at hfirst
      exact hfirst
    · intro before index' spec' after hsplit
      have hlater := h ((index, spec) :: before) index' spec' after (by rw [hsplit]; rfl)
      rw [taken_cons] at hlater
      exact hlater
  · intro h before index' spec' after hsplit
    cases before with
    | nil =>
        cases hsplit
        rw [taken_nil]
        exact h.left
    | cons entry before =>
        cases hsplit
        rw [taken_cons]
        exact h.right before index' spec' after rfl

variable {env state user}

theorem someBlocked_cons {raw : String} {rest : List String}
    {entry : ForwardPortSpec × Bool}
    (hread : readForward env state user raw = .ok entry) :
    SomeBlocked env state user (raw :: rest) <-> SomeBlocked env state user rest := by
  constructor
  · intro h
    rcases h with ⟨raw', hmem, e, hblocked⟩
    rcases List.mem_cons.mp hmem with rfl | hmem
    · rw [hread] at hblocked
      cases hblocked
    · exact ⟨raw', hmem, e, hblocked⟩
  · intro h
    rcases h with ⟨raw', hmem, hblocked⟩
    exact ⟨raw', List.mem_cons_of_mem raw hmem, hblocked⟩

theorem forwardLoop_reused_eq_ok_iff {testFree : Bool} {index : Nat} {raw : String}
    {rest : List String} {spec : ForwardPortSpec} {ports : LocalPorts}
    {forwards : Forwards}
    (hread : readForward env state user raw = .ok (spec, true)) :
    ((forwardLoop env state user testFree index (raw :: rest)).exec ports).1 =
        .ok forwards <->
      exists others,
        ((forwardLoop env state user testFree (index + 1) rest).exec ports).1 =
          .ok others ∧
        forwards = { others with reused := spec :: others.reused } := by
  simp only [forwardLoop, hread, Call.bind_eq_ok_iff]
  constructor
  · intro h
    rcases h with ⟨others, t, hrest, heq⟩
    cases heq
    exact ⟨others, by rw [hrest], rfl⟩
  · intro h
    rcases h with ⟨others, hrest, rfl⟩
    exact ⟨others, _, Prod.ext hrest rfl, rfl⟩

theorem forwardLoop_opened_eq_ok_iff {testFree : Bool} {index : Nat} {raw : String}
    {rest : List String} {spec : ForwardPortSpec} {ports : LocalPorts}
    {forwards : Forwards}
    (hread : readForward env state user raw = .ok (spec, false)) :
    ((forwardLoop env state user testFree index (raw :: rest)).exec ports).1 =
        .ok forwards <->
      exists t others,
        (openForward env testFree index spec.localPort).exec ports = (.ok (), t) ∧
        ((forwardLoop env state user testFree (index + 1) rest).exec t).1 =
          .ok others ∧
        forwards = { others with opened := spec :: others.opened } := by
  simp only [forwardLoop, hread, Call.bind_eq_ok_iff]
  constructor
  · intro h
    rcases h with ⟨_, t, hfirst, others, last, hrest, heq⟩
    cases heq
    exact ⟨t, others, hfirst, by rw [hrest], rfl⟩
  · intro h
    rcases h with ⟨t, others, hfirst, hrest, rfl⟩
    exact ⟨(), t, hfirst, others, _, Prod.ext hrest rfl, rfl⟩

theorem forwardLoop_eq_ok_iff (testFree : Bool) (index : Nat) (raws : List String)
    (ports : LocalPorts) (forwards : Forwards) :
    ((forwardLoop env state user testFree index raws).exec ports).1 = .ok forwards <->
      ¬ SomeBlocked env state user raws ∧
        AllOpen env testFree (fun port => ports.accepts port = true)
          (toOpen env state user index raws) ∧
        forwards = {
          reused := toReuse env state user raws
          opened := (toOpen env state user index raws).map Prod.snd } := by
  induction raws generalizing index ports forwards with
  | nil =>
      constructor
      · intro h
        cases h
        refine ⟨?_, allOpen_nil env testFree _, rfl⟩
        intro hblocked
        rcases hblocked with ⟨raw, hmem, _⟩
        cases hmem
      · intro h
        rw [h.right.right]
        rfl
  | cons raw rest ih =>
      cases hread : readForward env state user raw with
      | error e =>
          simp only [forwardLoop, hread, Call.exec_throw]
          constructor
          · intro h
            cases h
          · intro h
            exact absurd ⟨raw, List.mem_cons_self, e, hread⟩ h.left
      | ok entry =>
          rcases entry with ⟨spec, reused⟩
          rw [someBlocked_cons hread]
          cases reused with
          | true =>
              rw [forwardLoop_reused_eq_ok_iff hread]
              simp only [toReuse, toOpen, hread]
              constructor
              · intro h
                rcases h with ⟨others, hrest, rfl⟩
                rcases (ih (index + 1) ports others).mp hrest with
                  ⟨hblocked, hopen, rfl⟩
                exact ⟨hblocked, hopen, rfl⟩
              · intro h
                rcases h with ⟨hblocked, hopen, rfl⟩
                exact ⟨_, (ih (index + 1) ports _).mpr ⟨hblocked, hopen, rfl⟩, rfl⟩
          | false =>
              rw [forwardLoop_opened_eq_ok_iff hread]
              simp only [toReuse, toOpen, hread, allOpen_cons]
              have hheld : forall {t : LocalPorts},
                  (forall other, t.accepts other = true <->
                    ports.accepts other = true ∨ other = spec.localPort) ->
                  (fun port => t.accepts port = true) = fun port =>
                    ports.accepts port = true ∨ port = spec.localPort :=
                fun haccepts => funext fun port => propext (haccepts port)
              constructor
              · intro h
                rcases h with ⟨t, others, hexec, hrest, rfl⟩
                rcases openForward_ok env hexec with ⟨hopens, haccepts⟩
                rcases (ih (index + 1) t others).mp hrest with ⟨hblocked, hopen, rfl⟩
                rw [hheld haccepts] at hopen
                exact ⟨hblocked, ⟨hopens, hopen⟩, rfl⟩
              · intro h
                rcases h with ⟨hblocked, ⟨hopens, hopen⟩, rfl⟩
                rcases openForward_of_opens env hopens with ⟨t, hexec, haccepts⟩
                rw [← hheld haccepts] at hopen
                exact ⟨t, _, hexec, (ih (index + 1) t _).mpr ⟨hblocked, hopen, rfl⟩,
                  rfl⟩

end Loops

/-!
# The loops inside the commands

`openForwards` leaves it to the environment which step fails.  On given ports the
steps fail as they do here.
-/

section Commands

variable (env : UpEnvironment) (state : State) (user : String)

instance (held : UInt16 -> Prop) [DecidablePred held]
    (before : List (Nat × ForwardPortSpec)) (port : UInt16) :
    Decidable (Taken held before port) :=
  inferInstanceAs (Decidable (_ ∨ _))

def localPortAt (raws : List String) (index : Nat) : Option UInt16 :=
  raws[index]?.bind fun raw =>
    (parseForwardPortSpec raw).toOption.map ForwardPortSpec.localPort

def TakenAt (unknown : UInt16 -> Bool) (raws : List String) (index : Nat)
    (port : UInt16) : Prop :=
  Taken (fun other => unknown other = true) (toOpen env state user 0 (raws.take index))
    port

instance (unknown : UInt16 -> Bool) (raws : List String) (index : Nat)
    (port : UInt16) : Decidable (TakenAt env state user unknown raws index port) :=
  inferInstanceAs (Decidable (Taken _ _ _))

/-- The environment on given ports: the two steps that look at a port fail as its
occupation says. -/
def onPorts (unknown : UInt16 -> Bool) (raws : List String) : UpEnvironment :=
  { env with
    failure := fun step =>
      match step with
      | .forwardPortFree index =>
          (localPortAt raws index).bind fun port =>
            if TakenAt env state user unknown raws index port then
              some (portInUse port)
            else
              none
      | .forwardReady index =>
          (localPortAt raws index).bind fun port =>
            if TakenAt env state user unknown raws index port then
              none
            else
              (env.failure step).map fun _ => notReachable port
      | _ => env.failure step }

def forwardSteps (testFree : Bool) (index : Nat) : Except UpError Unit := do
  env.attemptIf testFree (.forwardPortFree index)
  env.attempt (.openForward index)
  env.attempt (.forwardReady index)

variable {env state user}

theorem toOpen_append (index : Nat) (done rest : List String) :
    toOpen env state user index (done ++ rest) =
      toOpen env state user index done ++
        toOpen env state user (index + done.length) rest := by
  induction done generalizing index with
  | nil => rfl
  | cons raw done ih =>
      have hindex : index + (done.length + 1) = index + 1 + done.length := by omega
      cases hread : readForward env state user raw with
      | error e =>
          simp only [List.cons_append, toOpen, hread, ih, List.length_cons, hindex]
      | ok entry =>
          rcases entry with ⟨spec, reused⟩
          cases reused with
          | true =>
              simp only [List.cons_append, toOpen, hread, ih, List.length_cons, hindex]
          | false =>
              simp only [List.cons_append, toOpen, hread, ih, List.length_cons, hindex]

section Steps

variable {unknown : UInt16 -> Bool} {raws : List String} {index : Nat} {port : UInt16}
variable (hport : localPortAt raws index = some port)

include hport

theorem onPorts_forwardPortFree :
    (onPorts env state user unknown raws).attempt (.forwardPortFree index) =
      if TakenAt env state user unknown raws index port then
        .error (.step (.forwardPortFree index) (portInUse port))
      else
        .ok () := by
  by_cases htaken : TakenAt env state user unknown raws index port
  · simp [UpEnvironment.attempt, onPorts, hport, htaken]
  · simp [UpEnvironment.attempt, onPorts, hport, htaken]

theorem onPorts_forwardReady :
    (onPorts env state user unknown raws).attempt (.forwardReady index) =
      if TakenAt env state user unknown raws index port then
        .ok ()
      else if env.failure (.forwardReady index) = none then
        .ok ()
      else
        .error (.step (.forwardReady index) (notReachable port)) := by
  by_cases htaken : TakenAt env state user unknown raws index port
  · simp [UpEnvironment.attempt, onPorts, hport, htaken]
  · cases hready : env.failure (.forwardReady index) with
    | none => simp [UpEnvironment.attempt, onPorts, hport, htaken, hready]
    | some message => simp [UpEnvironment.attempt, onPorts, hport, htaken, hready]

theorem openForward_onPorts {ports : LocalPorts} (testFree : Bool)
    (htaken : ports.accepts port = true <->
      TakenAt env state user unknown raws index port) :
    ((openForward env testFree index port).exec ports).1 =
      forwardSteps (onPorts env state user unknown raws) testFree index := by
  have hopen : (onPorts env state user unknown raws).attempt (.openForward index) =
      env.attempt (.openForward index) := rfl
  rw [openForward_exec, startThenWait_exec, forwardSteps, hopen,
    onPorts_forwardReady hport, UpEnvironment.attemptIf, onPorts_forwardPortFree hport]
  simp only [htaken, UpEnvironment.attempt]
  by_cases htakenAt : TakenAt env state user unknown raws index port
  · cases testFree with
    | true => simp [htakenAt, bind, Except.bind]
    | false =>
        cases env.failure (.openForward index) with
        | none => simp [htakenAt, bind, Except.bind]
        | some message => simp [bind, Except.bind]
  · cases env.failure (.openForward index) with
    | none =>
        cases env.failure (.forwardReady index) with
        | none => simp [htakenAt, bind, Except.bind]
        | some message => simp [htakenAt, bind, Except.bind]
    | some message => simp [htakenAt, bind, Except.bind]

end Steps

theorem openForwards_cons (testFree : Bool) (index : Nat) (raw : String)
    (rest : List String) :
    openForwards env testFree state user index (raw :: rest) =
      match readForward env state user raw with
      | .error e => .error e
      | .ok (_, true) => openForwards env testFree state user (index + 1) rest
      | .ok (spec, false) => do
          forwardSteps env testFree index
          let owned <- openForwards env testFree state user (index + 1) rest
          return spec.localPort :: owned := by
  cases hparse : parseForwardPortSpec raw with
  | error e => simp [openForwards, readForward, hparse]
  | ok spec =>
      cases hreuse : checkForwardReuse env state user spec with
      | error e =>
          simp [openForwards, readForward, hparse, hreuse, Except.map, bind, Except.bind]
      | ok reused =>
          cases reused with
          | true =>
              simp [openForwards, readForward, hparse, hreuse, Except.map, bind,
                Except.bind]
          | false =>
              simp only [openForwards, readForward, hparse, hreuse, Except.map,
                forwardSteps, bind_assoc]
              rfl

theorem parse_of_readForward {raw : String} {spec : ForwardPortSpec} {reused : Bool}
    (hread : readForward env state user raw = .ok (spec, reused)) :
    parseForwardPortSpec raw = .ok spec := by
  unfold readForward at hread
  cases hparse : parseForwardPortSpec raw with
  | error e =>
      rw [hparse] at hread
      cases hread
  | ok spec' =>
      rw [hparse] at hread
      dsimp only at hread
      cases hreuse : checkForwardReuse env state user spec' with
      | error e =>
          rw [hreuse] at hread
          cases hread
      | ok reused' =>
          rw [hreuse] at hread
          cases hread
          rfl

def Reached (env : UpEnvironment) (state : State) (user : String)
    (unknown : UInt16 -> Bool) (done : List String) (ports : LocalPorts) : Prop :=
  forall port, ports.accepts port = true <->
    Taken (fun other => unknown other = true) (toOpen env state user 0 done) port

theorem Reached.reused {unknown : UInt16 -> Bool} {done : List String}
    {ports : LocalPorts} (h : Reached env state user unknown done ports) {raw : String}
    {spec : ForwardPortSpec} (hread : readForward env state user raw = .ok (spec, true)) :
    Reached env state user unknown (done ++ [raw]) ports := by
  intro port
  rw [h port, toOpen_append]
  simp [toOpen, hread]

theorem Reached.opened {unknown : UInt16 -> Bool} {done : List String}
    {ports t : LocalPorts} (h : Reached env state user unknown done ports) {raw : String}
    {spec : ForwardPortSpec} (hread : readForward env state user raw = .ok (spec, false))
    (ht : forall other, t.accepts other = true <->
      ports.accepts other = true ∨ other = spec.localPort) :
    Reached env state user unknown (done ++ [raw]) t := by
  intro port
  rw [ht port, h port, toOpen_append]
  simp [toOpen, hread, Taken, or_assoc]

theorem openForwards_onPorts_from {unknown : UInt16 -> Bool} {raws : List String}
    (testFree : Bool) (done rest : List String) (hsplit : raws = done ++ rest)
    (ports : LocalPorts) (hports : Reached env state user unknown done ports) :
    openForwards (onPorts env state user unknown raws) testFree state user
        done.length rest =
      ((forwardLoop env state user testFree done.length rest).exec ports).1.map
        Forwards.owned := by
  induction rest generalizing done ports with
  | nil => rfl
  | cons raw rest ih =>
      have hnext : raws = (done ++ [raw]) ++ rest := by rw [hsplit]; simp
      have hlength : (done ++ [raw]).length = done.length + 1 := by simp
      have hreadOn : readForward (onPorts env state user unknown raws) state user raw =
          readForward env state user raw := rfl
      rw [openForwards_cons, hreadOn]
      cases hread : readForward env state user raw with
      | error e => simp [forwardLoop, hread, Except.map]
      | ok entry =>
          rcases entry with ⟨spec, reused⟩
          cases reused with
          | true =>
              have hrest := ih (done ++ [raw]) hnext ports (hports.reused hread)
              rw [hlength] at hrest
              simp only [forwardLoop, hread, Call.exec_bind, hrest]
              cases (forwardLoop env state user testFree (done.length + 1) rest).exec
                  ports with
              | mk result t =>
                  cases result with
                  | error e => rfl
                  | ok others => rfl
          | false =>
              have hport : localPortAt raws done.length = some spec.localPort := by
                simp [localPortAt, hsplit, parse_of_readForward hread, Except.toOption]
              have htaken : ports.accepts spec.localPort = true <->
                  TakenAt env state user unknown raws done.length spec.localPort := by
                rw [hports, TakenAt, hsplit, List.take_left]
              have hsteps := openForward_onPorts hport testFree htaken
              simp only [forwardLoop, hread, Call.exec_bind]
              by_cases hopens :
                  Opens env testFree done.length (ports.accepts spec.localPort = true)
              · rcases openForward_of_opens env hopens with ⟨t, hexec, haccepts⟩
                have hrest := ih (done ++ [raw]) hnext t (hports.opened hread haccepts)
                rw [hlength] at hrest
                rw [← hsteps, hexec, hrest]
                dsimp only
                cases (forwardLoop env state user testFree (done.length + 1) rest).exec
                    t with
                | mk result last =>
                    cases result with
                    | error e => rfl
                    | ok others => rfl
              · rcases openForward_of_not_opens env hopens with ⟨e, t, hexec⟩
                rw [← hsteps, hexec]
                rfl

theorem openForwards_onPorts (testFree : Bool) (unknown : UInt16 -> Bool)
    (raws : List String) :
    openForwards (onPorts env state user unknown raws) testFree state user 0 raws =
      ((forwardLoop env state user testFree 0 raws).exec
        (LocalPorts.ofUnknown unknown)).1.map Forwards.owned := by
  apply openForwards_onPorts_from testFree [] raws rfl
  intro port
  simp [toOpen, taken_nil]

end Commands

end Laptop

end Ephemwork

import Ephemwork.Laptop.ForwardLoops

/-!
# The forwards of services and workers

On the same ports the two loops reuse and open the same forwards, unless an entry is
to be opened on a port that something listens on already.
-/

namespace Ephemwork

open Foundation

namespace Laptop

/-!
# Where the loops agree
-/

section Agreement

variable (env : UpEnvironment) (state : State) (user : String)

/-- No entry that is to be opened finds its port taken, by an unknown process or by
an entry before it. -/
def PortsFree (unknown : UInt16 -> Bool) (raws : List String) : Prop :=
  forall before index spec after,
    toOpen env state user 0 raws = before ++ (index, spec) :: after ->
    ¬ Taken (fun port => unknown port = true) before spec.localPort

/-- Some entry stops both loops: it is malformed or its owner is gone, its client
cannot be spawned, or its port is free and the tunnel does not come up. -/
def SomeStops (unknown : UInt16 -> Bool) (raws : List String) : Prop :=
  SomeBlocked env state user raws ∨
    exists before index spec after,
      toOpen env state user 0 raws = before ++ (index, spec) :: after ∧
      (env.failure (.openForward index) ≠ none ∨
        ¬ Taken (fun port => unknown port = true) before spec.localPort ∧
          env.failure (.forwardReady index) ≠ none)

/-- The loops reuse and open the same, or both fail, and neither records a port that
an unknown process holds. -/
structure SameForwards (unknown : UInt16 -> Bool) (raws : List String) : Prop where
  same : ((serviceForwards env state user raws).exec
      (LocalPorts.ofUnknown unknown)).1.toOption =
    ((workerForwards env state user raws).exec
      (LocalPorts.ofUnknown unknown)).1.toOption
  service_owns : forall forwards port,
    ((serviceForwards env state user raws).exec (LocalPorts.ofUnknown unknown)).1 =
      .ok forwards -> port ∈ forwards.owned -> unknown port = false
  worker_owns : forall forwards port,
    ((workerForwards env state user raws).exec (LocalPorts.ofUnknown unknown)).1 =
      .ok forwards -> port ∈ forwards.owned -> unknown port = false

variable {env state user}

theorem allOpen_true_iff (held : UInt16 -> Prop)
    (entries : List (Nat × ForwardPortSpec)) :
    AllOpen env true held entries <->
      AllOpen env false held entries ∧
        forall before index spec after, entries = before ++ (index, spec) :: after ->
          ¬ Taken held before spec.localPort := by
  constructor
  · intro h
    constructor
    · intro before index spec after hsplit
      rcases h before index spec after hsplit with ⟨_, hspawn, hready⟩
      exact ⟨fun hfalse => absurd hfalse Bool.false_ne_true, hspawn, hready⟩
    · intro before index spec after hsplit
      exact (h before index spec after hsplit).left rfl
  · intro h before index spec after hsplit
    rcases h.left before index spec after hsplit with ⟨_, hspawn, hready⟩
    exact ⟨fun _ => h.right before index spec after hsplit, hspawn, hready⟩

theorem serviceForwards_eq_ok_iff (unknown : UInt16 -> Bool) (raws : List String)
    (forwards : Forwards) :
    ((serviceForwards env state user raws).exec (LocalPorts.ofUnknown unknown)).1 =
        .ok forwards <->
      ¬ SomeStops env state user unknown raws ∧
        forwards = {
          reused := toReuse env state user raws
          opened := (toOpen env state user 0 raws).map Prod.snd } := by
  have hopens : AllOpen env false (fun port => unknown port = true)
        (toOpen env state user 0 raws) <->
      ¬ exists before index spec after,
        toOpen env state user 0 raws = before ++ (index, spec) :: after ∧
        (env.failure (.openForward index) ≠ none ∨
          ¬ Taken (fun port => unknown port = true) before spec.localPort ∧
            env.failure (.forwardReady index) ≠ none) := by
    constructor
    · intro hall h
      rcases h with ⟨before, index, spec, after, hsplit, hstops⟩
      rcases hall before index spec after hsplit with ⟨_, hspawn, hready⟩
      rcases hstops with hspawn' | ⟨hfree, hready'⟩
      · exact hspawn' hspawn
      · exact hready' (hready hfree)
    · intro h before index spec after hsplit
      refine ⟨fun hfalse => absurd hfalse Bool.false_ne_true, ?_, ?_⟩
      · by_contra hspawn
        exact h ⟨before, index, spec, after, hsplit, Or.inl hspawn⟩
      · intro hfree
        by_contra hready
        exact h ⟨before, index, spec, after, hsplit, Or.inr ⟨hfree, hready⟩⟩
  have hloop : ((forwardLoop env state user false 0 raws).exec
      (LocalPorts.ofUnknown unknown)).1 = .ok forwards <-> _ :=
    forwardLoop_eq_ok_iff false 0 raws (LocalPorts.ofUnknown unknown) forwards
  simp only [LocalPorts.accepts_ofUnknown] at hloop
  rw [serviceForwards, hloop, hopens, SomeStops, not_or, and_assoc]

theorem workerForwards_eq_ok_iff (unknown : UInt16 -> Bool) (raws : List String)
    (forwards : Forwards) :
    ((workerForwards env state user raws).exec (LocalPorts.ofUnknown unknown)).1 =
        .ok forwards <->
      PortsFree env state user unknown raws ∧
        ((serviceForwards env state user raws).exec
          (LocalPorts.ofUnknown unknown)).1 = .ok forwards := by
  rw [workerForwards, serviceForwards, forwardLoop_eq_ok_iff, forwardLoop_eq_ok_iff,
    allOpen_true_iff]
  simp only [LocalPorts.accepts_ofUnknown]
  constructor
  · intro h
    rcases h with ⟨hblocked, ⟨hopen, hfree⟩, heq⟩
    exact ⟨hfree, hblocked, hopen, heq⟩
  · intro h
    rcases h with ⟨hfree, hblocked, hopen, heq⟩
    exact ⟨hblocked, ⟨hopen, hfree⟩, heq⟩

theorem PortsFree.unknown_eq_false {unknown : UInt16 -> Bool} {raws : List String}
    (h : PortsFree env state user unknown raws) {port : UInt16}
    (hport : port ∈ ((toOpen env state user 0 raws).map Prod.snd).map
      ForwardPortSpec.localPort) : unknown port = false := by
  rcases List.mem_map.mp hport with ⟨spec, hspec, rfl⟩
  rcases List.mem_map.mp hspec with ⟨⟨index, spec⟩, hentry, rfl⟩
  rcases List.append_of_mem hentry with ⟨before, after, hsplit⟩
  rw [Bool.eq_false_iff]
  intro hheld
  exact h before index spec after hsplit (Or.inl hheld)

end Agreement

/-- The two loops agree exactly if no entry to be opened finds its port taken, or some
entry stops both. -/
theorem forwards_agree_iff (env : UpEnvironment) (state : State) (user : String)
    (unknown : UInt16 -> Bool) (raws : List String) :
    SameForwards env state user unknown raws <->
      PortsFree env state user unknown raws ∨
        SomeStops env state user unknown raws := by
  constructor
  · intro h
    by_contra hneither
    rcases not_or.mp hneither with ⟨htaken, hgoes⟩
    -- The service's loop succeeds and the worker's does not.
    have hservice : ((serviceForwards env state user raws).exec
        (LocalPorts.ofUnknown unknown)).1 = .ok _ :=
      (serviceForwards_eq_ok_iff unknown raws _).mpr ⟨hgoes, rfl⟩
    have hsame := h.same
    rw [hservice] at hsame
    cases hworker : ((workerForwards env state user raws).exec
        (LocalPorts.ofUnknown unknown)).1 with
    | ok forwards =>
        exact htaken ((workerForwards_eq_ok_iff unknown raws forwards).mp hworker).left
    | error e =>
        rw [hworker] at hsame
        cases hsame
  · intro h
    have hboth : forall forwards,
        ((serviceForwards env state user raws).exec
          (LocalPorts.ofUnknown unknown)).1 = .ok forwards ->
        PortsFree env state user unknown raws ∧ forwards = {
          reused := toReuse env state user raws
          opened := (toOpen env state user 0 raws).map Prod.snd } := by
      intro forwards hok
      rcases (serviceForwards_eq_ok_iff unknown raws forwards).mp hok with ⟨hgoes, heq⟩
      rcases h with hfree | hstops
      · exact ⟨hfree, heq⟩
      · exact absurd hstops hgoes
    have howns : forall forwards port,
        ((serviceForwards env state user raws).exec
          (LocalPorts.ofUnknown unknown)).1 = .ok forwards ->
        port ∈ forwards.owned -> unknown port = false := by
      intro forwards port hok hport
      rcases hboth forwards hok with ⟨hfree, rfl⟩
      exact hfree.unknown_eq_false hport
    refine ⟨toOption_eq_of_ok_iff ?_, howns, ?_⟩
    · intro forwards
      rw [workerForwards_eq_ok_iff]
      constructor
      · intro hok
        exact ⟨(hboth forwards hok).left, hok⟩
      · intro hok
        exact hok.right
    · intro forwards port hok
      exact howns forwards port ((workerForwards_eq_ok_iff unknown raws _).mp hok).right

/-- An unknown process listens on the port: a service takes it for its tunnel and
records it, a worker refuses. -/
theorem service_owns_unknown_port :
    ((serviceForwards (failingAt none) State.default "alice" ["5432:db:5432"]).exec
        (LocalPorts.ofUnknown fun port => port == 5432)).1 =
      .ok {
        reused := []
        opened := [{ localPort := 5432, remoteHost := "db", remotePort := 5432 }] } ∧
    ((workerForwards (failingAt none) State.default "alice" ["5432:db:5432"]).exec
        (LocalPorts.ofUnknown fun port => port == 5432)).1 =
      .error (.step (.forwardPortFree 0) (portInUse 5432)) ∧
    ¬ SameForwards (failingAt none) State.default "alice" (fun port => port == 5432)
      ["5432:db:5432"] := by
  refine ⟨rfl, rfl, ?_⟩
  intro h
  have howns := h.service_owns _ 5432 rfl List.mem_cons_self
  cases howns

end Laptop

end Ephemwork

import Ephemwork.Laptop.AwsProvisioner

/-!
# The ingress of the VPC's endpoints

The check of `src/aws_bastion_provisioner.rs` that the interface endpoints of
the VPC let the bastion in.  What it decides for one security group differs from
what EC2 decides in the protocols it knows, and what it decides for an endpoint
differs in asking every group of the endpoint.
-/

namespace Ephemwork

open Foundation

namespace Laptop

/-!
# One group's permissions
-/

def ingressAllows : List IpPermission -> String -> UInt16 -> Bool
  | [], _, _ => false
  | p :: rest, sourceSgId, port =>
      if p.ipProtocol ≠ some "tcp" then
        ingressAllows rest sourceSgId port
      else
        let fromPort := p.fromPort.getD (-1)
        let toPort := p.toPort.getD (-1)
        if fromPort > (port.toNat : Int) ∨ toPort < (port.toNat : Int) then
          ingressAllows rest sourceSgId port
        else if p.userIdGroupPairs.any fun pair => pair.groupId == some sourceSgId then
          true
        else
          ingressAllows rest sourceSgId port

namespace IpPermission

def Names (p : IpPermission) (sourceSgId : String) : Prop :=
  exists pair, pair ∈ p.userIdGroupPairs ∧ pair.groupId = some sourceSgId

/-- The port is in the permission's range; a bound that is absent is -1. -/
def InRange (p : IpPermission) (port : UInt16) : Prop :=
  p.fromPort.getD (-1) ≤ (port.toNat : Int) ∧ (port.toNat : Int) ≤ p.toPort.getD (-1)

/-- EC2 lets TCP in on the port: `-1` stands for every protocol and port, and
`6` is the number of TCP. -/
def Admits (p : IpPermission) (port : UInt16) : Prop :=
  p.ipProtocol = some "-1" ∨
    ((p.ipProtocol = some "tcp" ∨ p.ipProtocol = some "6") ∧ p.InRange port)

end IpPermission

theorem names_iff_any (p : IpPermission) (sourceSgId : String) :
    (p.userIdGroupPairs.any fun pair => pair.groupId == some sourceSgId) = true <->
      p.Names sourceSgId := by
  simp [IpPermission.Names]

theorem ingressAllows_cons_iff (p : IpPermission) (rest : List IpPermission)
    (sourceSgId : String) (port : UInt16) :
    ingressAllows (p :: rest) sourceSgId port = true <->
      (p.Names sourceSgId ∧ p.ipProtocol = some "tcp" ∧ p.InRange port) ∨
        ingressAllows rest sourceSgId port = true := by
  rw [ingressAllows]
  by_cases htcp : p.ipProtocol = some "tcp"
  · rw [if_neg (not_not_intro htcp)]
    by_cases hrange : p.InRange port
    · have hbounds : ¬ (p.fromPort.getD (-1) > (port.toNat : Int) ∨
          p.toPort.getD (-1) < (port.toNat : Int)) := by
        rcases hrange with ⟨hfrom, hto⟩
        omega
      by_cases hnames : p.Names sourceSgId
      · simp [if_neg hbounds, (names_iff_any p sourceSgId).mpr hnames, htcp, hrange,
          hnames]
      · have hany := mt (names_iff_any p sourceSgId).mp hnames
        simp only [if_neg hbounds, if_neg hany, hnames, false_and, false_or]
    · have hbounds : p.fromPort.getD (-1) > (port.toNat : Int) ∨
          p.toPort.getD (-1) < (port.toNat : Int) := by
        simp only [IpPermission.InRange] at hrange
        omega
      simp only [if_pos hbounds, hrange, and_false, false_or]
  · rw [if_pos htcp]
    simp only [htcp, false_and, and_false, false_or]

theorem ingressAllows_eq_true_iff (perms : List IpPermission) (sourceSgId : String)
    (port : UInt16) :
    ingressAllows perms sourceSgId port = true <->
      exists p, p ∈ perms ∧ p.Names sourceSgId ∧ p.ipProtocol = some "tcp" ∧
        p.InRange port := by
  induction perms with
  | nil => simp [ingressAllows]
  | cons p rest ih => rw [ingressAllows_cons_iff, ih, List.exists_mem_cons_iff]

/-- The verdict is EC2's exactly if a permission spelled `tcp` gives access, or
none of another spelling does. -/
theorem ingressAllows_correct_iff (perms : List IpPermission) (sourceSgId : String)
    (port : UInt16) :
    (ingressAllows perms sourceSgId port = true <->
      exists p, p ∈ perms ∧ p.Names sourceSgId ∧ p.Admits port) <->
    ((exists p, p ∈ perms ∧ p.Names sourceSgId ∧ p.ipProtocol = some "tcp" ∧
        p.InRange port) ∨
      forall p, p ∈ perms -> p.Names sourceSgId ->
        p.ipProtocol ≠ some "-1" ∧ ¬ (p.ipProtocol = some "6" ∧ p.InRange port)) := by
  rw [ingressAllows_eq_true_iff]
  constructor
  · intro h
    by_cases htcp : exists p, p ∈ perms ∧ p.Names sourceSgId ∧ p.ipProtocol = some "tcp" ∧
        p.InRange port
    · exact Or.inl htcp
    · refine Or.inr fun p hp hnames => ⟨fun hall => ?_, fun hsix => ?_⟩
      · exact htcp (h.mpr ⟨p, hp, hnames, Or.inl hall⟩)
      · exact htcp (h.mpr ⟨p, hp, hnames, Or.inr ⟨Or.inr hsix.1, hsix.2⟩⟩)
  · intro h
    constructor
    · intro htcp
      rcases htcp with ⟨p, hp, hnames, hprotocol, hrange⟩
      exact ⟨p, hp, hnames, Or.inr ⟨Or.inl hprotocol, hrange⟩⟩
    · intro hadmits
      rcases h with htcp | hnone
      · exact htcp
      · rcases hadmits with ⟨p, hp, hnames, hall | ⟨htcp | hsix, hrange⟩⟩
        · exact absurd hall (hnone p hp hnames).1
        · exact ⟨p, hp, hnames, htcp, hrange⟩
        · exact absurd ⟨hsix, hrange⟩ (hnone p hp hnames).2

/-- A rule for all traffic from the bastion's group is not seen. -/
theorem ingressAllows_misses_all_traffic :
    ingressAllows
        [{ ipProtocol := some "-1"
           fromPort := none
           toPort := none
           userIdGroupPairs := [{ groupId := some "sg-bastion", description := none }] }]
        "sg-bastion" 443 = false ∧
      exists p : IpPermission,
        p ∈ [{ ipProtocol := some "-1"
               fromPort := none
               toPort := none
               userIdGroupPairs :=
                [{ groupId := some "sg-bastion", description := none }] }] ∧
          p.Names "sg-bastion" ∧ p.Admits 443 := by
  refine ⟨by decide, _, List.mem_singleton_self _, ?_, Or.inl rfl⟩
  exact ⟨_, List.mem_singleton_self _, rfl⟩

/-!
# The endpoints of the VPC
-/

inductive VpcEndpointType where
  | gateway
  | gatewayLoadBalancer
  | interface
  | unknown (text : String)
deriving DecidableEq, Repr

structure VpcEndpoint where
  vpcEndpointType : Option VpcEndpointType
  serviceName : Option String
  groups : Option (List GroupIdentifier)
deriving DecidableEq, Repr

structure GroupPermissions where
  ipPermissions : Option (List IpPermission)
deriving DecidableEq, Repr

/-- The calls of the SDK that the check makes; the second takes group ids. -/
structure EndpointApi (world : Type) where
  describeVpcEndpoints : List Filter -> Call world AwsError (Option (List VpcEndpoint))
  describeSecurityGroups :
    List String -> Call world AwsError (Option (List GroupPermissions))

structure MissingEndpointIngress where
  endpointSgId : String
  endpointService : String
  port : UInt16
deriving DecidableEq, Repr

structure IterationOrder where
  arrange : List (String × String) -> List (String × String)
  perm : forall entries, (arrange entries).Perm entries

namespace EndpointIngress

/-!
# The groups to check
-/

def orInsert (groups : List (String × String)) (gid service : String) :
    List (String × String) :=
  if gid ∈ groups.map Prod.fst then groups else groups ++ [(gid, service)]

def addGroups (service : String) :
    List (String × String) -> List GroupIdentifier -> List (String × String)
  | groups, [] => groups
  | groups, group :: rest =>
      match group.groupId with
      | none => addGroups service groups rest
      | some gid => addGroups service (orInsert groups gid service) rest

/-- The groups of the interface endpoints, each with the first service it
belongs to. -/
def groupsToCheck : List (String × String) -> List VpcEndpoint -> List (String × String)
  | groups, [] => groups
  | groups, endpoint :: rest =>
      if endpoint.vpcEndpointType ≠ some .interface then
        groupsToCheck groups rest
      else
        groupsToCheck
          (addGroups (endpoint.serviceName.getD "") groups (endpoint.groups.getD [])) rest

/-!
# The check
-/

section

variable {world : Type} (api : EndpointApi world)

def vpcIdFilter (vpcId : String) : Filter where
  name := "vpc-id"
  values := [vpcId]

def securityGroupIngress (sgId : String) :
    Call world ProvisionError (List IpPermission) := do
  let groups <-
    (api.describeSecurityGroups [sgId]).onError
      (.context ("describe_security_groups " ++ sgId))
  match AwsProvisioner.firstOf groups with
  | none => throw (.message ("security group " ++ sgId ++ " not found"))
  | some group => return group.ipPermissions.getD []

/-- The groups that do not let the bastion in. -/
def collectMissing (bastionSgId : String) :
    List (String × String) -> Call world ProvisionError (List MissingEndpointIngress)
  | [] => return []
  | (sgId, service) :: rest => do
      let perms <- securityGroupIngress api sgId
      let missing <- collectMissing bastionSgId rest
      return if ingressAllows perms bastionSgId 443 then
        missing
      else
        { endpointSgId := sgId, endpointService := service, port := 443 } :: missing

def reportOrder (a b : MissingEndpointIngress) : Bool :=
  if a.endpointService = b.endpointService then
    decide (a.endpointSgId ≤ b.endpointSgId)
  else
    decide (a.endpointService ≤ b.endpointService)

def missingVpcEndpointIngress (order : IterationOrder) (vpcId bastionSgId : String) :
    Call world ProvisionError (List MissingEndpointIngress) := do
  let endpoints <-
    (api.describeVpcEndpoints [vpcIdFilter vpcId]).onError
      (.context ("describe_vpc_endpoints " ++ vpcId))
  let missing <-
    collectMissing api bastionSgId (order.arrange (groupsToCheck [] (endpoints.getD [])))
  return missing.mergeSort reportOrder

end

/-!
# What is checked
-/

theorem mem_keys_orInsert {groups : List (String × String)} {gid service k : String} :
    k ∈ (orInsert groups gid service).map Prod.fst <->
      k ∈ groups.map Prod.fst ∨ k = gid := by
  by_cases hmem : gid ∈ groups.map Prod.fst
  · rw [orInsert, if_pos hmem]
    constructor
    · exact Or.inl
    · intro h
      rcases h with h | rfl
      · exact h
      · exact hmem
  · rw [orInsert, if_neg hmem, List.map_append, List.mem_append]
    simp

theorem mem_keys_addGroups {service k : String} {groups : List (String × String)}
    {identifiers : List GroupIdentifier} :
    k ∈ (addGroups service groups identifiers).map Prod.fst <->
      k ∈ groups.map Prod.fst ∨ k ∈ identifiers.filterMap GroupIdentifier.groupId := by
  induction identifiers generalizing groups with
  | nil => simp [addGroups]
  | cons group rest ih =>
      rw [addGroups]
      cases hgid : group.groupId with
      | none => rw [ih, List.filterMap_cons_none hgid]
      | some gid =>
          rw [ih, mem_keys_orInsert, List.filterMap_cons_some hgid, List.mem_cons,
            or_assoc]

end EndpointIngress

def VpcEndpoint.IsInterface (endpoint : VpcEndpoint) : Prop :=
  endpoint.vpcEndpointType = some .interface

def VpcEndpoint.groupIds (endpoint : VpcEndpoint) : List String :=
  (endpoint.groups.getD []).filterMap GroupIdentifier.groupId

namespace EndpointIngress

theorem mem_keys_groupsToCheck {k : String} {groups : List (String × String)}
    {endpoints : List VpcEndpoint} :
    k ∈ (groupsToCheck groups endpoints).map Prod.fst <->
      k ∈ groups.map Prod.fst ∨
        exists endpoint, endpoint ∈ endpoints ∧ endpoint.IsInterface ∧
          k ∈ endpoint.groupIds := by
  induction endpoints generalizing groups with
  | nil => simp [groupsToCheck]
  | cons endpoint rest ih =>
      rw [groupsToCheck, List.exists_mem_cons_iff]
      by_cases hinterface : endpoint.vpcEndpointType = some .interface
      · have hkind : endpoint.IsInterface := hinterface
        rw [if_neg (not_not_intro hinterface), ih, mem_keys_addGroups, or_assoc]
        simp only [hkind, true_and, VpcEndpoint.groupIds]
      · have hkind : ¬ endpoint.IsInterface := hinterface
        rw [if_pos hinterface, ih]
        simp only [hkind, false_and, false_or]

/-!
# The answers of EC2
-/

/-- EC2 describes these endpoints in the VPC and these permissions of each
group; where calls may not fail, none does. -/
structure Answers {world : Type} (api : EndpointApi world) (vpcId : String)
    (endpoints : List VpcEndpoint) (ingress : String -> List IpPermission)
    (mayFail : Prop) : Prop where
  endpoints : Triple (fun _ => True) (api.describeVpcEndpoints [vpcIdFilter vpcId])
    (fun answer _ => answer.getD [] = endpoints) (fun _ _ => mayFail)
  ingress : forall sgId, Triple (fun _ => True) (api.describeSecurityGroups [sgId])
    (fun answer _ => exists group rest, answer = some (group :: rest) ∧
      group.ipPermissions.getD [] = ingress sgId)
    (fun _ _ => mayFail)

section

variable {world : Type} {api : EndpointApi world} {vpcId bastionSgId : String}
variable {endpoints : List VpcEndpoint} {ingress : String -> List IpPermission}
variable {mayFail : Prop}

theorem securityGroupIngress_triple (h : Answers api vpcId endpoints ingress mayFail)
    (sgId : String) :
    Triple (fun _ => True) (securityGroupIngress api sgId)
      (fun perms _ => perms = ingress sgId) (fun _ _ => mayFail) := by
  refine Triple.bind (Triple.onError (h.ingress sgId)) fun groups => ?_
  intro s hs
  rcases hs with ⟨group, rest, rfl, hperms⟩
  exact hperms

theorem collectMissing_triple (h : Answers api vpcId endpoints ingress mayFail)
    (groups : List (String × String)) :
    Triple (fun _ => True) (collectMissing api bastionSgId groups)
      (fun missing _ => missing = [] <->
        forall sgId, sgId ∈ groups.map Prod.fst ->
          ingressAllows (ingress sgId) bastionSgId 443 = true)
      (fun _ _ => mayFail) := by
  induction groups with
  | nil =>
      apply Triple.pure
      simp
  | cons entry rest ih =>
      rcases entry with ⟨sgId, service⟩
      refine Triple.bind (securityGroupIngress_triple h sgId) fun perms => ?_
      intro s hperms
      refine Triple.bind ih (fun missing => Triple.pure fun _ hmissing => ?_) s trivial
      rw [List.map_cons, List.forall_mem_cons, ← hmissing, hperms]
      cases ingressAllows (ingress sgId) bastionSgId 443 with
      | true => simp
      | false => simp

/-- Nothing is reported exactly if every group of every interface endpoint lets
the bastion in. -/
theorem missingVpcEndpointIngress_triple (order : IterationOrder)
    (h : Answers api vpcId endpoints ingress mayFail) :
    Triple (fun _ => True) (missingVpcEndpointIngress api order vpcId bastionSgId)
      (fun missing _ => missing = [] <->
        forall endpoint, endpoint ∈ endpoints -> endpoint.IsInterface ->
          forall sgId, sgId ∈ endpoint.groupIds ->
            ingressAllows (ingress sgId) bastionSgId 443 = true)
      (fun _ _ => mayFail) := by
  refine Triple.bind (Triple.onError h.endpoints) fun answer => ?_
  intro s hanswer
  refine Triple.bind (collectMissing_triple h _)
    (fun missing => Triple.pure fun _ hmissing => ?_) s trivial
  have hsorted : missing.mergeSort reportOrder = [] <-> missing = [] := by
    rw [← List.length_eq_zero_iff, List.length_mergeSort, List.length_eq_zero_iff]
  have hkeys : forall sgId,
      sgId ∈ (order.arrange (groupsToCheck [] (answer.getD []))).map Prod.fst <->
        exists endpoint, endpoint ∈ endpoints ∧ endpoint.IsInterface ∧
          sgId ∈ endpoint.groupIds := by
    intro sgId
    rw [((order.perm _).map Prod.fst).mem_iff, mem_keys_groupsToCheck, hanswer]
    simp
  rw [hsorted, hmissing]
  constructor
  · intro hall endpoint hendpoint hinterface sgId hsgId
    exact hall sgId ((hkeys sgId).mpr ⟨endpoint, hendpoint, hinterface, hsgId⟩)
  · intro hall sgId hsgId
    rcases (hkeys sgId).mp hsgId with ⟨endpoint, hendpoint, hinterface, hmem⟩
    exact hall endpoint hendpoint hinterface sgId hmem

/-!
# Endpoints and groups
-/

/-- A group of the endpoint lets the bastion in, which is enough for EC2. -/
def Reachable (ingress : String -> List IpPermission) (bastionSgId : String)
    (endpoint : VpcEndpoint) : Prop :=
  exists sgId, sgId ∈ endpoint.groupIds ∧
    ingressAllows (ingress sgId) bastionSgId 443 = true

/-- Every group of the endpoint lets the bastion in. -/
def EveryGroupAdmits (ingress : String -> List IpPermission) (bastionSgId : String)
    (endpoint : VpcEndpoint) : Prop :=
  forall sgId, sgId ∈ endpoint.groupIds ->
    ingressAllows (ingress sgId) bastionSgId 443 = true

/-- The check is right exactly where some endpoint cannot be reached, or every
group of every endpoint lets the bastion in. -/
theorem missingVpcEndpointIngress_correct_iff (order : IterationOrder)
    (h : Answers api vpcId endpoints ingress mayFail)
    (hgroups : forall endpoint, endpoint ∈ endpoints -> endpoint.IsInterface ->
      endpoint.groupIds ≠ []) :
    Triple (fun _ => True) (missingVpcEndpointIngress api order vpcId bastionSgId)
      (fun missing _ =>
        (missing = [] <-> forall endpoint, endpoint ∈ endpoints -> endpoint.IsInterface ->
          Reachable ingress bastionSgId endpoint) <->
        ((exists endpoint, endpoint ∈ endpoints ∧ endpoint.IsInterface ∧
            ¬ Reachable ingress bastionSgId endpoint) ∨
          forall endpoint, endpoint ∈ endpoints -> endpoint.IsInterface ->
            EveryGroupAdmits ingress bastionSgId endpoint))
      (fun _ _ => mayFail) := by
  refine (missingVpcEndpointIngress_triple order h).conseq (fun _ _ => trivial) ?_
    fun _ _ hfail => hfail
  intro missing _ hmissing
  have hreach : (forall endpoint, endpoint ∈ endpoints -> endpoint.IsInterface ->
      EveryGroupAdmits ingress bastionSgId endpoint) ->
        forall endpoint, endpoint ∈ endpoints -> endpoint.IsInterface ->
          Reachable ingress bastionSgId endpoint := by
    intro hall endpoint hendpoint hinterface
    cases hids : endpoint.groupIds with
    | nil => exact absurd hids (hgroups endpoint hendpoint hinterface)
    | cons sgId rest =>
        have hmem : sgId ∈ endpoint.groupIds := by
          rw [hids]
          exact List.mem_cons_self
        exact ⟨sgId, hmem, hall endpoint hendpoint hinterface sgId hmem⟩
  rw [hmissing]
  constructor
  · intro hiff
    by_cases hall : forall endpoint, endpoint ∈ endpoints -> endpoint.IsInterface ->
        EveryGroupAdmits ingress bastionSgId endpoint
    · exact Or.inr hall
    · refine Or.inl (Classical.byContradiction fun hnone => hall (hiff.mpr ?_))
      intro endpoint hendpoint hinterface
      exact Classical.byContradiction fun hnot =>
        hnone ⟨endpoint, hendpoint, hinterface, hnot⟩
  · intro hcases
    refine ⟨hreach, fun hevery => ?_⟩
    rcases hcases with ⟨endpoint, hendpoint, hinterface, hnot⟩ | hall
    · exact absurd (hevery endpoint hendpoint hinterface) hnot
    · exact hall

end

/-!
# An account in which no call fails
-/

def ofAccount (endpoints : List VpcEndpoint) (ingress : String -> List IpPermission) :
    EndpointApi Unit where
  describeVpcEndpoints := fun _ => pure (some endpoints)
  describeSecurityGroups := fun sgIds =>
    pure (some (sgIds.map fun sgId => { ipPermissions := some (ingress sgId) }))

theorem answers_ofAccount (vpcId : String) (endpoints : List VpcEndpoint)
    (ingress : String -> List IpPermission) :
    Answers (ofAccount endpoints ingress) vpcId endpoints ingress False where
  endpoints := Triple.pure fun _ _ => rfl
  ingress := fun _ => Triple.pure fun _ _ => ⟨_, [], rfl, rfl⟩

def inOrder : IterationOrder where
  arrange := id
  perm := List.Perm.refl

def ssmEndpoint (sgIds : List String) : VpcEndpoint where
  vpcEndpointType := some .interface
  serviceName := some "com.amazonaws.us-east-1.ssm"
  groups := some (sgIds.map fun sgId => { groupId := some sgId })

def oneGroupAdmits (sgId : String) : List IpPermission :=
  if sgId = "sg-endpoint" then
    [{ ipProtocol := some "tcp"
       fromPort := some 443
       toPort := some 443
       userIdGroupPairs := [{ groupId := some "sg-bastion", description := none }] }]
  else
    []

/-- Both groups of the first endpoint admit the bastion, the one of the second
does not. -/
def twoGroupsAdmit (sgId : String) : List IpPermission :=
  if sgId = "sg-other" then oneGroupAdmits "sg-endpoint" else oneGroupAdmits sgId

def severalEndpoints : List VpcEndpoint :=
  [ssmEndpoint ["sg-endpoint", "sg-other"], ssmEndpoint ["sg-closed"]]

theorem missingVpcEndpointIngress_correct_iff_several :
    Triple (fun _ => True)
      (missingVpcEndpointIngress (ofAccount severalEndpoints twoGroupsAdmit)
        inOrder "vpc-1" "sg-bastion")
      (fun missing _ => missing = [] <->
        forall endpoint, endpoint ∈ severalEndpoints ->
          endpoint.IsInterface -> Reachable twoGroupsAdmit "sg-bastion" endpoint)
      (fun _ _ => False) := by
  have hfirst : (ssmEndpoint ["sg-endpoint", "sg-other"]).groupIds =
      ["sg-endpoint", "sg-other"] := rfl
  have hsecond : (ssmEndpoint ["sg-closed"]).groupIds = ["sg-closed"] := rfl
  refine (missingVpcEndpointIngress_correct_iff inOrder
    (answers_ofAccount "vpc-1" severalEndpoints twoGroupsAdmit) ?_).conseq
      (fun _ _ => trivial) (fun missing _ hiff => hiff.mpr ?_)
      fun _ _ hfail => hfail
  · intro endpoint hendpoint _
    simp only [severalEndpoints, List.mem_cons, List.not_mem_nil, or_false] at hendpoint
    rcases hendpoint with rfl | rfl
    · rw [hfirst]
      exact List.cons_ne_nil _ _
    · rw [hsecond]
      exact List.cons_ne_nil _ _
  · have hclosed : ingressAllows (twoGroupsAdmit "sg-closed") "sg-bastion" 443 =
        false := by decide
    refine Or.inl ⟨ssmEndpoint ["sg-closed"], by simp [severalEndpoints], rfl, ?_⟩
    rintro ⟨sgId, hsgId, hallows⟩
    rw [hsecond] at hsgId
    rw [List.mem_singleton.mp hsgId, hclosed] at hallows
    cases hallows

/-- An endpoint is reported for its second group, though the first one makes it
reachable. -/
theorem missingVpcEndpointIngress_reports_reachable :
    ((missingVpcEndpointIngress
      (ofAccount [ssmEndpoint ["sg-endpoint", "sg-other"]] oneGroupAdmits) inOrder "vpc-1"
        "sg-bastion").exec ()).1 =
      .ok [{ endpointSgId := "sg-other"
             endpointService := "com.amazonaws.us-east-1.ssm"
             port := 443 }] ∧
      forall endpoint, endpoint ∈ [ssmEndpoint ["sg-endpoint", "sg-other"]] ->
        endpoint.IsInterface -> Reachable oneGroupAdmits "sg-bastion" endpoint := by
  have hsorted : forall missing : MissingEndpointIngress,
      [missing].mergeSort reportOrder = [missing] :=
    fun missing => List.mergeSort_singleton missing
  refine ⟨congrArg Except.ok (hsorted _), ?_⟩
  intro endpoint hendpoint _
  rw [List.mem_singleton.mp hendpoint]
  exact ⟨"sg-endpoint", List.mem_cons_self, by decide⟩

end EndpointIngress

end Laptop

end Ephemwork

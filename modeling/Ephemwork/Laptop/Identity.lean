import Ephemwork.Bastion.Routing
import Ephemwork.Laptop.Config

/-!
# Which names can be routed

The laptop checks neither the user it resolves nor the names of the services, so
whether nginx can route a pair depends on the text the user is taken from.
-/

namespace Ephemwork

open Foundation
open Bastion

namespace Laptop

def emailSource (gitEmail : Except String String) : List Char :=
  match gitEmail with
  | .ok email => localPart email.toList
  | .error _ => []

def identitySource (envOverride : Option String)
    (gitEmail : Except String String) : List Char :=
  match envOverride with
  | none => emailSource gitEmail
  | some user =>
      if Text.isBlank user.toList then emailSource gitEmail else user.toList

theorem toList_of_emailUser {envOverride : Option String}
    {gitEmail : Except String String} {user : String}
    (hnone : overridingUser envOverride = none)
    (h : resolveUser envOverride gitEmail = .ok user) :
    user.toList = Text.trim (emailSource gitEmail) := by
  simp only [resolveUser, hnone] at h
  cases gitEmail with
  | error message => cases h
  | ok email =>
      simp only at h
      split at h
      · cases h
      · cases h
        exact String.toList_ofList

theorem resolveUser_eq_ok {envOverride : Option String}
    {gitEmail : Except String String} {user : String}
    (h : resolveUser envOverride gitEmail = .ok user) :
    user.toList = Text.trim (identitySource envOverride gitEmail) := by
  cases envOverride with
  | none => exact toList_of_emailUser rfl h
  | some text =>
      cases hblank : Text.isBlank text.toList with
      | true =>
          have hnil : Text.trim text.toList = [] := List.isEmpty_iff.mp hblank
          have hnone : overridingUser (some text) = none := by
            simp [overridingUser, hnil]
          simp only [identitySource, hblank, if_true]
          exact toList_of_emailUser hnone h
      | false =>
          have hne : Text.trim text.toList ≠ [] := by
            intro hnil
            simp [Text.isBlank, hnil] at hblank
          simp only [resolveUser, overridingUser, if_neg hne] at h
          cases h
          simp [identitySource, hblank]

/-- Between surrounding white space, at least one character of safe identifiers
and no other one. -/
def IsPaddedIdentifier (s : List Char) : Prop :=
  exists before core after,
    (forall c, c ∈ before -> Text.isWhitespace c = true) ∧
    (forall c, c ∈ after -> Text.isWhitespace c = true) ∧
    core ≠ [] ∧ (forall c, c ∈ core -> isSafeChar c = true) ∧
    s = before ++ (core ++ after)

theorem isWhitespace_of_isSafeChar {c : Char} (h : isSafeChar c = true) :
    Text.isWhitespace c = false := by
  have hall : forall n : Fin 128, isSafeChar (Char.ofNat n) = true ->
      Text.isWhitespace (Char.ofNat n) = false := by decide
  have hc := hall ⟨c.toNat, Bastion.toNat_lt_of_isSafeChar h⟩
  rw [Char.ofNat_toNat] at hc
  exact hc h

theorem isPaddedIdentifier_iff (s : List Char) :
    IsPaddedIdentifier s <->
      Text.trim s ≠ [] ∧ forall c, c ∈ Text.trim s -> isSafeChar c = true := by
  constructor
  · intro h
    rcases h with ⟨before, core, after, hbefore, hafter, hne, hcore, rfl⟩
    rw [Text.trim_pads_of_none hbefore hafter
      fun c hc => isWhitespace_of_isSafeChar (hcore c hc)]
    exact ⟨hne, hcore⟩
  · intro h
    rcases Text.exists_pads_trim s with ⟨before, after, hbefore, hafter, hs⟩
    exact ⟨before, Text.trim s, after, hbefore, hafter, h.left, h.right, hs⟩

/-- However it is registered, the renderer accepts what the registry lists for
the pair. -/
def IsRoutable (key : Key) : Prop :=
  forall (registry : Registry) port, (registry.register key).1 = .ok port ->
    forall entry, entry ∈ (registry.register key).2.snapshot ->
      composeKey entry.1 = composeKey key ->
      exists text, renderConfig [entry] = .ok text

theorem isRoutable_iff (key : Key) : IsRoutable key <-> key.Safe := by
  constructor
  · intro h
    by_contra hrejected
    rcases Registry.exists_register_default key with ⟨port, hok⟩
    rcases exists_unsafe_of_stored hrejected
      (Registry.register_getElem?_self hok) with ⟨read, hread, hcompose, hmem⟩
    rcases h Registry.default port hok (read, port) hmem hcompose with
      ⟨text, hrender⟩
    have hentries := ((renderConfig_eq_ok_iff _ _).mp hrender).left
    exact hread (hentries (read, port) (List.mem_singleton.mpr rfl))
  · intro hsafe registry port _ entry _ hcompose
    have hentry : entry.1 = key := hsafe.of_composeKey_eq hcompose
    have hentries : forall e, e ∈ [entry] -> e.1.Safe := by
      intro e he
      rw [List.mem_singleton.mp he, hentry]
      exact hsafe
    exact ⟨_, renderConfig_of_safe hentries⟩

/-- A pair `up` can register: the user is the one resolved, the service one of a
valid configuration. -/
structure CanRegister (envOverride : Option String)
    (gitEmail : Except String String) (config : Config) (key : Key) :
    Prop where
  user : resolveUser envOverride gitEmail = .ok key.user
  valid : config.validate = .ok ()
  service : key.service ∈ config.service.map Prod.fst

/-- A pair the laptop can register can be routed if and only if the text its
user comes from is a safe identifier between white space and the service's name
is a safe identifier. -/
theorem registered_name_routable_iff {envOverride : Option String}
    {gitEmail : Except String String} {config : Config} {key : Key}
    (h : CanRegister envOverride gitEmail config key) :
    IsRoutable key <->
      IsPaddedIdentifier (identitySource envOverride gitEmail) ∧
        isSafeIdentifier key.service = true := by
  have huser := resolveUser_eq_ok h.user
  rw [isRoutable_iff, Key.Safe, isPaddedIdentifier_iff, ← huser,
    isSafeIdentifier_eq_true_iff]

/-!
# Names the laptop accepts
-/

def exampleConfig : Config where
  tunnel :=
    { type := "ec2", region := "us-east-1", instanceType := "t4g.nano"
      projectName := "demo", expectedVpcId := none }
  service :=
    [("api",
      { port := some 8000, runCommand := "uvicorn app.main:app"
        healthCheckPath := some "/health", forwardPorts := []
        bootstrapCommand := none })]
  distinct := by decide

theorem canRegister_of_user {envOverride : Option String}
    {gitEmail : Except String String} {user : String}
    (h : resolveUser envOverride gitEmail = .ok user) :
    CanRegister envOverride gitEmail exampleConfig ⟨user, "api"⟩ where
  user := h
  valid := by decide
  service := List.mem_singleton.mpr rfl

theorem registered_name_routable_iff_alice :
    IsRoutable ⟨"alice", "api"⟩ <->
      IsPaddedIdentifier
          (identitySource none (.ok "alice@example.com")) ∧
        isSafeIdentifier "api" = true :=
  registered_name_routable_iff (canRegister_of_user
    (show resolveUser none (.ok "alice@example.com") = .ok "alice" by decide))

/-- The user of an email with a subaddress cannot be routed. -/
theorem subaddress_not_routable :
    ¬ forall (envOverride : Option String) (gitEmail : Except String String)
      (config : Config) (key : Key),
      CanRegister envOverride gitEmail config key -> IsRoutable key := by
  intro h
  have hroutable := h none (.ok "alice+test@example.com") exampleConfig
    ⟨"alice+test", "api"⟩ (canRegister_of_user (by decide))
  have hsafe := (isRoutable_iff _).mp hroutable
  revert hsafe
  decide

end Laptop

end Ephemwork

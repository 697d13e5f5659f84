import Ephemwork.Foundation.Decimal
import Ephemwork.Foundation.Text

/-!
# Forward specifications

The `local:host:remote` entries of `forward_ports`, as `src/ssm.rs` reads them.
-/

namespace Ephemwork

open Foundation

namespace Laptop

structure ForwardPortSpec where
  localPort : UInt16
  remoteHost : String
  remotePort : UInt16
deriving DecidableEq, Repr

inductive ForwardPortError where
  /-- `forward_port {raw:?} must have the form 'local:host:remote'` -/
  | form (raw : String)
  /-- `local port in {raw:?}` -/
  | localPort (raw : String)
  /-- `forward_port {raw:?} has empty remote host` -/
  | emptyHost (raw : String)
  /-- `remote port in {raw:?}` -/
  | remotePort (raw : String)
  /-- `forward_port {raw:?} has port 0` -/
  | zeroPort (raw : String)
deriving DecidableEq, Repr

def parseForwardPortSpec (raw : String) :
    Except ForwardPortError ForwardPortSpec :=
  match raw.toList.splitOn ':' with
  | [first, middle, last] =>
      match Decimal.parse UInt16.size first with
      | none => .error (.localPort raw)
      | some localPort =>
          let remoteHost := Text.trim middle
          if remoteHost = [] then
            .error (.emptyHost raw)
          else
            match Decimal.parse UInt16.size last with
            | none => .error (.remotePort raw)
            | some remotePort =>
                if localPort = 0 ∨ remotePort = 0 then
                  .error (.zeroPort raw)
                else
                  .ok
                    { localPort := UInt16.ofNat localPort
                      remoteHost := String.ofList remoteHost
                      remotePort := UInt16.ofNat remotePort }
  | _ => .error (.form raw)

/-!
# The grammar of an entry

A local port, a host and a remote port, with one colon between two of them.
-/

def ForwardPortSpec.print (spec : ForwardPortSpec) : String :=
  String.ofList ([':'].intercalate
    [Decimal.print spec.localPort.toNat, spec.remoteHost.toList,
     Decimal.print spec.remotePort.toNat])

/-- The entry has exactly two colons, numbers other than zero on the outside
and a host in the middle, and the specification carries them. -/
def ForwardPortSpec.ReadFrom (spec : ForwardPortSpec) (raw : String) : Prop :=
  exists first middle last : List Char,
    raw.toList = [':'].intercalate [first, middle, last] ∧
      (':' ∉ first ∧ ':' ∉ middle ∧ ':' ∉ last) ∧
      Decimal.Numeral UInt16.size first spec.localPort.toNat ∧
      Decimal.Numeral UInt16.size last spec.remotePort.toNat ∧
      spec.localPort ≠ 0 ∧ spec.remotePort ≠ 0 ∧
      (exists c, c ∈ middle ∧ Text.isWhitespace c = false) ∧
      spec.remoteHost = String.ofList (Text.trim middle)

theorem splitOn_eq_three_iff {s first middle last : List Char} :
    s.splitOn ':' = [first, middle, last] <->
      s = [':'].intercalate [first, middle, last] ∧
        (':' ∉ first ∧ ':' ∉ middle ∧ ':' ∉ last) := by
  rw [Text.splitOn_eq_iff (by simp), List.forall_mem_cons, List.forall_mem_cons,
    List.forall_mem_singleton, and_comm, eq_comm]

theorem port_eq_zero_iff (port : UInt16) : port = 0 <-> port.toNat = 0 :=
  UInt16.toNat_inj.symm

/-- An entry of three parts is accepted for its parts, whichever is looked at
first. -/
theorem parseForwardPortSpec_of_splitOn {raw : String} {first middle last : List Char}
    (h : raw.toList.splitOn ':' = [first, middle, last]) (spec : ForwardPortSpec) :
    parseForwardPortSpec raw = .ok spec <->
      Decimal.parse UInt16.size first = some spec.localPort.toNat ∧
      Decimal.parse UInt16.size last = some spec.remotePort.toNat ∧
      spec.localPort ≠ 0 ∧ spec.remotePort ≠ 0 ∧ Text.trim middle ≠ [] ∧
      spec.remoteHost = String.ofList (Text.trim middle) := by
  simp only [parseForwardPortSpec, h, ne_eq, port_eq_zero_iff]
  constructor
  · intro hok
    cases hfirst : Decimal.parse UInt16.size first with
    | none =>
        rw [hfirst] at hok
        cases hok
    | some localPort =>
        have hlocal : localPort < UInt16.size := Decimal.lt_of_parse hfirst
        rw [hfirst] at hok
        by_cases hhost : Text.trim middle = []
        · simp [hhost] at hok
        · simp only [if_neg hhost] at hok
          cases hlast : Decimal.parse UInt16.size last with
          | none =>
              rw [hlast] at hok
              cases hok
          | some remotePort =>
              have hremote : remotePort < UInt16.size := Decimal.lt_of_parse hlast
              rw [hlast] at hok
              by_cases hzero : localPort = 0 ∨ remotePort = 0
              · simp [hzero] at hok
              · simp only [if_neg hzero] at hok
                cases hok
                have hlocalNat : (UInt16.ofNat localPort).toNat = localPort :=
                  UInt16.toNat_ofNat_of_lt hlocal
                have hremoteNat : (UInt16.ofNat remotePort).toNat = remotePort :=
                  UInt16.toNat_ofNat_of_lt hremote
                simp only [hlocalNat, hremoteNat]
                exact ⟨trivial, trivial, fun heq => hzero (Or.inl heq),
                  fun heq => hzero (Or.inr heq), hhost, trivial⟩
  · intro hparts
    rcases hparts with ⟨hfirst, hlast, hlocal, hremote, hhost, hname⟩
    have hzero : ¬ (spec.localPort.toNat = 0 ∨ spec.remotePort.toNat = 0) := by
      intro heq
      rcases heq with heq | heq
      · exact hlocal heq
      · exact hremote heq
    rw [hfirst, hlast]
    simp only [if_neg hhost, if_neg hzero, ← hname, UInt16.ofNat_toNat]

theorem parseForwardPortSpec_eq_ok_iff {raw : String} {spec : ForwardPortSpec} :
    parseForwardPortSpec raw = .ok spec <-> spec.ReadFrom raw := by
  constructor
  · intro h
    have hthree : exists first middle last,
        raw.toList.splitOn ':' = [first, middle, last] := by
      rw [parseForwardPortSpec] at h
      split at h
      · next first middle last hsplit => exact ⟨first, middle, last, hsplit⟩
      · cases h
    rcases hthree with ⟨first, middle, last, hsplit⟩
    rcases (parseForwardPortSpec_of_splitOn hsplit spec).mp h with
      ⟨hfirst, hlast, hlocal, hremote, hhost, hname⟩
    rcases splitOn_eq_three_iff.mp hsplit with ⟨hraw, hcolons⟩
    exact ⟨first, middle, last, hraw, hcolons, Decimal.parse_eq_some_iff.mp hfirst,
      Decimal.parse_eq_some_iff.mp hlast, hlocal, hremote,
      (Text.trim_ne_nil_iff middle).mp hhost, hname⟩
  · intro h
    rcases h with ⟨first, middle, last, hraw, hcolons, hfirst, hlast, hlocal, hremote,
      hhost, hname⟩
    have hsplit : raw.toList.splitOn ':' = [first, middle, last] :=
      splitOn_eq_three_iff.mpr ⟨hraw, hcolons⟩
    exact (parseForwardPortSpec_of_splitOn hsplit spec).mpr
      ⟨Decimal.parse_eq_some_iff.mpr hfirst, Decimal.parse_eq_some_iff.mpr hlast, hlocal,
        hremote, (Text.trim_ne_nil_iff middle).mpr hhost, hname⟩

/-- The specifications that are printed so that they can be read. -/
structure ForwardPortSpec.Printable (spec : ForwardPortSpec) : Prop where
  localPort : spec.localPort ≠ 0
  remotePort : spec.remotePort ≠ 0
  host : spec.remoteHost ≠ ""
  colon : ':' ∉ spec.remoteHost.toList
  trimmed : Text.trim spec.remoteHost.toList = spec.remoteHost.toList

theorem ForwardPortSpec.Printable.readFrom_print {spec : ForwardPortSpec}
    (h : spec.Printable) : spec.ReadFrom spec.print := by
  have hcolon : forall n, ':' ∉ Decimal.print n := Decimal.not_mem_print (by decide)
  have hnumeral : forall port : UInt16,
      Decimal.Numeral UInt16.size (Decimal.print port.toNat) port.toNat :=
    fun port => Decimal.parse_eq_some_iff.mp (Decimal.parse_print port.toNat_lt)
  have hne : Text.trim spec.remoteHost.toList ≠ [] := by
    rw [h.trimmed]
    intro hnil
    exact h.host (String.toList_eq_nil_iff.mp hnil)
  refine ⟨_, spec.remoteHost.toList, _, String.toList_ofList,
    ⟨hcolon _, h.colon, hcolon _⟩, hnumeral _, hnumeral _, h.localPort, h.remotePort,
    (Text.trim_ne_nil_iff _).mp hne, ?_⟩
  rw [h.trimmed, String.ofList_toList]

/-- What is accepted is exactly what has the form of the grammar, and a printed
specification is read back. -/
theorem parseForwardPortSpec_grammar :
    (forall raw spec, parseForwardPortSpec raw = .ok spec <->
      ForwardPortSpec.ReadFrom spec raw) ∧
    (forall spec, ForwardPortSpec.Printable spec ->
      parseForwardPortSpec spec.print = .ok spec) := by
  refine ⟨fun raw spec => parseForwardPortSpec_eq_ok_iff, ?_⟩
  intro spec hspec
  exact parseForwardPortSpec_eq_ok_iff.mpr hspec.readFrom_print

theorem parseForwardPortSpec_grammar_rds :
    parseForwardPortSpec "15432:rds.example.com:5432" =
      .ok { localPort := 15432, remoteHost := "rds.example.com", remotePort := 5432 } :=
  parseForwardPortSpec_grammar.2
    { localPort := 15432, remoteHost := "rds.example.com", remotePort := 5432 }
    { localPort := by decide
      remotePort := by decide
      host := by decide
      colon := by decide
      trimmed := by decide }

end Laptop

end Ephemwork

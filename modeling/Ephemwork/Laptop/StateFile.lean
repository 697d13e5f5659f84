import Ephemwork.Bastion.Wire
import Ephemwork.Foundation.AtomicFile
import Ephemwork.Laptop.State

/-!
# The state file

How `src/state.rs` reads and writes the sessions.  The JSON text is a parameter,
of which the program relies on reading back what it wrote; the end of the module
implements it.
-/

namespace Ephemwork

open Foundation
open Bastion (Codec)

namespace Laptop

def State.fileContents (json : Codec String State) (state : State) : Bytes :=
  Bytes.ofText (json.encode state).toList

/-- What `State::load` makes of the contents of the file; a missing or blank file
has no sessions. -/
def State.load (json : Codec String State) (contents : Option Bytes) :
    Except String State :=
  match contents with
  | none => .ok State.default
  | some bytes =>
      match Bytes.toText? bytes with
      | none => .error "stream did not contain valid UTF-8"
      | some text =>
          if Text.isBlank text then
            .ok State.default
          else
            json.decode (String.ofList text)

def State.temporary (path : Path) : Path :=
  path.withExtension "json.tmp"

theorem State.temporary_ne (path : Path) : State.temporary path ≠ path :=
  Path.withExtension_ne (by decide)

structure StateRoundTrip (json : Codec String State) : Prop where
  faithful : json.Faithful
  rejects_blank : forall s state, Text.isBlank s = true ->
    json.decode (String.ofList s) ≠ .ok state

theorem State.load_fileContents {json : Codec String State}
    (h : StateRoundTrip json) (state : State) :
    State.load json (some (state.fileContents json)) = .ok state := by
  have hdecode := h.faithful state
  have hblank : Text.isBlank (json.encode state).toList = false := by
    cases hblank : Text.isBlank (json.encode state).toList with
    | false => rfl
    | true =>
        rw [← String.ofList_toList (s := json.encode state)] at hdecode
        exact absurd hdecode (h.rejects_blank _ _ hblank)
  simp [State.load, State.fileContents, hblank, hdecode]

/-!
# An implementation

A process id that is absent is left out, and the start of a session is written
as a date only if it is the epoch, else as a number of seconds.
-/

namespace StateCodec

open Bastion.JsonCodec

def optionalField (name : String) (fields : List (List Char × Json)) :
    Except String (Option Json) :=
  match fields.filter fun entry => decide (entry.1 = name.toList) with
  | [] => .ok none
  | [entry] => .ok (some entry.2)
  | _ => .error ("duplicate field " ++ name)

def epoch : String := "1970-01-01T00:00:00Z"

def ofInstant (t : Int) : Json :=
  if t = 0 then
    ofText epoch
  else
    match t with
    | .ofNat n => .num n
    | .negSucc n => .arr (.cons (.num n) .nil)

def instant : Json -> Except String Int
  | .str s =>
      if s = epoch.toList then
        .ok 0
      else
        .error "premature end of input"
  | .num n => .ok (.ofNat n)
  | .arr (.cons (.num n) .nil) => .ok (.negSucc n)
  | _ => .error "invalid type: expected an RFC 3339 formatted date and time"

theorem instant_ofInstant (t : Int) : instant (ofInstant t) = .ok t := by
  by_cases h : t = 0
  · simp [ofInstant, h, instant, ofText]
  · cases t with
    | ofNat n => simp only [ofInstant, h, if_false, instant]
    | negSucc n => simp only [ofInstant, h, if_false, instant]

def processId : Json -> Except String UInt32
  | .num n =>
      if n < 4294967296 then
        .ok (UInt32.ofNat n)
      else
        .error "invalid value: expected u32"
  | _ => .error "invalid type: expected u32"

def optionalProcessId : Option Json -> Except String (Option UInt32)
  | none => .ok none
  | some value => (processId value).map some

def ports : List Json -> Except String (List UInt16)
  | [] => .ok []
  | value :: rest => do
      let p <- port value
      let more <- ports rest
      return p :: more

def portList : Option Json -> Except String (List UInt16)
  | none => .ok []
  | some (.arr items) => ports items.toList
  | some _ => .error "invalid type: expected a sequence"

theorem ports_map (forwards : List UInt16) :
    ports (forwards.map ofPort) = .ok forwards := by
  induction forwards with
  | nil => rfl
  | cons p rest ih =>
      simp [ports, port_ofPort, ih, bind, Except.bind, pure, Except.pure]

def pidFields (pid : Option UInt32) : List (String × Json) :=
  match pid with
  | none => []
  | some pid => [("pid", .num pid.toNat)]

def sessionFields (session : Session) : List (String × Json) :=
  [("user", ofText session.user), ("service", ofText session.service),
    ("started_at", ofInstant session.startedAt),
    ("local_port", ofPort session.localPort),
    ("remote_port", ofPort session.remotePort)] ++
  (pidFields session.pid ++
    [("forward_local_ports",
      .arr (.ofList (session.forwardLocalPorts.map ofPort)))])

def session (value : Json) : Except String Session := do
  let fields <- structFields value
  let user <- text (<- field "user" fields)
  let service <- text (<- field "service" fields)
  let startedAt <- instant (<- field "started_at" fields)
  let localPort <- port (<- field "local_port" fields)
  let remotePort <- port (<- field "remote_port" fields)
  let pid <- optionalProcessId (<- optionalField "pid" fields)
  let forwardLocalPorts <-
    portList (<- optionalField "forward_local_ports" fields)
  return {
    user := user
    service := service
    startedAt := startedAt
    localPort := localPort
    remotePort := remotePort
    pid := pid
    forwardLocalPorts := forwardLocalPorts }

def sessions : List Json -> Except String (List Session)
  | [] => .ok []
  | value :: rest => do
      let first <- session value
      let more <- sessions rest
      return first :: more

def sessionList : Option Json -> Except String (List Session)
  | none => .ok []
  | some (.arr items) => sessions items.toList
  | some _ => .error "invalid type: expected a sequence"

def ofSessions (stored : List Session) : Json :=
  .arr (.ofList (stored.map fun s => ofStruct (sessionFields s)))

def codec : Codec String State where
  encode := fun state =>
    String.ofList (Json.print Json.pretty
      (ofStruct [("sessions", ofSessions state.sessions)]))
  decode := fun s => do
    let fields <- structFields (<- parseText s.toList)
    let stored <- sessionList (<- optionalField "sessions" fields)
    return { sessions := stored }

/-!
# Reading back what was written
-/

theorem optionalField_map (name : String) (value : Json)
    (fields : List (String × Json))
    (h : (fields.filter fun entry => decide (entry.1 = name)) =
      [(name, value)]) :
    optionalField name (fields.map fun entry => (entry.1.toList, entry.2)) =
      .ok (some value) := by
  unfold optionalField
  rw [filter_names, h]
  rfl

theorem optionalField_map_of_absent (name : String)
    (fields : List (String × Json))
    (h : (fields.filter fun entry => decide (entry.1 = name)) = []) :
    optionalField name (fields.map fun entry => (entry.1.toList, entry.2)) =
      .ok none := by
  unfold optionalField
  rw [filter_names, h]
  rfl

theorem exists_processId (s : Session) :
    exists raw, optionalField "pid"
        ((sessionFields s).map fun entry => (entry.1.toList, entry.2)) =
        .ok raw ∧
      optionalProcessId raw = .ok s.pid := by
  cases hpid : s.pid with
  | none =>
      exact ⟨none, optionalField_map_of_absent "pid" (sessionFields s)
        (by simp [sessionFields, pidFields, hpid]), rfl⟩
  | some pid =>
      have hlt : pid.toNat < 4294967296 := pid.toNat_lt
      refine ⟨some (.num pid.toNat), optionalField_map "pid" _ (sessionFields s)
        (by simp [sessionFields, pidFields, hpid]), ?_⟩
      simp [optionalProcessId, processId, hlt, Except.map]

theorem filter_sessionFields (s : Session) {name : String}
    (hname : name ≠ "pid") :
    (sessionFields s).filter (fun entry => decide (entry.1 = name)) =
      (sessionFields { s with pid := none }).filter
        (fun entry => decide (entry.1 = name)) := by
  have hpid : (pidFields s.pid).filter
      (fun entry => decide (entry.1 = name)) = [] := by
    cases s.pid with
    | none => rfl
    | some pid => simp [pidFields, hname.symm]
  simp only [sessionFields, List.filter_append, hpid]
  rfl

theorem session_ofStruct (s : Session) :
    session (ofStruct (sessionFields s)) = .ok s := by
  have hfound : forall name value, name ≠ "pid" ->
      (sessionFields { s with pid := none }).filter
        (fun entry => decide (entry.1 = name)) = [(name, value)] ->
      (sessionFields s).filter (fun entry => decide (entry.1 = name)) =
        [(name, value)] := by
    intro name value hname h
    rw [filter_sessionFields s hname]
    exact h
  have huser := field_map "user" _ (sessionFields s)
    (hfound _ (ofText s.user) (by decide) (by simp [sessionFields, pidFields]))
  have hservice := field_map "service" _ (sessionFields s)
    (hfound _ (ofText s.service) (by decide)
      (by simp [sessionFields, pidFields]))
  have hstarted := field_map "started_at" _ (sessionFields s)
    (hfound _ (ofInstant s.startedAt) (by decide)
      (by simp [sessionFields, pidFields]))
  have hlocal := field_map "local_port" _ (sessionFields s)
    (hfound _ (ofPort s.localPort) (by decide)
      (by simp [sessionFields, pidFields]))
  have hremote := field_map "remote_port" _ (sessionFields s)
    (hfound _ (ofPort s.remotePort) (by decide)
      (by simp [sessionFields, pidFields]))
  have hforwards := optionalField_map "forward_local_ports" _ (sessionFields s)
    (hfound _ (.arr (.ofList (s.forwardLocalPorts.map ofPort))) (by decide)
      (by simp [sessionFields, pidFields]))
  rcases exists_processId s with ⟨raw, hraw, hpid⟩
  simp only [session, structFields_ofStruct, huser, hservice, hstarted, hlocal,
    hremote, hforwards, hraw, hpid, text_ofText, port_ofPort, instant_ofInstant,
    bind, Except.bind, portList, JsonItems.toList_ofList, ports_map, pure,
    Except.pure]

theorem sessions_map (stored : List Session) :
    sessions (stored.map fun s => ofStruct (sessionFields s)) = .ok stored := by
  induction stored with
  | nil => rfl
  | cons s rest ih =>
      simp [sessions, session_ofStruct, ih, bind, Except.bind, pure,
        Except.pure]

theorem codec_roundTrip : StateRoundTrip codec where
  faithful := by
    intro state
    have hsessions := optionalField_map "sessions" (ofSessions state.sessions)
      [("sessions", ofSessions state.sessions)] (by simp)
    simp only [codec, String.toList_ofList, parseText_print,
      structFields_ofStruct, hsessions, bind, Except.bind]
    simp only [sessionList, ofSessions, JsonItems.toList_ofList, sessions_map,
      pure, Except.pure]
  rejects_blank := by
    intro s state hblank hdecode
    simp only [codec, String.toList_ofList, parseText_of_blank hblank, bind,
      Except.bind] at hdecode
    cases hdecode

end StateCodec

end Laptop

end Ephemwork

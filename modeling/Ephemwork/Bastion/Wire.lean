import Ephemwork.Bastion.Registry
import Ephemwork.Foundation.Bytes
import Ephemwork.Foundation.Json

/-!
# Wire types and their encoding

The request and response types shared by the laptop and the bastion
(`common/src/lib.rs`), and the parameter standing for `serde_json`: an encoder
and a decoder for each of them and for the registry file.  What the program
relies on is that decoding an encoded value gives it back.  The end of the
module implements the parameter with the JSON library.
-/

namespace Ephemwork

open Foundation

namespace Bastion

structure RegisterRequest where
  user : String
  service : String
deriving DecidableEq, Repr

structure RegisterResponse where
  /-- Port allocated on the bastion that the laptop reverse-forwards to. -/
  remotePort : UInt16
deriving DecidableEq, Repr

structure DeregisterRequest where
  user : String
  service : String
deriving DecidableEq, Repr

structure ErrorResponse where
  error : String
deriving DecidableEq, Repr

structure SnapshotEntry where
  user : String
  service : String
  remotePort : UInt16
deriving DecidableEq, Repr

structure Codec (wire value : Type) where
  encode : value -> wire
  decode : wire -> Except String value

def Codec.Faithful {wire value : Type} (codec : Codec wire value) : Prop :=
  forall v, codec.decode (codec.encode v) = .ok v

/-- The part of `serde_json` the program uses. -/
structure SerdeJson where
  registerRequest : Codec Bytes RegisterRequest
  registerResponse : Codec Bytes RegisterResponse
  deregisterRequest : Codec Bytes DeregisterRequest
  errorResponse : ErrorResponse -> Bytes
  snapshot : List SnapshotEntry -> Bytes
  registry : Codec String Registry

def RegisterRequest.key (request : RegisterRequest) : Key where
  user := request.user
  service := request.service

def DeregisterRequest.key (request : DeregisterRequest) : Key where
  user := request.user
  service := request.service

/-!
# An implementation

A struct is an object with one field for each of its own; other fields are
ignored, missing and repeated ones are errors.
-/

namespace JsonCodec

def structFields : Json -> Except String (List (List Char × Json))
  | .obj fields => .ok fields.toList
  | _ => .error "invalid type: expected struct"

def field (name : String) (fields : List (List Char × Json)) :
    Except String Json :=
  match fields.filter fun entry => decide (entry.1 = name.toList) with
  | [] => .error ("missing field " ++ name)
  | [entry] => .ok entry.2
  | _ => .error ("duplicate field " ++ name)

def text : Json -> Except String String
  | .str s => .ok (String.ofList s)
  | _ => .error "invalid type: expected a string"

def port : Json -> Except String UInt16
  | .num n =>
      if n < 65536 then
        .ok (UInt16.ofNat n)
      else
        .error "invalid value: expected u16"
  | _ => .error "invalid type: expected u16"

def ofPort (p : UInt16) : Json :=
  .num p.toNat

def ofText (s : String) : Json :=
  .str s.toList

theorem text_ofText (s : String) : text (ofText s) = .ok s := by
  simp [text, ofText]

theorem port_ofPort (p : UInt16) : port (ofPort p) = .ok p := by
  simp [port, ofPort, p.toNat_lt]

def ofStruct (fields : List (String × Json)) : Json :=
  .obj (.ofList (fields.map fun field => (field.1.toList, field.2)))

theorem structFields_ofStruct (fields : List (String × Json)) :
    structFields (ofStruct fields) =
      .ok (fields.map fun field => (field.1.toList, field.2)) := by
  simp [structFields, ofStruct]

theorem filter_names (name : String) (fields : List (String × Json)) :
    ((fields.map fun entry => (entry.1.toList, entry.2)).filter fun entry =>
        decide (entry.1 = name.toList)) =
      (fields.filter fun entry => decide (entry.1 = name)).map
        fun entry => (entry.1.toList, entry.2) := by
  have hnames : (fun entry : List Char × Json => decide (entry.1 = name.toList)) ∘
      (fun entry : String × Json => (entry.1.toList, entry.2)) =
      fun entry => decide (entry.1 = name) := by
    funext entry
    simp [String.toList_inj]
  rw [List.filter_map, hnames]

theorem field_map (name : String) (value : Json)
    (fields : List (String × Json))
    (h : (fields.filter fun entry => decide (entry.1 = name)) =
      [(name, value)]) :
    field name (fields.map fun entry => (entry.1.toList, entry.2)) =
      .ok value := by
  unfold field
  rw [filter_names, h]
  rfl

def parseText (s : List Char) : Except String Json :=
  match Json.parse s with
  | some value => .ok value
  | none => .error "invalid JSON"

def parseBytes (bytes : Bytes) : Except String Json :=
  match Bytes.toText? bytes with
  | some s => parseText s
  | none => .error "invalid unicode code point"

theorem parseText_print (layout : Json.Layout) (value : Json) :
    parseText (Json.print layout value) = .ok value := by
  simp [parseText, Json.parse_print]

def toVec (value : Json) : Bytes :=
  Bytes.ofText (Json.print Json.compact value)

theorem parseBytes_toVec (value : Json) :
    parseBytes (toVec value) = .ok value := by
  simp [parseBytes, toVec, parseText_print]

def pairCodec {value : Type} (user service : value -> String)
    (make : String -> String -> value) : Codec Bytes value where
  encode := fun v =>
    toVec (ofStruct [("user", ofText (user v)), ("service", ofText (service v))])
  decode := fun bytes => do
    let fields <- structFields (<- parseBytes bytes)
    let user <- text (<- field "user" fields)
    let service <- text (<- field "service" fields)
    return make user service

theorem pairCodec_faithful {value : Type} {user service : value -> String}
    {make : String -> String -> value}
    (h : forall v, make (user v) (service v) = v) :
    (pairCodec user service make).Faithful := by
  intro v
  have huser := field_map "user" (ofText (user v))
    [("user", ofText (user v)), ("service", ofText (service v))] (by simp)
  have hservice := field_map "service" (ofText (service v))
    [("user", ofText (user v)), ("service", ofText (service v))] (by simp)
  simp only [pairCodec, parseBytes_toVec, structFields_ofStruct, huser,
    hservice, text_ofText, bind, Except.bind, pure, Except.pure, h]

def registerResponseCodec : Codec Bytes RegisterResponse where
  encode := fun response =>
    toVec (ofStruct [("remote_port", ofPort response.remotePort)])
  decode := fun bytes => do
    let fields <- structFields (<- parseBytes bytes)
    let remotePort <- port (<- field "remote_port" fields)
    return { remotePort := remotePort }

def ofSnapshotEntry (entry : SnapshotEntry) : Json :=
  ofStruct [("user", ofText entry.user), ("service", ofText entry.service),
    ("remote_port", ofPort entry.remotePort)]

def ofRange (range : PortRange) : Json :=
  ofStruct [("start", ofPort range.start), ("end", ofPort range.stop)]

def ofEntries (registry : Registry) : Json :=
  ofStruct (registry.entries.toList.map fun entry => (entry.1, ofPort entry.2))

def ofRegistry (registry : Registry) : Json :=
  ofStruct [("range", ofRange registry.range), ("entries", ofEntries registry)]

def entryPorts : List (List Char × Json) ->
    Except String (List (String × UInt16))
  | [] => .ok []
  | (name, value) :: rest => do
      let p <- port value
      let more <- entryPorts rest
      return (String.ofList name, p) :: more

def registryCodec : Codec String Registry where
  encode := fun registry =>
    String.ofList (Json.print Json.pretty (ofRegistry registry))
  decode := fun s => do
    let fields <- structFields (<- parseText s.toList)
    let range <- structFields (<- field "range" fields)
    let start <- port (<- field "start" range)
    let stop <- port (<- field "end" range)
    let entries <- entryPorts (<- structFields (<- field "entries" fields))
    return { range := { start := start, stop := stop },
             entries := Std.ExtTreeMap.ofList entries }

theorem entryPorts_map (entries : List (String × UInt16)) :
    entryPorts (entries.map fun entry => (entry.1.toList, ofPort entry.2)) =
      .ok entries := by
  induction entries with
  | nil => rfl
  | cons entry rest ih =>
      simp [entryPorts, port_ofPort, ih, bind, Except.bind, pure, Except.pure]

theorem ofList_toList (entries : Std.ExtTreeMap String UInt16) :
    Std.ExtTreeMap.ofList entries.toList = entries := by
  apply Std.ExtTreeMap.ext_getElem?
  intro s
  cases hs : entries[s]? with
  | some p =>
      exact Std.ExtTreeMap.getElem?_ofList_of_mem (k := s) (by simp)
        Std.ExtTreeMap.distinct_keys_toList
        (Std.ExtTreeMap.mem_toList_iff_getElem?_eq_some.mpr hs)
  | none =>
      apply Std.ExtTreeMap.getElem?_ofList_of_contains_eq_false
      rw [Std.ExtTreeMap.map_fst_toList_eq_keys]
      simpa using hs

theorem parseText_of_blank {s : List Char} (h : Text.isBlank s = true) :
    parseText s = .error "invalid JSON" := by
  have hblank := (Text.isBlank_eq_true_iff s).mp h
  have hparse : Json.parseValue (s.length + 1) s = none := by
    rw [Json.parseValue]
    cases hskip : Json.skipSpace s with
    | nil => rfl
    | cons c rest =>
        have hmem : c ∈ Json.skipSpace s := by simp [hskip]
        have hc := hblank c ((List.dropWhile_sublist _).subset hmem)
        have hquote : c ≠ '"' := by
          intro heq
          subst heq
          revert hc
          decide
        have hbracket : c ≠ '[' := by
          intro heq
          subst heq
          revert hc
          decide
        have hbrace : c ≠ '\x7b' := by
          intro heq
          subst heq
          revert hc
          decide
        have hdigit : c.isDigit = false := by
          cases hdigit : c.isDigit with
          | false => rfl
          | true =>
              rw [Text.isWhitespace_of_isDigit hdigit] at hc
              cases hc
        simp [hquote, hbracket, hbrace, hdigit]
  simp [parseText, Json.parse, hparse]

theorem registryCodec_faithful : registryCodec.Faithful := by
  intro registry
  have hrange := field_map "range"
    (ofRange registry.range)
    ([("range", ofRange registry.range),
      ("entries", ofEntries registry)]) (by simp)
  have hentries := field_map "entries"
    (ofEntries registry)
    ([("range", ofRange registry.range),
      ("entries", ofEntries registry)]) (by simp)
  have hstart := field_map "start"
    (ofPort registry.range.start)
    ([("start", ofPort registry.range.start),
      ("end", ofPort registry.range.stop)]) (by simp)
  have hstop := field_map "end"
    (ofPort registry.range.stop)
    ([("start", ofPort registry.range.start),
      ("end", ofPort registry.range.stop)]) (by simp)
  simp only [registryCodec, String.toList_ofList, parseText_print, ofRegistry,
    structFields_ofStruct, hrange, hentries, bind, Except.bind]
  simp only [ofRange, ofEntries, structFields_ofStruct, hstart, hstop,
    port_ofPort, List.map_map, Function.comp_def, entryPorts_map,
    ofList_toList, pure, Except.pure]

theorem registryCodec_rejects_blank {s : List Char}
    (h : Text.isBlank s = true) (registry : Registry) :
    registryCodec.decode (String.ofList s) ≠ .ok registry := by
  intro hdecode
  simp only [registryCodec, String.toList_ofList, parseText_of_blank h, bind,
    Except.bind] at hdecode
  cases hdecode

end JsonCodec

/-- `serde_json` as far as the program uses it. -/
def serdeJson : SerdeJson where
  registerRequest := JsonCodec.pairCodec RegisterRequest.user
    RegisterRequest.service RegisterRequest.mk
  registerResponse := JsonCodec.registerResponseCodec
  deregisterRequest := JsonCodec.pairCodec DeregisterRequest.user
    DeregisterRequest.service DeregisterRequest.mk
  errorResponse := fun response =>
    JsonCodec.toVec
      (JsonCodec.ofStruct [("error", JsonCodec.ofText response.error)])
  snapshot := fun entries =>
    JsonCodec.toVec (.arr (.ofList (entries.map JsonCodec.ofSnapshotEntry)))
  registry := JsonCodec.registryCodec

theorem serdeJson_registerRequest_faithful :
    serdeJson.registerRequest.Faithful :=
  JsonCodec.pairCodec_faithful fun _ => rfl

theorem serdeJson_deregisterRequest_faithful :
    serdeJson.deregisterRequest.Faithful :=
  JsonCodec.pairCodec_faithful fun _ => rfl

theorem serdeJson_registerResponse_faithful :
    serdeJson.registerResponse.Faithful := by
  intro response
  have hport := JsonCodec.field_map "remote_port"
    (JsonCodec.ofPort response.remotePort)
    ([("remote_port", JsonCodec.ofPort response.remotePort)])
    (by simp)
  simp only [serdeJson, JsonCodec.registerResponseCodec,
    JsonCodec.parseBytes_toVec, JsonCodec.structFields_ofStruct, hport,
    JsonCodec.port_ofPort, bind, Except.bind, pure, Except.pure]

theorem serdeJson_registry_faithful : serdeJson.registry.Faithful :=
  JsonCodec.registryCodec_faithful

end Bastion

end Ephemwork

import Ephemwork.Bastion.Registry
import Ephemwork.Foundation.Bytes

/-!
# The rendered nginx configuration

The routing map of `bastion-server/src/nginx.rs`: what identifiers it accepts,
the text it renders from a snapshot, and how nginx reads the map block of that
text back.
-/

namespace Ephemwork

open Foundation

namespace Bastion

/-!
# Safe identifiers

The source tests the bytes of an identifier.  Since it accepts ASCII only, this
is a test of the characters.
-/

def isAsciiAlphanumeric (b : UInt8) : Bool :=
  (decide ('0'.toUInt8 ≤ b) && decide (b ≤ '9'.toUInt8)) ||
    (decide ('A'.toUInt8 ≤ b) && decide (b ≤ 'Z'.toUInt8)) ||
    (decide ('a'.toUInt8 ≤ b) && decide (b ≤ 'z'.toUInt8))

def isSafeByte (b : UInt8) : Bool :=
  isAsciiAlphanumeric b || b == '_'.toUInt8 || b == '-'.toUInt8 ||
    b == '.'.toUInt8

def isSafeIdentifier (s : String) : Bool :=
  if s = "" then
    false
  else
    (Bytes.ofText s.toList).all isSafeByte

def isSafeChar (c : Char) : Bool :=
  c.isAlphanum || c == '_' || c == '-' || c == '.'

def SafeCode (n : Nat) : Prop :=
  (48 ≤ n ∧ n ≤ 57) ∨ (65 ≤ n ∧ n ≤ 90) ∨ (97 ≤ n ∧ n ≤ 122) ∨ n = 95 ∨ n = 45 ∨
    n = 46

theorem isSafeByte_iff (b : UInt8) :
    isSafeByte b = true <-> SafeCode b.toNat := by
  simp only [isSafeByte, isAsciiAlphanumeric, Bool.or_eq_true,
    Bool.and_eq_true, decide_eq_true_eq, beq_iff_eq, UInt8.le_iff_toNat_le,
    ← UInt8.toNat_inj]
  show (((((48 ≤ b.toNat ∧ b.toNat ≤ 57) ∨ (65 ≤ b.toNat ∧ b.toNat ≤ 90)) ∨
    (97 ≤ b.toNat ∧ b.toNat ≤ 122)) ∨ b.toNat = 95) ∨ b.toNat = 45) ∨
    b.toNat = 46 <-> SafeCode b.toNat
  simp only [SafeCode, or_assoc]

theorem isSafeChar_iff (c : Char) :
    isSafeChar c = true <-> SafeCode c.toNat := by
  have halphanum : c.isAlphanum =
      ((decide (65 ≤ c.val ∧ c.val ≤ 90) ||
        (decide (97 ≤ c.val) && decide (c.val ≤ 122))) ||
        (decide (48 ≤ c.val) && decide (c.val ≤ 57))) := rfl
  simp only [isSafeChar, halphanum, Bool.or_eq_true, Bool.and_eq_true,
    decide_eq_true_eq, beq_iff_eq, UInt32.le_iff_toNat_le, Char.ext_iff,
    ← UInt32.toNat_inj]
  show (((((65 ≤ c.toNat ∧ c.toNat ≤ 90) ∨ (97 ≤ c.toNat ∧ c.toNat ≤ 122)) ∨
    (48 ≤ c.toNat ∧ c.toNat ≤ 57)) ∨ c.toNat = 95) ∨ c.toNat = 45) ∨
    c.toNat = 46 <-> SafeCode c.toNat
  unfold SafeCode
  omega

theorem SafeCode.lt {n : Nat} (h : SafeCode n) : n < 128 := by
  unfold SafeCode at h
  omega

theorem isSafeByte_ofNat {c : Char} (h : c.toNat < 128) :
    isSafeByte (UInt8.ofNat c.toNat) = isSafeChar c := by
  rw [Bool.eq_iff_iff, isSafeByte_iff, isSafeChar_iff,
    UInt8.toNat_ofNat_of_lt' (Nat.lt_trans h (by decide))]

theorem isSafeByte_of_le {b : UInt8} (h : 128 ≤ b.toNat) :
    isSafeByte b = false := by
  rw [Bool.eq_false_iff]
  intro hsafe
  exact absurd ((isSafeByte_iff b).mp hsafe).lt (Nat.not_lt.mpr h)

theorem toNat_lt_of_isSafeChar {c : Char} (h : isSafeChar c = true) :
    c.toNat < 128 :=
  ((isSafeChar_iff c).mp h).lt

theorem isSafeIdentifier_eq_true_iff (s : String) :
    isSafeIdentifier s = true <->
      s.toList ≠ [] ∧ forall c, c ∈ s.toList -> isSafeChar c = true := by
  have hhigh : forall c : Char, 128 ≤ c.toNat -> isSafeChar c = false := by
    intro c hc
    cases htest : isSafeChar c with
    | false => rfl
    | true => exact absurd (toNat_lt_of_isSafeChar htest) (Nat.not_lt.mpr hc)
  unfold isSafeIdentifier
  rw [Bytes.all_ofText (fun c => isSafeByte_ofNat)
    (fun b => isSafeByte_of_le) hhigh]
  by_cases hs : s = ""
  · simp [hs]
  · simp [hs]

theorem notMem_of_isSafeIdentifier {s : String} {c : Char}
    (h : isSafeIdentifier s = true) (hc : isSafeChar c = false) :
    c ∉ s.toList := by
  intro hmem
  rw [((isSafeIdentifier_eq_true_iff s).mp h).right c hmem] at hc
  cases hc

def Key.Safe (key : Key) : Prop :=
  isSafeIdentifier key.user = true ∧ isSafeIdentifier key.service = true

instance (key : Key) : Decidable key.Safe :=
  inferInstanceAs (Decidable (_ ∧ _))

theorem Key.Safe.slash_notMem {key : Key} (h : key.Safe) :
    '/' ∉ key.user.toList :=
  notMem_of_isSafeIdentifier h.left (by decide)

theorem Key.Safe.of_composeKey_eq {key safe : Key} (hsafe : safe.Safe)
    (h : composeKey key = composeKey safe) : key = safe := by
  have hservice : '/' ∉ safe.service.toList :=
    notMem_of_isSafeIdentifier hsafe.right (by decide)
  have hlist := congrArg String.toList h
  rw [toList_composeKey, toList_composeKey] at hlist
  by_cases huser : '/' ∈ key.user.toList
  · -- A second separator would end up inside the safe service.
    rcases Text.exists_eq_append_of_mem huser with ⟨left, right, hleft, hs⟩
    rw [hs, List.append_assoc, List.cons_append] at hlist
    rcases Text.append_cons_inj hleft hsafe.slash_notMem hlist with ⟨_, hright⟩
    rw [← hright] at hservice
    simp at hservice
  · exact composeKey_inj huser hsafe.slash_notMem h

/-!
# Rendering
-/

inductive RenderError where
  | unsafeUser (user : String)
  | unsafeService (service : String)
deriving DecidableEq, Repr

def checkIdentifiers : List (Key × UInt16) -> Except RenderError Unit
  | [] => .ok ()
  | (key, _) :: rest =>
      if isSafeIdentifier key.user = false then
        .error (.unsafeUser key.user)
      else if isSafeIdentifier key.service = false then
        .error (.unsafeService key.service)
      else
        checkIdentifiers rest

def defaultLine : String := "    default \"\";"

def configHead : List String :=
  ["# Generated by ephemwork bastion control plane. DO NOT EDIT BY HAND.",
    "# Re-rendered after every register/deregister.",
    "",
    "resolver 127.0.0.1 valid=300s ipv6=off;",
    "",
    "map $http_x_ephemwork $ephem_target \x7b",
    defaultLine]

def configTail : List String :=
  ["\x7d",
    "",
    "server \x7b",
    "    listen 80 default_server;",
    "    listen [::]:80 default_server;",
    "",
    "    location = /ephemwork-health \x7b",
    "        return 200 \"ok\\n\";",
    "    \x7d",
    "",
    "    location / \x7b",
    "        if ($ephem_target = \"\") \x7b",
    "            return 404 \"no active ephemwork session for this header\\n\";",
    "        \x7d",
    "        proxy_pass http://$ephem_target;",
    "        proxy_http_version 1.1;",
    "        proxy_set_header Host $host;",
    "        proxy_set_header X-Forwarded-For $proxy_add_x_forwarded_for;",
    "        proxy_set_header X-Forwarded-Proto $scheme;",
    "        proxy_set_header X-Ephemwork $http_x_ephemwork;",
    "        proxy_read_timeout 300s;",
    "    \x7d",
    "\x7d"]

def mapHeader (key : Key) : String :=
  key.user ++ ":" ++ key.service

def mapTarget (port : UInt16) : String :=
  "127.0.0.1:" ++ toString port.toNat

def mapLine (entry : Key × UInt16) : String :=
  "    \"" ++ mapHeader entry.1 ++ "\" \"" ++ mapTarget entry.2 ++ "\";"

def configText (entries : List (Key × UInt16)) : List Char :=
  Text.unlines
    ((configHead ++ (entries.map mapLine ++ configTail)).map String.toList)

def renderConfig (entries : List (Key × UInt16)) :
    Except RenderError String := do
  checkIdentifiers entries
  return String.ofList (configText entries)

theorem checkIdentifiers_eq_ok_iff (entries : List (Key × UInt16)) :
    checkIdentifiers entries = .ok () <->
      forall entry, entry ∈ entries -> entry.1.Safe := by
  induction entries with
  | nil => simp [checkIdentifiers]
  | cons entry rest ih =>
      rcases entry with ⟨key, port⟩
      cases huser : isSafeIdentifier key.user with
      | false => simp [checkIdentifiers, Key.Safe, huser]
      | true =>
          cases hservice : isSafeIdentifier key.service with
          | false => simp [checkIdentifiers, Key.Safe, huser, hservice]
          | true => simp [checkIdentifiers, Key.Safe, huser, hservice, ih]

theorem renderConfig_of_error {entries : List (Key × UInt16)} {e : RenderError}
    (h : checkIdentifiers entries = .error e) :
    renderConfig entries = .error e := by
  rw [renderConfig, h]
  rfl

theorem renderConfig_of_ok {entries : List (Key × UInt16)}
    (h : checkIdentifiers entries = .ok ()) :
    renderConfig entries = .ok (String.ofList (configText entries)) := by
  rw [renderConfig, h]
  rfl

theorem renderConfig_eq_ok_iff (entries : List (Key × UInt16))
    (text : String) :
    renderConfig entries = .ok text <->
      (forall entry, entry ∈ entries -> entry.1.Safe) ∧
        text = String.ofList (configText entries) := by
  rw [← checkIdentifiers_eq_ok_iff]
  cases hcheck : checkIdentifiers entries with
  | error e =>
      rw [renderConfig_of_error hcheck]
      constructor
      · intro h
        cases h
      · intro h
        cases h.left
  | ok checked =>
      rw [renderConfig_of_ok hcheck]
      constructor
      · intro h
        exact ⟨rfl, (Except.ok.inj h).symm⟩
      · intro h
        rw [h.right]

theorem renderConfig_of_safe {entries : List (Key × UInt16)}
    (h : forall entry, entry ∈ entries -> entry.1.Safe) :
    renderConfig entries = .ok (String.ofList (configText entries)) :=
  (renderConfig_eq_ok_iff entries _).mpr ⟨h, rfl⟩

/-!
# Reading the map block back
-/

/-- The two quoted texts of a map line. -/
def readMapLine (line : List Char) : Option (String × String) :=
  match line.splitOn '"' with
  | [_, header, _, target, _] =>
      some (String.ofList header, String.ofList target)
  | _ => none

/-- The entries of the map block: what stands between the default line and the
closing brace. -/
def readMap (text : List Char) : List (String × String) :=
  ((((text.splitOn '\n').dropWhile fun line =>
    decide (line ≠ defaultLine.toList)).drop 1).takeWhile fun line =>
      decide (line ≠ ['\x7d'])).filterMap readMapLine

def mapEntry (entry : Key × UInt16) : String × String :=
  (mapHeader entry.1, mapTarget entry.2)

theorem toList_mapTarget (port : UInt16) :
    (mapTarget port).toList =
      "127.0.0.1:".toList ++ Nat.toDigits 10 port.toNat := by
  have hdigits : (toString port.toNat).toList = Nat.toDigits 10 port.toNat :=
    Nat.toList_repr
  rw [mapTarget, String.toList_append, hdigits]

theorem toList_mapHeader (key : Key) :
    (mapHeader key).toList = key.user.toList ++ ':' :: key.service.toList := by
  simp [mapHeader]

theorem toList_mapLine (entry : Key × UInt16) :
    (mapLine entry).toList =
      "    ".toList ++ '"' :: ((mapHeader entry.1).toList ++
        '"' :: (" ".toList ++ '"' :: ((mapTarget entry.2).toList ++
          '"' :: ";".toList))) := by
  simp [mapLine]

theorem notMem_mapHeader {key : Key} (h : key.Safe) {c : Char}
    (hc : isSafeChar c = false) (hcolon : c ≠ ':') :
    c ∉ (mapHeader key).toList := by
  simp [toList_mapHeader, notMem_of_isSafeIdentifier h.left hc,
    notMem_of_isSafeIdentifier h.right hc, hcolon]

theorem notMem_mapTarget {c : Char} (hdigit : c.isDigit = false)
    (hfront : c ∉ "127.0.0.1:".toList) (port : UInt16) :
    c ∉ (mapTarget port).toList := by
  rw [toList_mapTarget, List.mem_append, not_or]
  refine ⟨hfront, ?_⟩
  intro hmem
  rw [Nat.isDigit_of_mem_toDigits (by decide) (by decide) hmem] at hdigit
  cases hdigit

theorem splitOn_mapLine {entry : Key × UInt16} (h : entry.1.Safe) :
    (mapLine entry).toList.splitOn '"' =
      ["    ".toList, (mapHeader entry.1).toList, " ".toList,
        (mapTarget entry.2).toList, ";".toList] := by
  have hheader : '"' ∉ (mapHeader entry.1).toList :=
    notMem_mapHeader h (by decide) (by decide)
  have htarget : '"' ∉ (mapTarget entry.2).toList :=
    notMem_mapTarget (by decide) (by decide) entry.2
  rw [toList_mapLine,
    List.splitOn_append_cons_self_of_not_mem (by decide),
    List.splitOn_append_cons_self_of_not_mem hheader,
    List.splitOn_append_cons_self_of_not_mem (by decide),
    List.splitOn_append_cons_self_of_not_mem htarget,
    List.splitOn_eq_singleton (by decide)]

theorem readMapLine_mapLine {entry : Key × UInt16} (h : entry.1.Safe) :
    readMapLine (mapLine entry).toList = some (mapEntry entry) := by
  simp [readMapLine, splitOn_mapLine h, mapEntry]

theorem newline_notMem_mapLine {entry : Key × UInt16} (h : entry.1.Safe) :
    '\n' ∉ (mapLine entry).toList := by
  have hheader : '\n' ∉ (mapHeader entry.1).toList :=
    notMem_mapHeader h (by decide) (by decide)
  have htarget : '\n' ∉ (mapTarget entry.2).toList :=
    notMem_mapTarget (by decide) (by decide) entry.2
  simp [toList_mapLine, hheader, htarget]

theorem mapLine_ne_brace (entry : Key × UInt16) :
    (mapLine entry).toList ≠ ['\x7d'] := by
  intro h
  have hmem : '"' ∈ (mapLine entry).toList := by simp [toList_mapLine]
  rw [h] at hmem
  revert hmem
  decide

theorem notMem_ofList {c : Char} {s : List Char} (h : s.contains c = false) :
    c ∉ (String.ofList s).toList := by
  rw [String.toList_ofList]
  intro hmem
  rw [List.contains_iff_mem.mpr hmem] at h
  cases h

theorem newline_notMem_configHead :
    forall line, line ∈ configHead -> '\n' ∉ line.toList := by
  simp only [configHead, defaultLine, List.forall_mem_cons, List.not_mem_nil,
    false_implies, implies_true, and_true]
  and_intros <;> exact notMem_ofList rfl

theorem newline_notMem_configTail :
    forall line, line ∈ configTail -> '\n' ∉ line.toList := by
  simp only [configTail, List.forall_mem_cons, List.not_mem_nil, false_implies,
    implies_true, and_true]
  and_intros <;> exact notMem_ofList rfl

theorem ne_defaultLine_of_mem_configHead :
    forall line, line ∈ configHead.dropLast -> line ≠ defaultLine := by
  simp [configHead, defaultLine]

theorem splitOn_configText {entries : List (Key × UInt16)}
    (h : forall entry, entry ∈ entries -> entry.1.Safe) :
    (configText entries).splitOn '\n' =
      (configHead.dropLast.map String.toList ++ defaultLine.toList ::
        (entries.map fun entry => (mapLine entry).toList) ++
        ['\x7d'] :: configTail.tail.map String.toList) ++ [[]] := by
  have hhead : configHead = configHead.dropLast ++ [defaultLine] := rfl
  have htail : configTail = "\x7d" :: configTail.tail := rfl
  have hbrace : "\x7d".toList = ['\x7d'] := rfl
  unfold configText
  rw [Text.splitOn_unlines]
  · conv_lhs => rw [hhead, htail]
    simp only [List.map_append, List.map_cons, List.map_map,
      List.append_assoc, List.cons_append, List.nil_append, hbrace]
    rfl
  · intro line hline
    rcases List.mem_map.mp hline with ⟨s, hs, rfl⟩
    rcases List.mem_append.mp hs with hs | hs
    · exact newline_notMem_configHead s hs
    · rcases List.mem_append.mp hs with hs | hs
      · rcases List.mem_map.mp hs with ⟨entry, hentry, rfl⟩
        exact newline_notMem_mapLine (h entry hentry)
      · exact newline_notMem_configTail s hs

theorem ne_default_of_mem_head :
    forall line, line ∈ configHead.dropLast.map String.toList ->
      decide (line ≠ defaultLine.toList) = true := by
  intro line hline
  rcases List.mem_map.mp hline with ⟨s, hs, rfl⟩
  exact decide_eq_true fun heq =>
    ne_defaultLine_of_mem_configHead s hs (String.toList_inj.mp heq)

theorem ne_brace_of_mem_mapLines (entries : List (Key × UInt16)) :
    forall line, line ∈ (entries.map fun entry => (mapLine entry).toList) ->
      decide (line ≠ ['\x7d']) = true := by
  intro line hline
  rcases List.mem_map.mp hline with ⟨entry, _, rfl⟩
  exact decide_eq_true (mapLine_ne_brace entry)

theorem dropWhile_configText {entries : List (Key × UInt16)}
    (h : forall entry, entry ∈ entries -> entry.1.Safe) :
    ((configText entries).splitOn '\n').dropWhile
        (fun line => decide (line ≠ defaultLine.toList)) =
      defaultLine.toList :: ((entries.map fun entry => (mapLine entry).toList) ++
        ['\x7d'] :: (configTail.tail.map String.toList ++ [[]])) := by
  rw [splitOn_configText h, List.append_assoc, List.append_assoc,
    List.dropWhile_append_of_pos ne_default_of_mem_head, List.cons_append,
    List.dropWhile_cons_of_neg (by simp), List.cons_append]

theorem readMap_configText {entries : List (Key × UInt16)}
    (h : forall entry, entry ∈ entries -> entry.1.Safe) :
    readMap (configText entries) = entries.map mapEntry := by
  rw [readMap, dropWhile_configText h, List.drop_one, List.tail_cons,
    List.takeWhile_append_of_pos (ne_brace_of_mem_mapLines entries),
    List.takeWhile_cons_of_neg (by simp), List.append_nil,
    List.filterMap_map]
  have hread : forall entry, entry ∈ entries ->
      (readMapLine ∘ fun entry => (mapLine entry).toList) entry =
        some (mapEntry entry) :=
    fun entry hentry => readMapLine_mapLine (h entry hentry)
  rw [List.filterMap_congr hread]
  simp

theorem mapTarget_inj {port port' : UInt16}
    (h : mapTarget port = mapTarget port') : port = port' := by
  have hlist := congrArg String.toList h
  rw [toList_mapTarget, toList_mapTarget] at hlist
  have hdigits := List.append_cancel_left hlist
  have hvalue := congrArg (fun s => Nat.ofDigitChars 10 s 0) hdigits
  simp only [Nat.ofDigitChars_ten_toDigits] at hvalue
  exact UInt16.toNat_inj.mp hvalue

theorem Key.Safe.of_mapHeader_eq {key safe : Key} (hsafe : safe.Safe)
    (h : mapHeader key = mapHeader safe) : key = safe := by
  have huser : ':' ∉ safe.user.toList :=
    notMem_of_isSafeIdentifier hsafe.left (by decide)
  have hservice : ':' ∉ safe.service.toList :=
    notMem_of_isSafeIdentifier hsafe.right (by decide)
  have hlist := congrArg String.toList h
  rw [toList_mapHeader, toList_mapHeader] at hlist
  have hkey : ':' ∉ key.user.toList := by
    intro hmem
    rcases Text.exists_eq_append_of_mem hmem with ⟨left, right, hleft, hs⟩
    rw [hs, List.append_assoc, List.cons_append] at hlist
    rcases Text.append_cons_inj hleft huser hlist with ⟨_, hright⟩
    rw [← hright] at hservice
    simp at hservice
  rcases Text.append_cons_inj hkey huser hlist with ⟨hleft, hright⟩
  cases key
  cases safe
  simp only [String.toList_inj] at hleft hright
  rw [hleft, hright]

end Bastion

end Ephemwork

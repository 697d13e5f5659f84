import Mathlib.Data.List.ReduceOption
import Ephemwork.Foundation.HereDocument

/-!
# Shell scripts

A script as the shell reads it: lines of simple commands, joined by `&&` and
`||`, whose words may be quoted, which may write to a file and may be given a
here-document.  What is outside this part of the language is not read at all:
variables, patterns, pipelines and compound commands among it.
-/

namespace Foundation

namespace Shell

abbrev Word : Type :=
  List Char

inductive Connective where
  | andIf
  | orIf
deriving DecidableEq, Repr

inductive Token where
  | word (text : Word)
  | connective (connective : Connective)
  | redirect
deriving DecidableEq, Repr

/-!
# Words
-/

inductive Reading where
  | gap
  | comment
  | bare (text : Word)
  | single (text : Word)
  | double (text : Word)
  | ampersand
  | bar
  | failed
deriving DecidableEq, Repr

def isSpace (c : Char) : Bool :=
  c == ' ' || c == '\t'

def isSpecial (c : Char) : Bool :=
  isSpace c ||
    ['\n', '\'', '"', '>', '&', '|', ';', '<', '(', ')', '$', '\x60', '\\', '*', '?',
      '[', ']', '\x7b', '\x7d', '~', '!'].contains c

def startToken (c : Char) : List Token × Reading :=
  if isSpace c then
    ([], .gap)
  else if c = '#' then
    ([], .comment)
  else if c = '\'' then
    ([], .single [])
  else if c = '"' then
    ([], .double [])
  else if c = '>' then
    ([.redirect], .gap)
  else if c = '&' then
    ([], .ampersand)
  else if c = '|' then
    ([], .bar)
  else if isSpecial c then
    ([], .failed)
  else
    ([], .bare [c])

def stepBare (text : Word) (c : Char) : List Token × Reading :=
  if isSpace c then
    ([.word text], .gap)
  else if c = '\'' then
    ([], .single text)
  else if c = '"' then
    ([], .double text)
  else if c = '&' then
    ([.word text], .ampersand)
  else if c = '|' then
    ([.word text], .bar)
  else if isSpecial c then
    ([], .failed)
  else
    ([], .bare (text ++ [c]))

def isExpanded (c : Char) : Bool :=
  ['$', '\x60', '\\'].contains c

def stepReading : Reading -> Char -> List Token × Reading
  | .gap, c => startToken c
  | .comment, _ => ([], .comment)
  | .bare text, c => stepBare text c
  | .single text, c =>
      if c = '\'' then ([], .bare text) else ([], .single (text ++ [c]))
  | .double text, c =>
      if c = '"' then
        ([], .bare text)
      else if isExpanded c then
        ([], .failed)
      else
        ([], .double (text ++ [c]))
  | .ampersand, c => if c = '&' then ([.connective .andIf], .gap) else ([], .failed)
  | .bar, c => if c = '|' then ([.connective .orIf], .gap) else ([], .failed)
  | .failed, _ => ([], .failed)

def scan : Reading -> List Char -> List Token × Reading
  | reading, [] => ([], reading)
  | reading, c :: rest =>
      let (first, next) := stepReading reading c
      let (tokens, last) := scan next rest
      (first ++ tokens, last)

def tokens (line : List Char) : Option (List Token) :=
  match scan .gap line with
  | (tokens, .gap) => some tokens
  | (tokens, .comment) => some tokens
  | (tokens, .bare text) => some (tokens ++ [.word text])
  | _ => none

theorem scan_cons (reading : Reading) (c : Char) (rest : List Char) :
    scan reading (c :: rest) =
      ((stepReading reading c).1 ++ (scan (stepReading reading c).2 rest).1,
        (scan (stepReading reading c).2 rest).2) := rfl

theorem scan_append (reading : Reading) (front back : List Char) :
    scan reading (front ++ back) =
      ((scan reading front).1 ++ (scan (scan reading front).2 back).1,
        (scan (scan reading front).2 back).2) := by
  induction front generalizing reading with
  | nil => rfl
  | cons c rest ih =>
      rw [List.cons_append, scan_cons, ih, scan_cons, List.append_assoc]

/-- A text that is one word as it stands. -/
structure IsBare (word : Word) : Prop where
  ne_nil : word ≠ []
  no_comment : word.head? ≠ some '#'
  plain : forall c, c ∈ word -> isSpecial c = false

theorem ne_of_isSpecial {c d : Char} (h : isSpecial c = false) (hd : isSpecial d = true) :
    c ≠ d := by
  intro heq
  rw [heq, hd] at h
  cases h

theorem isSpace_of_isSpecial {c : Char} (h : isSpecial c = false) :
    isSpace c = false := by
  rw [isSpecial, Bool.or_eq_false_iff] at h
  exact h.1

theorem stepBare_of_plain {c : Char} (h : isSpecial c = false) (text : Word) :
    stepBare text c = ([], .bare (text ++ [c])) := by
  have hspace : ¬ isSpace c = true := by
    rw [isSpace_of_isSpecial h]
    decide
  have hspecial : ¬ isSpecial c = true := by
    rw [h]
    decide
  rw [stepBare, if_neg hspace, if_neg (ne_of_isSpecial h (by decide)),
    if_neg (ne_of_isSpecial h (by decide)), if_neg (ne_of_isSpecial h (by decide)),
    if_neg (ne_of_isSpecial h (by decide)), if_neg hspecial]

theorem startToken_of_plain {c : Char} (h : isSpecial c = false) (hcomment : c ≠ '#') :
    startToken c = ([], .bare [c]) := by
  have hspace : ¬ isSpace c = true := by
    rw [isSpace_of_isSpecial h]
    decide
  have hspecial : ¬ isSpecial c = true := by
    rw [h]
    decide
  rw [startToken, if_neg hspace, if_neg hcomment,
    if_neg (ne_of_isSpecial h (by decide)), if_neg (ne_of_isSpecial h (by decide)),
    if_neg (ne_of_isSpecial h (by decide)), if_neg (ne_of_isSpecial h (by decide)),
    if_neg (ne_of_isSpecial h (by decide)), if_neg hspecial]

theorem scan_bare (text : Word) {more : Word}
    (h : forall c, c ∈ more -> isSpecial c = false) :
    scan (.bare text) more = ([], .bare (text ++ more)) := by
  induction more generalizing text with
  | nil => rw [List.append_nil]; rfl
  | cons c more ih =>
      have hstep : stepReading (.bare text) c = ([], .bare (text ++ [c])) :=
        stepBare_of_plain (h c List.mem_cons_self) text
      rw [scan_cons, hstep, List.nil_append,
        ih (text ++ [c]) (fun d hd => h d (List.mem_cons_of_mem c hd)),
        List.append_assoc]
      rfl

theorem IsBare.scan {word : Word} (h : IsBare word) :
    Shell.scan .gap word = ([], .bare word) := by
  cases word with
  | nil => exact absurd rfl h.ne_nil
  | cons c rest =>
      have hcomment : c ≠ '#' := fun heq => h.no_comment (by rw [heq]; rfl)
      have hstep : stepReading .gap c = ([], .bare [c]) :=
        startToken_of_plain (h.plain c List.mem_cons_self) hcomment
      rw [scan_cons, hstep, List.nil_append,
        scan_bare [c] fun d hd => h.plain d (List.mem_cons_of_mem c hd)]
      rfl

/-!
# Commands
-/

structure Command where
  words : List Word
  output : Option Word
  input : Option (List Char)
deriving DecidableEq, Repr

structure CommandList where
  first : Command
  rest : List (Connective × Command)
deriving DecidableEq, Repr

def Command.alone (command : Command) : CommandList where
  first := command
  rest := []

def reservedWords : List String :=
  ["if", "then", "else", "elif", "fi", "do", "done", "case", "esac", "while", "until",
    "for", "in", "select", "function", "time", "coproc"]

def isCommandName (word : Word) : Bool :=
  !word.contains '=' && !(reservedWords.map String.toList).contains word

def readWords : List Token -> Option (List Word × Option Word)
  | [] => some ([], none)
  | [.redirect, .word path] => some ([], some path)
  | .word text :: rest =>
      (readWords rest).map fun (words, output) => (text :: words, output)
  | _ => none

def readCommand (tokens : List Token) : Option Command :=
  match readWords tokens with
  | some (name :: arguments, output) =>
      if isCommandName name then
        some { words := name :: arguments, output := output, input := none }
      else
        none
  | _ => none

def splitTokens : List Token -> List Token × List (Connective × List Token)
  | [] => ([], [])
  | .connective connective :: rest =>
      let (first, more) := splitTokens rest
      ([], (connective, first) :: more)
  | token :: rest =>
      let (first, more) := splitTokens rest
      (token :: first, more)

def readList (tokens : List Token) : Option CommandList := do
  let (first, rest) := splitTokens tokens
  let first <- readCommand first
  let rest <- rest.mapM fun (connective, tokens) =>
    (readCommand tokens).map fun command => (connective, command)
  some { first := first, rest := rest }

theorem readWords_words (words : List Word) :
    readWords (words.map Token.word) = some (words, none) := by
  induction words with
  | nil => rfl
  | cons word rest ih =>
      rw [List.map_cons, readWords, ih]
      rfl

theorem splitTokens_words (words : List Word) :
    splitTokens (words.map Token.word) = (words.map Token.word, []) := by
  induction words with
  | nil => rfl
  | cons word rest ih =>
      show ((Token.word word :: (splitTokens (rest.map Token.word)).1),
        (splitTokens (rest.map Token.word)).2) = _
      rw [ih]
      rfl

theorem readList_words {name : Word} {arguments : List Word}
    (hname : isCommandName name = true) :
    readList ((name :: arguments).map Token.word) =
      some { words := name :: arguments, output := none, input := none : Command }.alone := by
  have hcommand : readCommand ((name :: arguments).map Token.word) =
      some { words := name :: arguments, output := none, input := none } := by
    rw [readCommand, readWords_words]
    exact if_pos hname
  rw [readList, splitTokens_words]
  show (readCommand ((name :: arguments).map Token.word)).bind _ = _
  rw [hcommand]
  rfl

def readLine (line : List Char) : Option (Option CommandList) :=
  match tokens line with
  | none => none
  | some [] => some none
  | some tokens => (readList tokens).map some

def beforeDocument (opener : HereDocument.Line) : List Char :=
  match HereDocument.quotedDelimiter? opener with
  | none => opener
  | some delimiter => opener.take (opener.length - (delimiter.length + 4))

def readItem : HereDocument.Item -> Option (Option CommandList)
  | .command line => readLine line
  | .document opener body =>
      match readLine (beforeDocument opener) with
      | some (some { first := command, rest := [] }) =>
          some (some { command with input := some (Text.unlines body) }.alone)
      | _ => none

def readItems (items : List HereDocument.Item) : Option (List CommandList) :=
  (items.mapM readItem).map List.reduceOption

def readScript (script : List Char) : Option (List CommandList) :=
  readItems (HereDocument.read (script.splitOn '\n'))

theorem readItems_append {front back : List HereDocument.Item}
    {first rest : List CommandList} (hfront : readItems front = some first)
    (hback : readItems back = some rest) :
    readItems (front ++ back) = some (first ++ rest) := by
  rw [readItems, Option.map_eq_some_iff] at hfront hback
  rcases hfront with ⟨before, hbefore, rfl⟩
  rcases hback with ⟨after, hafter, rfl⟩
  rw [readItems, List.mapM_append, hbefore, hafter]
  show some (List.reduceOption (before ++ after)) = _
  rw [List.reduceOption_append]

theorem readItems_cons {item : HereDocument.Item} {items : List HereDocument.Item}
    {read : Option CommandList} {rest : List CommandList} (hitem : readItem item = some read)
    (hitems : readItems items = some rest) :
    readItems (item :: items) = some (read.toList ++ rest) := by
  have hone : readItems [item] = some read.toList := by
    rw [readItems, List.mapM_cons, hitem]
    cases read with
    | none => rfl
    | some list => rfl
  exact readItems_append hone hitems

theorem readItems_lines {lines : List (List Char)} {read : List (Option CommandList)}
    (h : lines.map readLine = read.map some) :
    readItems (lines.map HereDocument.Item.command) = some read.reduceOption := by
  induction lines generalizing read with
  | nil =>
      rw [List.map_nil, eq_comm, List.map_eq_nil_iff] at h
      rw [h]
      rfl
  | cons line rest ih =>
      cases read with
      | nil => cases h
      | cons first read =>
          rw [List.map_cons, List.map_cons, List.cons.injEq] at h
          have hline : readItem (.command line) = some first := h.1
          rw [List.map_cons, readItems_cons hline (ih h.2)]
          cases first with
          | none => rfl
          | some list => rfl

theorem readItems_commands {lines : List (List Char)} {lists : List CommandList}
    (h : lines.map readLine = lists.map fun list => some (some list)) :
    readItems (lines.map HereDocument.Item.command) = some lists := by
  have hread : lines.map readLine = (lists.map some).map some := by
    rw [h, List.map_map]
    rfl
  rw [readItems_lines hread, List.reduceOption, List.filterMap_map]
  exact congrArg some List.filterMap_some

end Shell

end Foundation

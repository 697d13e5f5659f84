import Mathlib.Logic.Function.Basic
import Ephemwork.Foundation.Bytes

/-!
# Replacing a file atomically

Files and the operations a program performs on them, one after the other, where
the last one may be cut short: a write may leave only the first bytes of its
contents, a rename happens or does not.  Writing a temporary file and renaming
it over the target then leaves the target as it was or with all of its new
contents.
-/

namespace Foundation

/-!
# Paths
-/

/-- A path to a file: the directory it is in and the name of the file. -/
structure Path where
  directory : List String
  fileName : String
deriving DecidableEq, Repr

namespace Path

/-- The name up to its last dot, unless that dot starts the name. -/
def fileStem (name : List Char) : List Char :=
  match Text.splitOnce '.' name.reverse with
  | none => name
  | some (_, []) => name
  | some (_, stem) => stem.reverse

def withExtension (path : Path) (extension : String) : Path where
  directory := path.directory
  fileName := String.ofList
    (fileStem path.fileName.toList ++ '.' :: extension.toList)

theorem fileStem_append {stem : List Char} (hstem : stem ≠ [])
    {extension : List Char} (hextension : '.' ∉ extension) :
    fileStem (stem ++ '.' :: extension) = stem := by
  have hreverse : (stem ++ '.' :: extension).reverse =
      extension.reverse ++ '.' :: stem.reverse := by simp
  have hnot : '.' ∉ extension.reverse := by simpa using hextension
  unfold fileStem
  rw [hreverse, Text.splitOnce_append hnot]
  cases hs : stem.reverse with
  | nil => exact absurd (List.reverse_eq_nil_iff.mp hs) hstem
  | cons c rest =>
      change (c :: rest).reverse = stem
      rw [← hs, List.reverse_reverse]

theorem withExtension_ne {path : Path} {extension : String}
    (h : '.' ∈ extension.toList) :
    path.withExtension extension ≠ path := by
  intro heq
  have hname : fileStem path.fileName.toList ++ '.' :: extension.toList =
      path.fileName.toList := by
    have hname := congrArg (fun p => p.fileName.toList) heq
    simpa [withExtension] using hname
  have hmem : '.' ∈ extension.toList.reverse := List.mem_reverse.mpr h
  rcases Text.exists_eq_append_of_mem hmem with ⟨last, first, hlast, hext⟩
  have hext' : extension.toList = first.reverse ++ '.' :: last.reverse := by
    have hreverse := congrArg List.reverse hext
    simpa using hreverse
  have hne : fileStem path.fileName.toList ++ '.' :: first.reverse ≠ [] := by
    simp
  have hlast' : '.' ∉ last.reverse := by simpa using hlast
  have hstem := fileStem_append hne hlast'
  rw [List.append_assoc, List.cons_append, ← hext', hname] at hstem
  have hlength := congrArg List.length hstem
  simp only [List.length_append, List.length_cons] at hlength
  omega

end Path

/-!
# Operations
-/

abbrev FileSystem (path : Type) : Type :=
  path -> Option Bytes

inductive FileOp (path : Type) where
  | write (file : path) (contents : Bytes)
  | rename (source target : path)
deriving DecidableEq, Repr

/-- Where a sequence of operations stopped: how many were completed, and how
many bytes the next one had written if it is a write that had begun. -/
structure Cut where
  completed : Nat
  torn : Option Nat
deriving DecidableEq, Repr

namespace FileOp

variable {path : Type} [DecidableEq path]

def exec (op : FileOp path) (files : FileSystem path) : FileSystem path :=
  match op with
  | write file contents => Function.update files file (some contents)
  | rename source target =>
      Function.update (Function.update files target (files source)) source none

/-- The effect of an operation that did not complete. -/
def tear (op : FileOp path) (torn : Option Nat) (files : FileSystem path) :
    FileSystem path :=
  match op, torn with
  | write file contents, some n =>
      Function.update files file (some (contents.take n))
  | _, _ => files

def execAll (ops : List (FileOp path)) (files : FileSystem path) :
    FileSystem path :=
  ops.foldl (fun files op => op.exec files) files

def execCut : List (FileOp path) -> Cut -> FileSystem path -> FileSystem path
  | [], _, files => files
  | op :: _, ⟨0, torn⟩, files => op.tear torn files
  | op :: rest, ⟨n + 1, torn⟩, files => execCut rest ⟨n, torn⟩ (op.exec files)

def perform (ops : List (FileOp path)) (failure : Option Cut)
    (files : FileSystem path) : FileSystem path :=
  match failure with
  | none => execAll ops files
  | some cut => execCut ops cut files

theorem execCut_append (first second : List (FileOp path)) (cut : Cut)
    (files : FileSystem path) :
    execCut (first ++ second) cut files =
      if cut.completed < first.length then
        execCut first cut files
      else
        execCut second ⟨cut.completed - first.length, cut.torn⟩
          (execAll first files) := by
  rcases cut with ⟨n, torn⟩
  induction first generalizing n files with
  | nil => simp [execAll]
  | cons op rest ih =>
      cases n with
      | zero => simp [execCut]
      | succ n =>
          rw [List.cons_append, execCut, ih]
          simp [execCut, execAll]

/-!
# Write, then rename
-/

def replace (temporary target : path) (contents : Bytes) :
    List (FileOp path) :=
  [.write temporary contents, .rename temporary target]

variable {temporary target other : path}

theorem execAll_replace_target (h : temporary ≠ target) (contents : Bytes)
    (files : FileSystem path) :
    execAll (replace temporary target contents) files target =
      some contents := by
  simp [execAll, replace, exec, h.symm]

theorem execAll_replace_of_ne (htemporary : other ≠ temporary)
    (htarget : other ≠ target) (contents : Bytes) (files : FileSystem path) :
    execAll (replace temporary target contents) files other = files other := by
  simp [execAll, replace, exec, htemporary, htarget]

/-- The target has its old contents until the rename, and all of the new ones
from then on. -/
theorem execCut_replace_target (h : temporary ≠ target) (contents : Bytes)
    (cut : Cut) (files : FileSystem path) :
    execCut (replace temporary target contents) cut files target =
      if cut.completed < 2 then files target else some contents := by
  rcases cut with ⟨n, torn⟩
  match n, torn with
  | 0, none => simp [execCut, replace, tear]
  | 0, some bytes => simp [execCut, replace, tear, h.symm]
  | 1, none => simp [execCut, replace, tear, exec, h.symm]
  | 1, some bytes => simp [execCut, replace, tear, exec, h.symm]
  | n + 2, torn =>
      have hlate : ¬ n + 2 < 2 := by omega
      rw [if_neg hlate]
      simp [execCut, replace, exec, h.symm]

theorem execCut_replace_of_ne (htemporary : other ≠ temporary)
    (htarget : other ≠ target) (contents : Bytes) (cut : Cut)
    (files : FileSystem path) :
    execCut (replace temporary target contents) cut files other =
      files other := by
  rcases cut with ⟨n, torn⟩
  match n, torn with
  | 0, none => simp [execCut, replace, tear]
  | 0, some bytes => simp [execCut, replace, tear, htemporary]
  | 1, none => simp [execCut, replace, tear, exec, htemporary]
  | 1, some bytes => simp [execCut, replace, tear, exec, htemporary]
  | n + 2, torn => simp [execCut, replace, exec, htemporary, htarget]

/-!
# Replacements that may fail
-/

/-- A replacement that failed after its rename, or not at all, took effect. -/
def replaced (failure : Option Cut) : Bool :=
  match failure with
  | none => true
  | some cut => decide (2 ≤ cut.completed)

theorem perform_replace_target (h : temporary ≠ target) (contents : Bytes)
    (failure : Option Cut) (files : FileSystem path) :
    perform (replace temporary target contents) failure files target =
      if replaced failure then some contents else files target := by
  cases failure with
  | none => exact execAll_replace_target h contents files
  | some cut =>
      rw [perform, execCut_replace_target h]
      by_cases hcut : cut.completed < 2
      · simp [replaced, hcut, Nat.not_le.mpr hcut]
      · simp [replaced, hcut, Nat.not_lt.mp hcut]

theorem perform_replace_of_ne (htemporary : other ≠ temporary)
    (htarget : other ≠ target) (contents : Bytes) (failure : Option Cut)
    (files : FileSystem path) :
    perform (replace temporary target contents) failure files other =
      files other := by
  cases failure with
  | none => exact execAll_replace_of_ne htemporary htarget contents files
  | some cut => exact execCut_replace_of_ne htemporary htarget contents cut files

def untouched : Cut where
  completed := 0
  torn := none

@[simp] theorem execCut_untouched (ops : List (FileOp path))
    (files : FileSystem path) : execCut ops untouched files = files := by
  cases ops with
  | nil => rfl
  | cons op rest =>
      cases op with
      | write file contents => rfl
      | rename source target => rfl

end FileOp

end Foundation

/-
This file is a library about files that one process writes and others read, a part at a time. A name
leads to a file or to none; a file that is open keeps its contents when its name goes to another one.

A file is sealed once no writer has it open and the name it is written under leads elsewhere. What
is sealed never changes, so a reader that opened it gets all of it in any number of parts.
-/

import RcTaxi.Transition

namespace RcTaxi

/-- The files by number, and where the names lead. -/
structure FileSystem (Name Byte : Type) where
  names : Name → Option ℕ
  contents : ℕ → List Byte
  next : ℕ

namespace FileSystem

variable {Name Byte : Type} [DecidableEq Name]

/-- No names. -/
def empty : FileSystem Name Byte := ⟨fun _ => none, fun _ => [], 0⟩

/-- Open for writing: the file under the name is emptied, or there is a new one. -/
def openWrite (name : Name) (files : FileSystem Name Byte) : ℕ × FileSystem Name Byte :=
  match files.names name with
  | some file => (file, { files with contents := Function.update files.contents file [] })
  | none => (files.next,
    { names := Function.update files.names name (some files.next)
      contents := Function.update files.contents files.next []
      next := files.next + 1 })

/-- Write behind what is there. -/
def append (file : ℕ) (bytes : List Byte) (files : FileSystem Name Byte) : FileSystem Name Byte :=
  { files with contents := Function.update files.contents file (files.contents file ++ bytes) }

/-- The file under one name goes to another name. -/
def replace (source target : Name) (files : FileSystem Name Byte) : FileSystem Name Byte :=
  { files with
    names := Function.update (Function.update files.names target (files.names source)) source none }

/-! ### What is written -/

/-- Every name leads to a file that is there. -/
def Proper (files : FileSystem Name Byte) : Prop :=
  ∀ name file, files.names name = some file → file < files.next

/-- The file opened for writing: it is empty, it is under the name, and no other name and no other
file has changed. -/
structure Opened (name : Name) (before : FileSystem Name Byte) (file : ℕ)
    (after : FileSystem Name Byte) : Prop where
  names : after.names = Function.update before.names name (some file)
  empty : after.contents file = []
  others : ∀ other, other ≠ file → after.contents other = before.contents other
  next : before.next ≤ after.next ∧ file < after.next
  fresh : before.names name = some file ∨ file = before.next

theorem opened_openWrite {files : FileSystem Name Byte} (proper : files.Proper) (name : Name) :
    Opened name files (files.openWrite name).1 (files.openWrite name).2 := by
  unfold openWrite
  split
  next file found =>
    exact
      { names := by
          dsimp only
          rw [← found, Function.update_eq_self]
        empty := Function.update_self ..
        others := fun other different => Function.update_of_ne different ..
        next := ⟨Nat.le_refl _, proper name file found⟩
        fresh := .inl found }
  next =>
    exact
      { names := rfl
        empty := Function.update_self ..
        others := fun other different => Function.update_of_ne different ..
        next := ⟨Nat.le_succ _, Nat.lt_succ_self _⟩
        fresh := .inr rfl }

theorem Opened.proper {name : Name} {before after : FileSystem Name Byte} {file : ℕ}
    (opened : Opened name before file after) (proper : before.Proper) : after.Proper := by
  intro other found leads
  rw [opened.names, Function.update_apply] at leads
  split at leads
  · cases leads
    exact opened.next.2
  · exact Nat.lt_of_lt_of_le (proper other found leads) opened.next.1

theorem proper_replace {files : FileSystem Name Byte} (proper : files.Proper)
    (source target : Name) : (files.replace source target).Proper := by
  intro other found leads
  rw [replace] at leads
  dsimp only at leads
  rw [Function.update_apply] at leads
  split at leads
  · cases leads
  · rw [Function.update_apply] at leads
    split at leads
    · exact proper source found leads
    · exact proper other found leads

/-! ### Sealed files -/

/-- The file is there, the writer does not have it open, and the name it writes under leads
elsewhere. -/
structure Sealed (name : Name) (writing : Option ℕ) (files : FileSystem Name Byte) (file : ℕ) :
    Prop where
  there : file < files.next
  closed : writing ≠ some file
  elsewhere : files.names name ≠ some file

namespace Sealed

variable {name : Name} {writing : Option ℕ} {files : FileSystem Name Byte} {file : ℕ}

/-- Opening another file for writing leaves a sealed file sealed, and as it is. -/
theorem openWrite (isSealed : Sealed name writing files file) (proper : files.Proper) :
    Sealed name (some (files.openWrite name).1) (files.openWrite name).2 file ∧
      (files.openWrite name).2.contents file = files.contents file := by
  have opened := opened_openWrite proper name
  have different : file ≠ (files.openWrite name).1 := by
    intro same
    rcases opened.fresh with found | new
    · exact isSealed.elsewhere (same ▸ found)
    · exact Nat.lt_irrefl _ ((same.trans new) ▸ isSealed.there)
  refine ⟨⟨Nat.lt_of_lt_of_le isSealed.there opened.next.1, ?_, ?_⟩, opened.others _ different⟩
  · exact fun same => different (Option.some.inj same).symm
  · rw [opened.names, Function.update_self]
    exact fun same => different (Option.some.inj same).symm

omit [DecidableEq Name] in
/-- Writing to the open file leaves a sealed file as it is. -/
theorem append {bytes : List Byte} {target : ℕ} (isSealed : Sealed name (some target) files file) :
    Sealed name (some target) (files.append target bytes) file ∧
      (files.append target bytes).contents file = files.contents file := by
  refine ⟨⟨isSealed.there, isSealed.closed, isSealed.elsewhere⟩, ?_⟩
  exact Function.update_of_ne (fun same => isSealed.closed (congrArg some same.symm)) ..

omit [DecidableEq Name] in
/-- A sealed file stays sealed when the writer closes its own. -/
theorem close (isSealed : Sealed name writing files file) : Sealed name none files file :=
  ⟨isSealed.there, nofun, isSealed.elsewhere⟩

end Sealed

/-- Behind a move away from the name of the writer every file is sealed. -/
theorem sealed_replace {name target : Name} {files : FileSystem Name Byte} {file : ℕ}
    (there : file < files.next) : Sealed name none (files.replace name target) file := by
  refine ⟨there, nofun, ?_⟩
  rw [replace]
  dsimp only
  rw [Function.update_self]
  exact nofun

end FileSystem

end RcTaxi

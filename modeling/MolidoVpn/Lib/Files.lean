import Mathlib.Data.List.AList
import MolidoVpn.Lib.Table

/-!
A file system as names for files, with what its system calls do to the names and to
the bytes. An open file stays what it is when its name goes elsewhere.
-/

namespace MolidoVpn.Files

universe u

structure File where
  data : List UInt8
  mode : Nat
  deriving DecidableEq

/-- Every name stands for one of the files, which are never given up. -/
structure FileSystem (Path : Type u) [DecidableEq Path] where
  names : AList (fun _ : Path => Nat)
  files : List File
  linked : ∀ path inode, names.lookup path = some inode → inode < files.length

variable {Path : Type u} [DecidableEq Path]

/-- Bytes at an offset; a gap before them is filled with zeros. -/
def splice (data : List UInt8) (offset : Nat) (bytes : List UInt8) : List UInt8 :=
  data.take offset ++ List.replicate (offset - data.length) 0 ++ bytes ++
    data.drop (offset + bytes.length)

theorem splice_end (data bytes : List UInt8) :
    splice data data.length bytes = data ++ bytes := by
  rw [splice, List.take_length, Nat.sub_self, List.replicate_zero, List.append_nil,
    List.drop_eq_nil_of_le (Nat.le_add_right _ _), List.append_nil]

namespace FileSystem

/-- The bytes of a file. -/
def data (system : FileSystem Path) (inode : Nat) : Option (List UInt8) :=
  system.files[inode]?.map File.data

/-- What a reader of the name sees. -/
def read (system : FileSystem Path) (path : Path) : Option (List UInt8) :=
  (system.names.lookup path).bind system.data

/-- Change one file. -/
def update (system : FileSystem Path) (inode : Nat) (change : File → File) : FileSystem Path :=
  { names := system.names
    files := system.files.modify inode change
    linked := by
      intro path other found
      rw [List.length_modify]
      exact system.linked path other found }

/-- A new file under a name. -/
def create (system : FileSystem Path) (path : Path) (mode : Nat) : FileSystem Path :=
  { names := system.names.insert path system.files.length
    files := system.files ++ [⟨[], mode⟩]
    linked := by
      intro other inode found
      rw [List.length_append, List.length_singleton]
      rw [Table.lookup_insert] at found
      split at found
      · cases found
        omega
      · have old := system.linked other inode found
        omega }

/-- `open` with the flags to write, create and truncate. -/
def openTruncate (system : FileSystem Path) (path : Path) (mode : Nat) : FileSystem Path × Nat :=
  match system.names.lookup path with
  | some inode => (system.update inode fun file => { file with data := [] }, inode)
  | none => (system.create path mode, system.files.length)

def writeAt (system : FileSystem Path) (inode offset : Nat) (bytes : List UInt8) :
    FileSystem Path :=
  system.update inode fun file => { file with data := splice file.data offset bytes }

def setPermissions (system : FileSystem Path) (path : Path) (mode : Nat) :
    Option (FileSystem Path) :=
  (system.names.lookup path).map fun inode => system.update inode fun file => { file with mode := mode }

/-- Two names of one file are left alone. -/
def rename (system : FileSystem Path) (source target : Path) : Option (FileSystem Path) :=
  match held : system.names.lookup source with
  | none => none
  | some inode =>
      if system.names.lookup target = some inode then some system
      else
        some
          { names := (system.names.erase source).insert target inode
            files := system.files
            linked := by
              intro path other found
              rw [Table.lookup_insert] at found
              split at found
              · cases found
                exact system.linked source inode held
              · rw [Table.lookup_erase] at found
                split at found
                · cases found
                · exact system.linked path other found }

def remove (system : FileSystem Path) (path : Path) : FileSystem Path :=
  { names := system.names.erase path
    files := system.files
    linked := by
      intro other inode found
      rw [Table.lookup_erase] at found
      split at found
      · cases found
      · exact system.linked other inode found }

variable {system : FileSystem Path}

theorem data_update (inode other : Nat) (change : File → File) :
    (system.update inode change).data other =
      if inode = other then (system.files[other]?.map change).map File.data
      else system.data other := by
  rw [data, update, List.getElem?_modify]
  by_cases same : inode = other
  · simp only [same, if_true, Option.map_eq_map]
  · simp only [same, if_false, Option.map_eq_map, data, Option.map_id']

theorem data_update_ne {inode other : Nat} (different : inode ≠ other) (change : File → File) :
    (system.update inode change).data other = system.data other := by
  rw [data_update, if_neg different]

theorem lt_of_data {inode : Nat} {bytes : List UInt8} (held : system.data inode = some bytes) :
    inode < system.files.length := by
  obtain ⟨file, found, _⟩ := Option.map_eq_some_iff.mp held
  exact (List.getElem?_eq_some_iff.mp found).1

theorem data_writeAt {inode : Nat} {before : List UInt8} (held : system.data inode = some before)
    (offset : Nat) (bytes : List UInt8) :
    (system.writeAt inode offset bytes).data inode = some (splice before offset bytes) := by
  obtain ⟨file, found, rfl⟩ := Option.map_eq_some_iff.mp held
  rw [writeAt, data_update, if_pos rfl, found]
  rfl

theorem data_writeAt_ne {inode other : Nat} (different : inode ≠ other) (offset : Nat)
    (bytes : List UInt8) :
    (system.writeAt inode offset bytes).data other = system.data other :=
  data_update_ne different _

theorem data_create (path : Path) (mode other : Nat) :
    (system.create path mode).data other =
      if other = system.files.length then some [] else system.data other := by
  rw [data, create, List.getElem?_append]
  split
  · rename_i within
    rw [if_neg (Nat.ne_of_lt within), data]
  · rename_i outside
    by_cases last : other = system.files.length
    · subst last
      rw [if_pos rfl, Nat.sub_self]
      rfl
    · rw [if_neg last, data, List.getElem?_eq_none (by rw [List.length_singleton]; omega),
        List.getElem?_eq_none (by omega)]

/-- What opening gives: an empty file under the name, and no other file or name has changed. -/
structure Opened (system : FileSystem Path) (path : Path) (after : FileSystem Path) (inode : Nat) :
    Prop where
  empty : after.data inode = some []
  others : ∀ other, other ≠ inode → after.data other = system.data other
  named : after.names.lookup path = some inode
  frame : ∀ other, other ≠ path → after.names.lookup other = system.names.lookup other
  source : system.names.lookup path = some inode ∨ system.files.length ≤ inode

theorem openTruncate_opened (system : FileSystem Path) (path : Path) (mode : Nat) :
    Opened system path (system.openTruncate path mode).1 (system.openTruncate path mode).2 := by
  unfold openTruncate
  cases held : system.names.lookup path with
  | some inode =>
      have within := system.linked path inode held
      refine ⟨?_, ?_, held, fun _ _ => rfl, Or.inl held⟩
      · rw [data_update, if_pos rfl, List.getElem?_eq_getElem within]
        rfl
      · intro other different
        exact data_update_ne (Ne.symm different) _
  | none =>
      refine ⟨?_, ?_, ?_, ?_, Or.inr (Nat.le_refl _)⟩
      · rw [data_create, if_pos rfl]
      · intro other different
        rw [data_create, if_neg different]
      · rw [create, Table.lookup_insert, if_pos rfl]
      · intro other different
        rw [create, Table.lookup_insert, if_neg different]

theorem data_setPermissions {path : Path} {mode : Nat} {after : FileSystem Path}
    (done : system.setPermissions path mode = some after) (inode : Nat) :
    after.data inode = system.data inode := by
  obtain ⟨held, _, rfl⟩ := Option.map_eq_some_iff.mp done
  rw [data_update]
  by_cases same : held = inode
  · rw [if_pos same, Option.map_map, data]
    rfl
  · rw [if_neg same]

theorem names_setPermissions {path : Path} {mode : Nat} {after : FileSystem Path}
    (done : system.setPermissions path mode = some after) : after.names = system.names := by
  obtain ⟨held, _, rfl⟩ := Option.map_eq_some_iff.mp done
  rfl

/-- What renaming gives: the file under its new name only, and every file as it was. -/
structure Renamed (system : FileSystem Path) (source target : Path) (after : FileSystem Path)
    (inode : Nat) : Prop where
  held : system.names.lookup source = some inode
  files : after.files = system.files
  named : after.names.lookup target = some inode
  gone : source ≠ target → system.names.lookup target ≠ some inode →
    after.names.lookup source = none
  frame : ∀ other, other ≠ source → other ≠ target →
    after.names.lookup other = system.names.lookup other

theorem rename_renamed {source target : Path} {after : FileSystem Path}
    (done : system.rename source target = some after) :
    ∃ inode, Renamed system source target after inode := by
  unfold rename at done
  split at done
  · cases done
  · rename_i inode held
    refine ⟨inode, ?_⟩
    split at done
    · rename_i linked
      cases done
      exact ⟨held, rfl, linked, fun _ other => absurd linked other, fun _ _ _ => rfl⟩
    · cases done
      refine ⟨held, rfl, ?_, ?_, ?_⟩
      · rw [Table.lookup_insert, if_pos rfl]
      · intro different _
        rw [Table.lookup_insert, if_neg different, Table.lookup_erase, if_pos rfl]
      · intro other notSource notTarget
        rw [Table.lookup_insert, if_neg notTarget, Table.lookup_erase, if_neg notSource]

theorem lookup_remove (path other : Path) :
    (system.remove path).names.lookup other =
      if other = path then none else system.names.lookup other :=
  Table.lookup_erase system.names other path

end FileSystem

end MolidoVpn.Files

import VehicleShow.Fault

/-! # Files

Files are read and written by path.  Where a path leads, and whether the file there can be read or
written, is up to the file system; what the program relies on is `LawfulFileSystem`.  The files of a
single directory are one such system. -/
set_option autoImplicit false
namespace VehicleShow.Console

abbrev FileReader : Type := String → Except FileFault (List UInt8)

class FileSystem (σ : Type) where
  read : σ → FileReader
  write : σ → String → List UInt8 → Except FileFault Unit × σ
  /-- Two paths lead to one file. -/
  SameFile : σ → String → String → Prop

/-- A write succeeds wholly or fails without effect, and it may fail on any path.  Where it succeeds,
it changes the file that the path leads to and no other.  The empty path leads to no file. -/
class LawfulFileSystem (σ : Type) [FileSystem σ] : Prop where
  write_refused {files : σ} {path : String} {bytes : List UInt8} {fault : FileFault} :
    (FileSystem.write files path bytes).1 = .error fault →
      (FileSystem.write files path bytes).2 = files
  read_written {files : σ} {path : String} {bytes : List UInt8} :
    (FileSystem.write files path bytes).1 = .ok () →
      FileSystem.read (FileSystem.write files path bytes).2 path = .ok bytes
  read_other {files : σ} {path other : String} {bytes : List UInt8} :
    ¬ FileSystem.SameFile files path other →
      FileSystem.read (FileSystem.write files path bytes).2 other = FileSystem.read files other
  read_empty {files : σ} {bytes : List UInt8} : FileSystem.read files "" ≠ .ok bytes

/-! ## The files of one directory -/

/-- Files by name, in a directory without others in it or above it. -/
structure Directory where
  files : List (String × List UInt8)

namespace Directory

def maxNameLength : Nat := 255

def maxPathLength : Nat := 4095

def pieces (path : String) : List String :=
  (path.toList.foldr (fun c found =>
    if c = '/' then [] :: found else (c :: found.headD []) :: found.tail) [[]]).map String.ofList

def isTooLong (path : String) : Bool :=
  decide (maxPathLength < path.utf8ByteSize)
    || (pieces path).any fun name => decide (maxNameLength < name.utf8ByteSize)

/-- Steps of a path, without the empty ones and those that stay in place. -/
def steps (path : String) : List String :=
  (pieces path).filter fun step => step != "" && step != "."

def leadsElsewhere (path : String) : Bool :=
  match path.toList, path.toList.reverse with
  | '/' :: _, _ => true
  | _, '/' :: _ => true
  | _, '.' :: '/' :: _ => true
  | _, _ => false

/-- The name of the file that a path leads to, if it stays in the directory. -/
def fileName? (path : String) : Option String :=
  match steps path with
  | [name] =>
      if leadsElsewhere path || name == ".." || name.toList.contains '\x00' || isTooLong path then
        none
      else some name
  | _ => none

def content? (directory : Directory) (name : String) : Option (List UInt8) :=
  directory.files.lookup name

def insert (directory : Directory) (name : String) (bytes : List UInt8) : Directory where
  files := (name, bytes) :: directory.files.filter fun file => file.1 != name

/-- A directory of the given files. Of two files with one name the later stays. -/
def ofFiles (files : List (String × List UInt8)) : Directory :=
  files.foldl (fun directory file => directory.insert file.1 file.2) ⟨[]⟩

def pathFault (path : String) : FileFault :=
  if isTooLong path then .nameTooLong
  else if path != "" && (steps path).isEmpty then .isDirectory
  else .notFound

def read (directory : Directory) (path : String) : Except FileFault (List UInt8) :=
  match fileName? path with
  | some name => (directory.content? name).elim (.error .notFound) .ok
  | none => .error (pathFault path)

def write (directory : Directory) (path : String) (bytes : List UInt8) :
    Except FileFault Unit × Directory :=
  match fileName? path with
  | some name => (.ok (), directory.insert name bytes)
  | none => (.error (pathFault path), directory)

instance : FileSystem Directory where
  read := read
  write := write
  SameFile _ path other := fileName? path = fileName? other

theorem lookup_filter_ne {name other : String} (different : other ≠ name)
    (files : List (String × List UInt8)) :
    (files.filter fun file => file.1 != name).lookup other = files.lookup other := by
  induction files with
  | nil => rfl
  | cons file rest ih =>
      obtain ⟨own, bytes⟩ := file
      by_cases replaced : own = name
      · have elsewhere : (other == own) = false := by simp [replaced, different]
        rw [List.filter_cons_of_neg (by simp [replaced]), ih, List.lookup_cons, elsewhere]
      · rw [List.filter_cons_of_pos (by simp [replaced]), List.lookup_cons, List.lookup_cons, ih]

/-- Insertion changes the content under one name. -/
theorem content?_insert (directory : Directory) (name other : String) (bytes : List UInt8) :
    (directory.insert name bytes).content? other =
      if other = name then some bytes else directory.content? other := by
  rw [content?, insert]
  by_cases same : other = name
  · rw [if_pos same, same, List.lookup_cons_self]
  · have elsewhere : (other == name) = false := by simp [same]
    rw [if_neg same, List.lookup_cons, elsewhere]
    exact lookup_filter_ne same directory.files

theorem fileName?_empty : fileName? "" = none := by decide

instance : LawfulFileSystem Directory where
  write_refused {directory path bytes fault} refused := by
    change (directory.write path bytes).1 = _ at refused
    change (directory.write path bytes).2 = _
    rw [write] at refused ⊢
    cases leads : fileName? path with
    | none => rfl
    | some name => simp [leads] at refused
  read_written {directory path bytes} written := by
    change (directory.write path bytes).1 = _ at written
    change (directory.write path bytes).2.read path = _
    rw [write] at written ⊢
    cases leads : fileName? path with
    | none => simp [leads] at written
    | some name => simp [read, leads, content?_insert]
  read_other {directory path other bytes} apart := by
    change ¬ fileName? path = fileName? other at apart
    change (directory.write path bytes).2.read other = directory.read other
    rw [write]
    cases leads : fileName? path with
    | none => rfl
    | some name =>
        rw [leads] at apart
        cases leadsOther : fileName? other with
        | none => simp [read, leadsOther]
        | some own =>
            have different : own ≠ name := fun same => apart (by rw [leadsOther, same])
            simp [read, leadsOther, content?_insert, different]
  read_empty {directory bytes} := by
    change directory.read "" ≠ _
    rw [read, fileName?_empty]
    simp

end Directory

def textOfBytes (bytes : List UInt8) : Except FileFault String :=
  match String.fromUTF8? ⟨bytes.toArray⟩ with
  | some text => .ok text
  | none => .error .notText

end VehicleShow.Console

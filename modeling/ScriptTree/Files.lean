import ScriptTree.Dictionary
import ScriptTree.Path

/-!
# Files

The operations on files that a command needs are those of a monad, `MonadFiles`. A file system that
is a value is one instance, a directory with nothing around it another, and the real one a third.
-/

namespace ScriptTree
set_option autoImplicit false

/-- Why a file cannot be read or written. -/
inductive FileFault where
  | notFound
  | isDirectory
  | notDirectory
  | nameTooLong
  | nulInName
  | notText
  | other (message : String)
deriving DecidableEq, Repr

/-- The wording of a fault. -/
def FileFault.message : FileFault → String
  | .notFound => "No such file or directory (os error 2)"
  | .isDirectory => "Is a directory (os error 21)"
  | .notDirectory => "Not a directory (os error 20)"
  | .nameTooLong => "File name too long (os error 36)"
  | .nulInName => "file name contained an unexpected NUL byte"
  | .notText => "stream did not contain valid UTF-8"
  | .other message => message

/-- Reading and writing of files. -/
class MonadFiles (m : Type → Type) where
  /-- The bytes of a file. -/
  read : String → m (Except FileFault ByteArray)
  /-- Puts bytes into a file, which is made if there is none. -/
  write : String → ByteArray → m (Except FileFault Unit)

/-- The operations on a state, by what is read in it and what writing makes of it. A write that
fails leaves the state as it is. -/
abbrev MonadFiles.ofState {σ : Type} (read : σ → String → Except FileFault ByteArray)
    (write : σ → String → ByteArray → Except FileFault σ) : MonadFiles (StateM σ) where
  read path := return read (← get) path
  write path bytes := do
    match write (← get) path bytes with
    | .ok s => set s; return .ok ()
    | .error f => return .error f

/-- The text of bytes. -/
def textOfBytes (bytes : ByteArray) : Except FileFault String :=
  match String.fromUTF8? bytes with
  | some text => .ok text
  | none => .error .notText

/-! ## File systems as values -/

/-- The most bytes that a name may have. -/
def nameLimit : Nat := 255

/-- The most bytes that the text of a path may have. -/
def pathLimit : Nat := 4095

/-- The path with a text, if the text can be one. -/
def Path.check (text : String) : Except FileFault Path :=
  if text.toList.contains '\x00' then .error .nulInName
  else if pathLimit < text.utf8ByteSize then .error .nameTooLong
  else .ok (.ofText text)

/-- A place in a file system: the names that lead to it from the root, the last one first. -/
abbrev Place : Type := List String

/-- What can stand at a place. -/
inductive Item where
  | folder
  | file (bytes : ByteArray)

/-- What stands at the places of a file system, and the folder where the program works. Whatever
stands at a place, the system may refuse to read it or to write there, for want of a right or by any
other fault. -/
structure FileSystem where
  current : Place
  item? : Place → Option Item
  readFault? : Place → Option FileFault
  writeFault? : Place → Option FileFault

/-- What a path leads to: a folder, or what has a name in a folder, with a slash after it or not. -/
inductive Target where
  | folder
  | entry (folder : Place) (name : String) (slashed : Bool)
deriving DecidableEq, Repr

namespace FileSystem

/-- The folder that a part leads to. -/
def enter (fs : FileSystem) (folder : Place) : PathPart → Except FileFault Place
  | .stay => .ok folder
  | .up => .ok folder.tail
  | .name n =>
    if nameLimit < n.utf8ByteSize then .error .nameTooLong
    else
      match fs.item? (n :: folder) with
      | some .folder => .ok (n :: folder)
      | some (.file _) => .error .notDirectory
      | none => .error .notFound

/-- What the parts of a path lead to. A name that comes last is not looked up. -/
def follow (fs : FileSystem) (slashed : Bool) (folder : Place) :
    List PathPart → Except FileFault Target
  | [] => .ok .folder
  | [.name n] => .ok (.entry folder n slashed)
  | part :: rest => do fs.follow slashed (← fs.enter folder part) rest

/-- What a path leads to. -/
def locate (fs : FileSystem) (path : String) : Except FileFault Target := do
  let p ← Path.check path
  fs.follow p.slashed (if p.fromRoot then [] else fs.current) p.parts

/-- The bytes of what a path leads to; with a slash after its name it has to be a folder. -/
def readTarget (fs : FileSystem) : Target → Except FileFault ByteArray
  | .folder => .error .isDirectory
  | .entry folder n slashed =>
    if nameLimit < n.utf8ByteSize then .error .nameTooLong
    else
      match fs.item? (n :: folder) with
      | none => .error .notFound
      | some .folder => .error .isDirectory
      | some (.file bytes) =>
        if slashed then .error .notDirectory
        else (fs.readFault? (n :: folder)).elim (.ok bytes) .error

/-- The bytes of the file that a path leads to. -/
def read (fs : FileSystem) (path : String) : Except FileFault ByteArray := do
  fs.readTarget (← fs.locate path)

/-- The folder and the name under which a file can be written; with a slash after its name it can
only be a folder. -/
def writeTarget (fs : FileSystem) : Target → Except FileFault (Place × String)
  | .folder => .error .isDirectory
  | .entry folder n slashed =>
    if slashed then .error .isDirectory
    else if nameLimit < n.utf8ByteSize then .error .nameTooLong
    else
      match fs.item? (n :: folder) with
      | some .folder => .error .isDirectory
      | _ => (fs.writeFault? (n :: folder)).elim (.ok (folder, n)) .error

/-- The folder and the name of the file that can be written at a path. -/
def destination (fs : FileSystem) (path : String) : Except FileFault (Place × String) := do
  fs.writeTarget (← fs.locate path)

/-- The file system with a file at a place. -/
def put (fs : FileSystem) (place : Place) (bytes : ByteArray) : FileSystem :=
  { fs with item? := fun other => if other = place then some (.file bytes) else fs.item? other }

/-- The file system with bytes in the file that a path leads to. -/
def write (fs : FileSystem) (path : String) (bytes : ByteArray) : Except FileFault FileSystem := do
  let (folder, n) ← fs.destination path
  return fs.put (n :: folder) bytes

end FileSystem

instance : MonadFiles (StateM FileSystem) :=
  .ofState FileSystem.read FileSystem.write

/-! ## Directories as values -/

/-- The files of a directory by their names, with their bytes. -/
abbrev Directory : Type := Dictionary ByteArray

namespace Directory

/-- The place of a directory, under a name that is in no path. -/
def home : Place := [""]

/-- A directory alone below the root, where the program works. -/
def system (d : Directory) : FileSystem where
  current := home
  item? place :=
    if place.tail = home then (place.head?.bind d.get?).map .file
    else if place = home ∨ place = [] then some .folder
    else none
  readFault? _ := none
  writeFault? place := if place.tail = home then none else some .notFound

/-- The bytes of the file that a path leads to. -/
def read (d : Directory) (path : String) : Except FileFault ByteArray :=
  d.system.read path

/-- The directory with bytes in the file that a path leads to. Nothing can be written outside of
it. -/
def write (d : Directory) (path : String) (bytes : ByteArray) : Except FileFault Directory := do
  let (_, n) ← d.system.destination path
  return d.insert n bytes

end Directory

instance : MonadFiles (StateM Directory) :=
  .ofState Directory.read Directory.write

end ScriptTree

import ClientForge.Disk.IoError
import ClientForge.Disk.Path
import ClientForge.Table

/-!
A file tree and the operations on it, with the errors of a POSIX file system. Links and permissions
do not occur. What is written to a file that could be opened may still be taken in part only.
-/

namespace ClientForge

namespace Disk

/-- Where an entry is: the names from the root. -/
abbrev Place := List String

inductive Entry where
  | file (content : ByteArray)
  | directory

end Disk

/-- The entries below the root, each after the directory it lies in, and the directory that relative
paths start from. -/
structure Disk where
  entries : List (Disk.Place × Disk.Entry)
  working : Disk.Place

namespace Disk

/-- Nothing but the working directory. -/
def fresh : Disk := ⟨[(["work"], .directory)], ["work"]⟩

def entry? (disk : Disk) (place : Place) : Option Entry :=
  if place = [] then some .directory else disk.entries.lookup place

def put (disk : Disk) (place : Place) (entry : Entry) : Disk :=
  { disk with entries := Table.insert place entry disk.entries }

def file? (disk : Disk) (place : Place) : Option ByteArray :=
  match disk.entry? place with
  | some (.file content) => some content
  | _ => none

def maxNameBytes : Nat := 255

def maxPathBytes : Nat := 4095

/-- One step down a path. -/
def step (disk : Disk) (place : Place) (name : String) : Except IoError Place :=
  if name = "." then .ok place
  else if name = ".." then .ok place.dropLast
  else if maxNameBytes < name.utf8ByteSize then .error .nameTooLong
  else if (disk.entry? (place ++ [name])).isSome then .ok (place ++ [name])
  else .error .notFound

/-- Follows names; every place on the way but the last must be a directory. -/
def walk (disk : Disk) (place : Place) : List String → Except IoError Place
  | [] => .ok place
  | name :: rest =>
    match disk.entry? place with
    | some .directory =>
      match disk.step place name with
      | .ok next => walk disk next rest
      | .error e => .error e
    | _ => .error .notADirectory

def start (disk : Disk) (path : String) : Place :=
  if Path.isAbsolute path then [] else disk.working

/-- A path that cannot name anything. -/
def unusable? (path : String) : Option IoError :=
  if path.toList.contains '\x00' then some .nulInName
  else if path.isEmpty then some .notFound
  else if maxPathBytes < path.utf8ByteSize then some .nameTooLong
  else none

/-- The place a path leads to. A path that ends in a slash leads to a directory only. -/
def resolve (disk : Disk) (path : String) : Except IoError Place :=
  match unusable? path with
  | some e => .error e
  | none =>
    match disk.walk (disk.start path) (Path.names path) with
    | .error e => .error e
    | .ok place =>
      match disk.entry? place with
      | some .directory => .ok place
      | some (.file _) => if path.endsWith "/" then .error .notADirectory else .ok place
      | none => .error .notFound

def isDirectory (disk : Disk) (path : String) : Bool :=
  match disk.resolve path with
  | .ok place => match disk.entry? place with
    | some .directory => true
    | _ => false
  | .error _ => false

/-! ## Reading -/

def read (disk : Disk) (path : String) : Except IoError ByteArray :=
  match disk.resolve path with
  | .error e => .error e
  | .ok place =>
    match disk.entry? place with
    | some (.file content) => .ok content
    | _ => .error .isADirectory

/-- The names directly inside a directory. -/
def list (disk : Disk) (path : String) : Except IoError (List String) :=
  match disk.resolve path with
  | .error e => .error e
  | .ok place =>
    match disk.entry? place with
    | some .directory => .ok <| disk.entries.filterMap fun (p, _) =>
        if p.dropLast = place ∧ p ≠ [] then p.getLast? else none
    | _ => .error .notADirectory

/-! ## Writing -/

/-- The place that the last name of a path stands for, in a directory that exists. -/
def slot (disk : Disk) (path : String) : Except IoError (Place × Option String) :=
  match unusable? path with
  | some e => .error e
  | none =>
    match disk.walk (disk.start path) (Path.names path).dropLast with
    | .error e => .error e
    | .ok place =>
      match disk.entry? place with
      | some .directory => .ok (place, (Path.names path).getLast?)
      | _ => .error .notADirectory

/-- Makes one directory, whose parent must exist. -/
def makeDirectory (disk : Disk) (path : String) : Except IoError Disk :=
  match disk.slot path with
  | .error e => .error e
  | .ok (_, none) => .error .exists
  | .ok (place, some name) =>
    if name = "." ∨ name = ".." then .error .exists
    else if maxNameBytes < name.utf8ByteSize then .error .nameTooLong
    else if (disk.entry? (place ++ [name])).isSome then .error .exists
    else .ok (disk.put (place ++ [name]) .directory)

/-- Makes a directory and its parents. What was made before a failure stays. -/
def makeDirectories : Nat → Disk → String → Disk × Except IoError Unit
  | 0, disk, _ => (disk, .ok ())
  | fuel + 1, disk, path =>
    if path.isEmpty then (disk, .ok ())
    else
      match disk.makeDirectory path with
      | .ok disk => (disk, .ok ())
      | .error .notFound =>
        match Path.parent? path with
        | none => (disk, .error .notFound)
        | some parent =>
          match makeDirectories fuel disk parent with
          | (disk, .error e) => (disk, .error e)
          | (disk, .ok ()) =>
            match disk.makeDirectory path with
            | .ok disk => (disk, .ok ())
            | .error e => (disk, if disk.isDirectory path then .ok () else .error e)
      | .error e => (disk, if disk.isDirectory path then .ok () else .error e)

/-- Makes a directory and whatever is missing above it. -/
def ensureDirectory (disk : Disk) (path : String) : Disk × Except IoError Unit :=
  makeDirectories (path.length + 1) disk path

/-- How a file that is there already is written. -/
inductive Mode where
  | replace
  | append
deriving DecidableEq, Repr

/-- What opening a file leaves in it. -/
def Mode.kept (mode : Mode) (old : ByteArray) : ByteArray :=
  match mode with
  | .replace => .empty
  | .append => old

/-- A transfer that breaks off: how many bytes are taken before it does, and why it does. -/
structure Fault where
  taken : Nat
  cause : IoError
deriving DecidableEq, Repr

/-- What keeps an open file from taking all of a text, place by place. A full or broken device shows
when a file is written to, and so only after opening it has made or emptied it. -/
abbrev Medium := Place → Option Fault

namespace Medium

/-- Takes everything. -/
def sound : Medium := fun _ => none

/-- What gets into the file of a text that is written to it. -/
def takes (medium : Medium) (place : Place) (text : String) : ByteArray :=
  match medium place with
  | none => text.toUTF8
  | some fault => text.toUTF8.extract 0 fault.taken

def outcome (medium : Medium) (place : Place) : Except IoError Unit :=
  match medium place with
  | none => .ok ()
  | some fault => .error fault.cause

end Medium

/-- Opens a file in a directory that exists. -/
def openIn (disk : Disk) (mode : Mode) (path : String) : Except IoError (Disk × Place) :=
  match disk.slot path with
  | .error e => .error e
  | .ok (_, none) => .error .isADirectory
  | .ok (parent, some name) =>
    let place := parent ++ [name]
    if name = "." ∨ name = ".." ∨ path.endsWith "/" then .error .isADirectory
    else if maxNameBytes < name.utf8ByteSize then .error .nameTooLong
    else
      match disk.entry? place with
      | some .directory => .error .isADirectory
      | some (.file old) => .ok (disk.put place (.file (mode.kept old)), place)
      | none => .ok (disk.put place (.file .empty), place)

/-- Makes the directories that a path lies in. -/
def makeParents (disk : Disk) (path : String) : Disk × Except IoError Unit :=
  match Path.parent? path with
  | some parent => disk.ensureDirectory parent
  | none => (disk, .ok ())

/-- Opens a file, making the directories it lies in. -/
def openFile (disk : Disk) (mode : Mode) (path : String) : Disk × Except IoError Place :=
  match disk.makeParents path with
  | (disk, .error e) => (disk, .error e)
  | (disk, .ok ()) =>
    match disk.openIn mode path with
    | .ok (disk, place) => (disk, .ok place)
    | .error e => (disk, .error e)

/-- Writes to the open file at a place, behind what it holds. -/
def transfer (disk : Disk) (medium : Medium) (place : Place) (text : String) :
    Disk × Except IoError Unit :=
  let held := (disk.file? place).getD .empty
  (disk.put place (.file (held ++ medium.takes place text)), medium.outcome place)

/-- Opens a file and writes to it. What has been done before a failure stays. -/
def write (disk : Disk) (medium : Medium) (mode : Mode) (path text : String) :
    Disk × Except IoError Unit :=
  match disk.openFile mode path with
  | (disk, .error e) => (disk, .error e)
  | (disk, .ok place) => disk.transfer medium place text

end Disk

/-- The text that bytes spell in UTF-8. -/
def Disk.decode (content : ByteArray) : Except Disk.IoError String :=
  match String.fromUTF8? content with
  | some text => .ok text
  | none => .error .notUtf8

/-- The text of a file. -/
def Disk.readText (disk : Disk) (path : String) : Except Disk.IoError String :=
  (disk.read path).bind Disk.decode

end ClientForge

import HostNet.OsError
import HostNet.Path
import HostNet.Text.Utf8

namespace HostNet

inductive Files.Entry where
  | directory
  | file (bytes : List UInt8)
deriving DecidableEq, Repr

-- A tree, as the entries at each list of names from the top. The top itself is a directory.
structure Files where
  entries : List (List String × Files.Entry)
deriving DecidableEq, Repr

namespace Files

inductive Error where
  | os (e : OsError)
  | nulInPath
  | notText
deriving DecidableEq, Repr

def Error.message : Error → String
  | .os e => e.message
  | .nulInPath => "file name contained an unexpected NUL byte"
  | .notText => "stream did not contain valid UTF-8"

def empty : Files := ⟨[]⟩

instance : Inhabited Files := ⟨empty⟩

def find? (files : Files) : List String → Option Entry
  | [] => some .directory
  | place => files.entries.lookup place

def put (files : Files) (place : List String) (entry : Entry) : Files :=
  if files.entries.any (·.1 == place) then
    ⟨files.entries.map fun e => if e.1 == place then (place,entry) else e⟩
  else ⟨files.entries ++ [(place,entry)]⟩

def drop (files : Files) (place : List String) : Files :=
  ⟨files.entries.filter fun e => e.1 != place⟩

def enter (files : Files) (place : List String) : Except Error Unit :=
  match files.find? place with
  | some .directory => .ok ()
  | some (.file _) => .error (.os .notDirectory)
  | none => .error (.os .noEntry)

-- Follows names from a place. Each place on the way must be a directory; the last one need not exist.
def walk (files : Files) (place : List String) : List String → Except Error (List String)
  | [] => .ok place
  | name :: rest => do
    files.enter place
    if name = "." then files.walk place rest
    else if name = ".." then files.walk place.dropLast rest
    else if 255 < name.utf8ByteSize then throw (.os .nameTooLong)
    else files.walk (place ++ [name]) rest

-- Whether a path leads to directories only, because it ends in a slash.
def wantsDirectory (path : String) : Bool :=
  path.toList.getLast? == some '/'

def checkPath (path : String) : Except Error Unit :=
  if path.toList.contains '\x00' then .error .nulInPath
  else if path.isEmpty then .error (.os .noEntry)
  else if 4095 < path.utf8ByteSize then .error (.os .nameTooLong)
  else .ok ()

def locate (files : Files) (path : String) : Except Error (List String) := do
  checkPath path
  files.walk [] (Path.names path)

def look (files : Files) (path : String) : Except Error Entry := do
  let place ← files.locate path
  match files.find? place with
  | none => throw (.os .noEntry)
  | some .directory => return .directory
  | some (.file bytes) =>
    if wantsDirectory path then throw (.os .notDirectory) else return .file bytes

def reaches (files : Files) (path : String) : Bool :=
  match files.look path with
  | .ok _ => true
  | .error _ => false

def isDirectory (files : Files) (path : String) : Bool :=
  match files.look path with
  | .ok .directory => true
  | _ => false

def readBytes (files : Files) (path : String) : Except Error (List UInt8) := do
  match ← files.look path with
  | .directory => throw (.os .isDirectory)
  | .file bytes => return bytes

def read (files : Files) (path : String) : Except Error String := do
  match Text.ofUtf8? (← files.readBytes path) with
  | some text => return text
  | none => throw .notText

def enterParent (files : Files) (path : String) : Except Error Unit := do
  checkPath path
  files.enter (← files.walk [] (Path.names path).dropLast)

-- Writes a file, which need not exist before; the directory that holds it must. A path for directories only is
-- refused before its last name is looked at.
def writeBytes (files : Files) (path : String) (bytes : List UInt8) : Except Error Files := do
  files.enterParent path
  if wantsDirectory path then throw (.os .isDirectory)
  let place ← files.locate path
  if files.find? place = some .directory then throw (.os .isDirectory)
  return files.put place (.file bytes)

def write (files : Files) (path text : String) : Except Error Files :=
  files.writeBytes path text.toUTF8.toList

def makeDirectory (files : Files) (path : String) : Except Error Files := do
  let place ← files.locate path
  if (files.find? place).isSome then throw (.os .alreadyExists)
  return files.put place .directory

-- Makes a directory and those above it that are missing. `depth` bounds how many there are.
def makeDirectories (depth : Nat) (files : Files) (path : String) : Except Error Files :=
  match depth with
  | 0 => .error (.os .noEntry)
  | depth + 1 =>
    if path.isEmpty then .ok files
    else match files.makeDirectory path with
      | .ok files => .ok files
      | .error e =>
        if e = .os .noEntry then
          match Path.parent? path with
          | none => .error e
          | some parent => do
            let files ← makeDirectories depth files parent
            match files.makeDirectory path with
            | .ok files => return files
            | .error e => if files.isDirectory path then return files else throw e
        else if files.isDirectory path then .ok files
        else .error e

def ensureDirectory (files : Files) (path : String) : Except Error Files :=
  makeDirectories (path.length + 1) files path

-- Moves a file to a path, where it replaces a file.
def rename (files : Files) (source target : String) : Except Error Files := do
  let origin ← files.locate source
  let place ← files.locate target
  match files.find? origin with
  | none => throw (.os .noEntry)
  | some entry =>
    if files.find? place = some .directory then throw (.os .isDirectory)
    return (files.drop origin).put place entry

def remove (files : Files) (path : String) : Except Error Files := do
  match ← files.look path with
  | .directory => throw (.os .isDirectory)
  | .file _ => return files.drop (← files.locate path)

-- The tree with an entry at a path and the directories above it, as far as they can be made.
def plant (files : Files) (path : String) (entry : Entry) : Files :=
  let files := match Path.parent? path with
    | some parent => (files.ensureDirectory parent).toOption.getD files
    | none => files
  match entry with
  | .directory => (files.ensureDirectory path).toOption.getD files
  | .file bytes => (files.writeBytes path bytes).toOption.getD files

-- The files below a place with their names from there.
def below (files : Files) (place : List String) : List (List String × List UInt8) :=
  files.entries.filterMap fun (found,entry) =>
    match entry with
    | .directory => none
    | .file bytes => if place.isPrefixOf found then some (found.drop place.length,bytes) else none

end Files
end HostNet

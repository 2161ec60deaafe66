/-
# Interceptor.Files — files by their paths

Files stand in directories, and a path is followed name by name: from the root
if it begins with a slash, else from the working directory. Each name but the
last must be that of a directory. What stands at one place may have other names:
links lead to it. Directories and links are never made or removed.

Besides the working directory and what stands in it there are the directories
that every machine has, and some devices: `null` takes everything and holds
nothing, and so does an input that nobody writes to; `full` takes nothing. The
name of the working directory is not known, so it stands as `.`, a name that no
path can lead to.

A file that is written is emptied first. Where there is too little room for what
it is to hold, as much of it as there is room for is left.

Not every way to fail is described. A file may be made in any directory there is,
so one that may not be written to, or a whole system that may not, has no entry
here; a `readOnly` file ends a write in the same way, with nothing changed. And a
write that has begun stops early for want of room alone, not for an error of the
device, an interruption or a limit on the size of files.
-/
import Interceptor.Error
import Interceptor.Text.Split

namespace Interceptor

set_option autoImplicit false

/-- The names from the root to a place. -/
abbrev Place := List String

/-- What stands at a place. -/
inductive FileEntry
  | file (content : List UInt8)
  /-- A file that may not be written. -/
  | readOnly (content : List UInt8)
  /-- A file that may not be read. -/
  | writeOnly (content : List UInt8)
  | directory
  /-- Leads to another place, or nowhere. -/
  | link (target : Option Place)
  /-- Takes everything that is written and holds nothing. -/
  | sink
  /-- Takes nothing. -/
  | full
  deriving DecidableEq, Repr

namespace Files

/-- The working directory. -/
def home : Place := ["tmp", "."]

/-- The directories of every machine. -/
def systemDirectories : List Place :=
  [[], ["bin"], ["boot"], ["dev"], ["etc"], ["home"], ["lib"], ["media"], ["mnt"], ["opt"], ["proc"], ["root"],
   ["run"], ["sbin"], ["srv"], ["sys"], ["tmp"], ["usr"], ["usr", "bin"], ["usr", "lib"], ["usr", "local"],
   ["usr", "share"], ["var"], ["var", "lib"], ["var", "log"], ["var", "tmp"]]

/-- What is there before anything is written. -/
def surroundings : List (Place × FileEntry) :=
  systemDirectories.map (·, .directory) ++
    [(["dev", "null"], .sink), (["dev", "stdin"], .sink), (["dev", "full"], .full), (home, .directory)]

/-- The most bytes in a path. -/
def maxPathBytes : Nat := 4095

/-- The most bytes in a name. -/
def maxNameBytes : Nat := 255

end Files

/-- Files and directories by place. -/
structure Files where
  entries : List (Place × FileEntry) := Files.surroundings
  /-- How many more bytes there is room for, if that is limited. -/
  room : Option Nat := none
  deriving DecidableEq, Repr

namespace Files

/-- What stands at a place. -/
def entry? (files : Files) (place : Place) : Option FileEntry := files.entries.lookup place

/-- The names in a path. -/
def names (path : String) : List String := (Text.splitAll '/' path.toList).map String.ofList

/-- Goes from a directory by one name. -/
def enter (directory : Place) (name : String) : Place :=
  if name = "" || name = "." then directory
  else if name = ".." then directory.dropLast
  else directory ++ [name]

/-- The place that a name leads to from a directory. -/
def step (place : Place) (name : String) : Except IoError Place :=
  if maxNameBytes < name.utf8ByteSize then .error .nameTooLong else .ok (enter place name)

/-- Where a place leads, which is elsewhere if a link stands there. Links that lead to links lead in a
circle. -/
def resolve (files : Files) (place : Place) : Except IoError Place :=
  match files.entry? place with
  | some (.link none) => .error .noSuchFile
  | some (.link (some target)) =>
    match files.entry? target with
    | some (.link _) => .error .tooManyLinks
    | _ => .ok target
  | _ => .ok place

/-- Follows names from a directory; the last one need not exist. -/
def follow (files : Files) : Place → List String → Except IoError Place
  | place, [] => .ok place
  | place, [name] => do files.resolve (← step place name)
  | place, name :: rest => do
    let next ← files.resolve (← step place name)
    match files.entry? next with
    | some .directory => follow files next rest
    | some _ => .error .notADirectory
    | none => .error .noSuchFile

/-- Where a path begins. -/
def start (path : String) : Place := if path.startsWith "/" then [] else home

/-- What is wrong with a path whatever stands there. -/
def refusal? (path : String) : Option IoError :=
  if path.isEmpty then some .noSuchFile
  else if path.toList.contains '\x00' then some .nulInPath
  else if maxPathBytes < path.utf8ByteSize then some .nameTooLong
  else none

/-- The place that a path names. -/
def locate (files : Files) (path : String) : Except IoError Place :=
  match refusal? path with
  | some error => .error error
  | none => files.follow (start path) (names path)

/-- The place of a file that may have to be made. A path that ends in a slash names a directory. -/
def locateNew (files : Files) (path : String) : Except IoError Place :=
  match refusal? path, (names path).reverse with
  | some error, _ => .error error
  | none, "" :: above => do
    let _ ← files.follow (start path) (((above.dropWhile (· = "")).drop 1).reverse ++ [""])
    .error .isADirectory
  | none, _ => files.locate path

/-- What a file holds. -/
def read (files : Files) (path : String) : Except IoError (List UInt8) := do
  match files.entry? (← files.locate path) with
  | some (.file content) | some (.readOnly content) => return content
  | some (.writeOnly _) => throw .permissionDenied
  | some .directory => throw .isADirectory
  | some (.link _) => throw .tooManyLinks
  | some .sink | some .full => return []
  | none => throw .noSuchFile

/-- Puts an entry at a place. -/
def put (files : Files) (place : Place) (entry : FileEntry) : Files :=
  { files with entries := (place, entry) :: files.entries.filter (·.1 ≠ place) }

/-- Writes a file in place of one with `old` bytes, as far as there is room. -/
def fill (files : Files) (place : Place) (entry : List UInt8 → FileEntry) (old : Nat) (content : List UInt8) :
    Except IoError Unit × Files :=
  match files.room with
  | none => (.ok (), files.put place (entry content))
  | some room =>
    let left := room + old
    let written := { files.put place (entry (content.take left)) with room := some (left - content.length) }
    (if content.length ≤ left then .ok () else .error .noSpace, written)

/-- Writes a file, which is made if it does not exist. -/
def write (files : Files) (path : String) (content : List UInt8) : Except IoError Unit × Files :=
  match files.locateNew path with
  | .error error => (.error error, files)
  | .ok place =>
    match files.entry? place with
    | none => files.fill place .file 0 content
    | some (.file old) => files.fill place .file old.length content
    | some (.writeOnly old) => files.fill place .writeOnly old.length content
    | some (.readOnly _) => (.error .permissionDenied, files)
    | some .directory => (.error .isADirectory, files)
    | some (.link _) => (.error .tooManyLinks, files)
    | some .sink => (.ok (), files)
    | some .full => (.error .noSpace, files)

/-- The directories between the working directory and a place in it. -/
def above (place : Place) : List Place :=
  ((List.range place.length).map place.take).filter (home.length < ·.length)

/-- Files in the working directory, with the directories that they stand in. -/
def ofContents (contents : List (String × List UInt8)) : Files :=
  contents.foldl (fun files (path, content) =>
    let place := (names path).foldl enter home
    ((above place).foldl (fun files place => files.put place .directory) files).put place (.file content)) {}

end Files

end Interceptor

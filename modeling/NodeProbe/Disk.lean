import NodeProbe.Response

set_option autoImplicit false

namespace NodeProbe

abbrev Place := List String

inductive Entry
  | file (content : String)
  | directory
deriving DecidableEq, Repr

structure Disk where
  entries : List (Place × Entry)
  working : Place
deriving Repr

namespace Disk

-- The root is always a directory.
def get? (disk : Disk) (place : Place) : Option Entry :=
  if place = [] then some .directory
  else (disk.entries.find? fun entry => entry.1 = place).map (·.2)

def set (disk : Disk) (place : Place) (entry : Entry) : Disk :=
  { disk with entries := (place, entry) :: disk.entries.filter fun other => other.1 ≠ place }

-- The longest name, in bytes.
def nameLimit : Nat := 255

-- The length that a path must stay below, in bytes.
def pathLimit : Nat := 4096

-- The names that a path goes through. Empty ones do not count.
def steps (path : String) : List String :=
  ((path.toList.splitOn '/').filter fun name => name ≠ []).map String.ofList

def enter (disk : Disk) (place : Place) (name : String) : Except SystemFault Place :=
  if name = "." then .ok place
  else if name = ".." then .ok place.dropLast
  else if nameLimit < name.utf8ByteSize then .error .nameTooLong
  else
    match disk.get? (place ++ [name]) with
    | none => .error .notFound
    | some (.file _) => .error .notDirectory
    | some .directory => .ok (place ++ [name])

def start (disk : Disk) (path : String) : Place :=
  if path.toList.head? = some '/' then [] else disk.working

def walk (disk : Disk) (place : Place) (names : List String) : Except SystemFault Place :=
  names.foldlM disk.enter place

def fileIn (disk : Disk) (path : String) (directory : Place) (name : String) : Except SystemFault Place :=
  if name = "." ∨ name = ".." ∨ path.toList.getLast? = some '/' then .error .isDirectory
  else if nameLimit < name.utf8ByteSize then .error .nameTooLong
  else if disk.get? (directory ++ [name]) = some .directory then .error .isDirectory
  else .ok (directory ++ [name])

def target (disk : Disk) (path : String) : Except SystemFault Place :=
  if pathLimit ≤ path.utf8ByteSize then .error .nameTooLong
  else if path = "" then .error .notFound
  else
    match (steps path).getLast? with
    | none => .error .isDirectory
    | some name =>
      match disk.walk (disk.start path) (steps path).dropLast with
      | .error fault => .error fault
      | .ok directory => disk.fileIn path directory name

-- Writes a whole file: it is made or replaced, or nothing changes.
def write (disk : Disk) (path content : String) : Except IoFault Disk :=
  if '\x00' ∈ path.toList then .error .nulInName
  else
    match disk.target path with
    | .error fault => .error (.system fault)
    | .ok place => .ok (disk.set place (.file content))

def read? (disk : Disk) (path : String) : Option String :=
  match disk.target path with
  | .error _ => none
  | .ok place =>
    match disk.get? place with
    | some (.file content) => some content
    | _ => none

def makeDirectories (disk : Disk) (path : String) : Disk :=
  ((steps path).foldl (fun state name =>
    let place := if name = "." then state.2 else if name = ".." then state.2.dropLast else state.2 ++ [name]
    match state.1.get? place with
    | none => (state.1.set place .directory, place)
    | some _ => (state.1, place)) (disk, disk.start path)).1

def findAbove (disk : Disk) (name : String) : Option String :=
  (List.range (disk.working.length + 1)).reverse.findSome? fun depth =>
    match disk.get? (disk.working.take depth ++ [name]) with
    | some (.file content) => some content
    | _ => none

end Disk

end NodeProbe

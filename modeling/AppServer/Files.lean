import AppServer.Text.Bytes
import AppServer.Text.Cut

/-!
# Files

A tree of directories and files, and the few operations that a server needs:
reading a file, listing a directory, and opening a file for appending. Each can
fail for one of a few causes. Paths start from the working directory, or from
the root when a slash comes first.
-/

namespace AppServer

inductive FileError where
  | notFound
  | isDirectory
  | notDirectory
  | denied
  | nameTooLong
  | zeroByte
  | notText
deriving DecidableEq, Repr

def FileError.message : FileError → String
  | .notFound => "No such file or directory (os error 2)"
  | .isDirectory => "Is a directory (os error 21)"
  | .notDirectory => "Not a directory (os error 20)"
  | .denied => "Permission denied (os error 13)"
  | .nameTooLong => "File name too long (os error 36)"
  | .zeroByte => "file name contained an unexpected NUL byte"
  | .notText => "stream did not contain valid UTF-8"

inductive FileEntry where
  | file (content : Bytes)
  | directory
  /-- A file that may not be opened. -/
  | locked
deriving DecidableEq

/-- A place: the names that lead to it from the root. -/
abbrev Place := List Bytes

structure Files where
  /-- Each place with what stands there, in listing order. -/
  entries : List (Place × FileEntry) := []
  /-- The working directory. -/
  home : Place := []

namespace Files

def parentName : Bytes := [46, 46]

/-- What stands at a place. The working directory and those above it are always there. -/
def at? (files : Files) (place : Place) : Option FileEntry :=
  if place.isPrefixOf files.home then some .directory else files.entries.lookup place

def put (files : Files) (place : Place) (entry : FileEntry) : Files :=
  { files with entries :=
      if (files.entries.lookup place).isSome then
        files.entries.map fun held => if held.1 = place then (place, entry) else held
      else files.entries ++ [(place, entry)] }

/-! ### Paths -/

def names (path : Bytes) : List Bytes :=
  path.foldr (fun b parts => if b = 47 then [] :: parts else
    match parts with
    | [] => [[b]]
    | part :: rest => (b :: part) :: rest) [[]]

/-- Follows names from a place; all but the last must be directories. -/
def follow (files : Files) : Place → List Bytes → Except FileError Place
  | here, [] => .ok here
  | here, name :: rest =>
    if name = [] ∨ name = [46] then follow files here rest
    else if name = parentName then follow files here.dropLast rest
    else if 255 < name.length then .error .nameTooLong
    else
      let next := here ++ [name]
      if rest = [] then .ok next
      else match files.at? next with
        | none => .error .notFound
        | some .directory => follow files next rest
        | some _ => .error .notDirectory

def start (files : Files) (path : Bytes) : Place := if path.head? = some 47 then [] else files.home

def resolve (files : Files) (path : String) : Except FileError Place :=
  let bytes := Bytes.ofText path
  if bytes.contains 0 then .error .zeroByte
  else if bytes = [] then .error .notFound
  else if 4095 < bytes.length then .error .nameTooLong
  else follow files (files.start bytes) (names bytes)

def join (dir name : String) : String :=
  if dir = "" then name
  else if dir.toList.getLast? = some '/' then dir ++ name
  else dir ++ "/" ++ name

/-! ### Operations -/

def install (files : Files) (path : Bytes) (entry : FileEntry) : Files :=
  let place := files.start path ++ (names path).filter fun name => name ≠ [] ∧ name ≠ [46]
  let parents := (List.range place.length).map place.take
  let files := parents.foldl (fun held p =>
    if (held.at? p).isSome then held else held.put p .directory) files
  files.put place entry

def read (files : Files) (path : String) : Except FileError Bytes := do
  match files.at? (← files.resolve path) with
  | none => .error .notFound
  | some .directory => .error .isDirectory
  | some .locked => .error .denied
  | some (.file content) => .ok content

def readText (files : Files) (path : String) : Except FileError String := do
  match Bytes.toText? (← files.read path) with
  | none => .error .notText
  | some s => .ok s

def list (files : Files) (path : String) : Except FileError (List Bytes) := do
  let place ← files.resolve path
  match files.at? place with
  | none => .error .notFound
  | some (.file _) | some .locked => .error .notDirectory
  | some .directory =>
    .ok (files.entries.filterMap fun held =>
      if held.1.dropLast = place then held.1.getLast? else none)

def withoutSlashes (path : String) : String :=
  String.ofList (path.toList.reverse.dropWhile (· = '/')).reverse

/-- Opens a file for appending and makes it if it is missing: its place, and the tree with it. A path that
ends in a slash names a directory, whatever stands there. -/
def openToAppend (files : Files) (path : String) : Except FileError (Place × Files) := do
  let stem := withoutSlashes path
  if stem = "" ∧ path ≠ "" then throw .isDirectory
  let place ← files.resolve stem
  if stem ≠ path then throw .isDirectory
  match files.at? place with
  | some .directory => .error .isDirectory
  | some .locked => .error .denied
  | some (.file _) => .ok (place, files)
  | none => .ok (place, files.put place (.file []))

def append (files : Files) (place : Place) (bytes : Bytes) : Files :=
  match files.at? place with
  | some (.file content) => files.put place (.file (content ++ bytes))
  | _ => files

end Files

end AppServer

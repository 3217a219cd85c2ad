import Walkthrough.Files.Entry
import Walkthrough.Files.Path

/-! # Files

The files that a program works on: a tree of directories, and the directory that it works in.

* `Store.place?` follows a path part by part, from the root if it begins with a slash and else from
  the working directory; `Store.entryAt?` is what stands where it leads;
* `Store.readText?` reads a file as text, `Store.list?` a directory;
* `Sink` is what takes the bytes of a program, to the end or until it fails;
* `Store.write` writes bytes to a file, which keeps what was taken of them. -/

namespace Walkthrough

/-- What takes bytes: all of them, or as many as there is room for, with a failure behind them. -/
inductive Sink where
  | endless
  | limited (room : Nat) (cause : FileError)

/-- What is taken of the bytes that are written, and why not all of it. -/
def Sink.take : Sink → ByteArray → ByteArray × Option FileError
  | endless, bytes => (bytes, none)
  | limited room cause, bytes =>
    if bytes.size ≤ room then (bytes, none) else (bytes.extract 0 room, some cause)

/-- A root directory, the names that lead from it to the working directory, and what a file can
take. -/
structure Store where
  entries : List (String × Entry) := []
  faults : DirFaults := {}
  workingDir : List String := []
  sink : Sink := .endless

namespace Store

/-- The root directory as an entry. -/
def root (s : Store) : Entry := .dir s.entries s.faults

/-- Where a path begins: at the root if it begins with a slash, else in the working directory. -/
def start (s : Store) (path : String) : List String :=
  if path.toList.head? = some '/' then [] else s.workingDir

/-- Follows one part of a path from a place.  It needs a directory to stand in, and one that lets it
pass unless the part is empty; there is no way up from the root. -/
def step? (s : Store) (place : List String) (part : List Char) :
    Except FileError (List String) :=
  match s.root.at? place with
  | none => .error .notFound
  | some (.file _ _) => .error .notDirectory
  | some (.dir entries faults) =>
    if part = [] then .ok place
    else
      match faults.pass with
      | some cause => .error cause
      | none =>
        if part = ['.'] then .ok place
        else if part = ['.', '.'] then .ok place.dropLast
        else if Path.isTooLongName part then .error .nameTooLong
        else if (Entry.find? (String.ofList part) entries).isSome then
          .ok (place ++ [String.ofList part])
        else .error .notFound

/-- Can the path be used at all? -/
def checked (path : String) : Except FileError String :=
  if path.toList.contains '\x00' then .error .nulInPath
  else if path.isEmpty then .error .notFound
  else if Path.isTooLong path then .error .nameTooLong
  else .ok path

/-- The place that a path leads to, as the names from the root. -/
def place? (s : Store) (path : String) : Except FileError (List String) := do
  let path ← checked path
  (Path.parts path).foldlM s.step? (s.start path)

/-- What stands where a path leads. -/
def entryAt? (s : Store) (path : String) : Except FileError Entry := do
  let place ← s.place? path
  match s.root.at? place with
  | some e => .ok e
  | none => .error .notFound

/-- The text of the file that a path leads to. -/
def readText? (s : Store) (path : String) : Except FileError String := do
  match ← s.entryAt? path with
  | .file bytes faults => Entry.text? bytes faults
  | .dir _ faults => .error (faults.list.getD .isDirectory)

/-- The entries of the directory that a path leads to, with what keeps a user from them. -/
def list? (s : Store) (path : String) :
    Except FileError (List (String × Entry) × DirFaults) := do
  match ← s.entryAt? path with
  | .file _ _ => .error .notDirectory
  | .dir entries faults =>
    match faults.list with
    | some cause => .error cause
    | none => .ok (entries, faults)

/-- The place of the file that a path leads to and that is opened to write; it need not exist.  Its
directory has to, and a path that ends in a slash or in dots leads to a directory. -/
def target? (s : Store) (path : String) : Except FileError (List String) := do
  let path ← checked path
  let parts := Path.parts path
  let named := (parts.reverse.dropWhile (· == [])).reverse
  let last := named.getLast?.getD []
  let place ← named.dropLast.foldlM s.step? (s.start path)
  match s.root.at? place with
  | none => .error .notFound
  | some (.file _ _) => .error .notDirectory
  | some (.dir entries faults) =>
    match faults.pass with
    | some cause => .error cause
    | none =>
      if named.length < parts.length || !Path.isName last || last == ['.', '.'] then
        .error .isDirectory
      else if Path.isTooLongName last then .error .nameTooLong
      else
        match Entry.writeFault? faults (Entry.find? (String.ofList last) entries) with
        | some cause => .error cause
        | none => .ok (place ++ [String.ofList last])

/-- The faults of the file at a place; a new one has none. -/
def fileFaults (s : Store) (names : List String) : FileFaults :=
  match s.root.at? names with
  | some (.file _ faults) => faults
  | _ => {}

/-- The files with new bytes in the file at a place. -/
def put (s : Store) (names : List String) (bytes : ByteArray) : Store :=
  match Entry.insert (.file bytes (s.fileFaults names)) names (some s.root) with
  | .dir entries faults => { s with entries, faults }
  | .file _ _ => s

/-- Writes bytes to the file that a path leads to.  If it can be opened, its old bytes are gone, and
it holds what is taken of the new ones. -/
def write (s : Store) (path : String) (bytes : ByteArray) :
    Except FileError (Store × Option FileError) := do
  let names ← s.target? path
  let (taken, fault) := s.sink.take bytes
  return (s.put names taken, fault)

end Store

end Walkthrough

/-! # Entries of directories

A tree of directories with named entries, whose leaves are the bytes of the files.

* `FileError` are the ways in which the use of a file fails, with their wording;
* `FileFaults` and `DirFaults` say what keeps a user from a file or a directory that exists: its
  permissions, or the device;
* `Entry.find?` and `Entry.at?` look an entry up, `Entry.insert` puts one into a tree;
* `Entry.text?` is the text of a file. -/

namespace Walkthrough

/-- The ways in which the use of a file fails. -/
inductive FileError where
  | notFound
  | notDirectory
  | isDirectory
  | nameTooLong
  | notText
  | nulInPath
  /-- any other answer of the system, with its text and its number -/
  | system (text : String) (code : Nat)
deriving DecidableEq, Repr

namespace FileError

/-- The device fails. -/
def deviceFails : FileError := system "Input/output error" 5

/-- The device is full. -/
def noSpace : FileError := system "No space left on device" 28

/-- The wording of a failed use of a file. -/
def message : FileError → String
  | notFound => "No such file or directory (os error 2)"
  | notDirectory => "Not a directory (os error 20)"
  | isDirectory => "Is a directory (os error 21)"
  | nameTooLong => "File name too long (os error 36)"
  | notText => "stream did not contain valid UTF-8"
  | nulInPath => "file name contained an unexpected NUL byte"
  | system text code => text ++ " (os error " ++ toString code ++ ")"

end FileError

/-- What keeps a user from a file: from its bytes, and from opening it to write. -/
structure FileFaults where
  read : Option FileError := none
  write : Option FileError := none
deriving DecidableEq, Repr

/-- What keeps a user from a directory: from its names, from going on with them behind the last one
that is listed, from what stands under the names, and from new names. -/
structure DirFaults where
  list : Option FileError := none
  next : Option FileError := none
  pass : Option FileError := none
  create : Option FileError := none
deriving DecidableEq, Repr

/-- A file with its bytes, or a directory with its named entries in the order of their listing. -/
inductive Entry where
  | file (bytes : ByteArray) (faults : FileFaults)
  | dir (entries : List (String × Entry)) (faults : DirFaults)

namespace Entry

/-- A file that nothing keeps a user from. -/
def plainFile (text : String) : Entry := file text.toUTF8 {}

/-- The entry of a directory under a name. -/
def find? (name : String) (entries : List (String × Entry)) : Option Entry :=
  (entries.find? (·.1 == name)).map (·.2)

/-- The entry at the end of a row of names. -/
def at? : Entry → List String → Option Entry
  | e, [] => some e
  | file _ _, _ :: _ => none
  | dir entries _, name :: names => (find? name entries).bind (at? · names)

/-- Changes the entry under a name; a new one goes to the end. -/
def put (name : String) (change : Option Entry → Entry) :
    List (String × Entry) → List (String × Entry)
  | [] => [(name, change none)]
  | (n, e) :: entries =>
    if n = name then (n, change (some e)) :: entries else (n, e) :: put name change entries

/-- Puts an entry at the end of a row of names, through directories that are made where they are
missing. -/
def insert (new : Entry) : List String → Option Entry → Entry
  | [], _ => new
  | name :: names, some (dir entries faults) => dir (put name (insert new names) entries) faults
  | name :: names, _ => dir [(name, insert new names none)] {}

/-- The bytes as text. -/
def textOf (bytes : ByteArray) : Except FileError String :=
  match String.fromUTF8? bytes with
  | some text => .ok text
  | none => .error .notText

/-- The text of a file. -/
def text? (bytes : ByteArray) (faults : FileFaults) : Except FileError String :=
  match faults.read with
  | some cause => .error cause
  | none => textOf bytes

/-- Why an entry of a directory cannot be opened to write; one that is missing is made. -/
def writeFault? (faults : DirFaults) : Option Entry → Option FileError
  | none => faults.create
  | some (file _ inner) => inner.write
  | some (dir _ _) => some .isDirectory

end Entry

end Walkthrough

import Walkthrough.Text.Cut

/-! # Paths

A path is a text whose parts are divided by slashes.  Empty parts and parts that are a single dot
say nothing about where it leads, except that what stands before them is a directory.

* `parts` are all parts as written, `lastName?` is the last one that says something;
* `join` puts a name under a directory;
* `isTooLong` and `isTooLongName` tell the paths and names that no system follows;
* `isSource` tells the paths of C and C++ sources by their extension. -/

namespace Walkthrough.Path

open Text

/-- The parts of a path, as lists of characters. -/
def parts (path : String) : List (List Char) := cutAt (· == '/') path.toList

/-- Does the part name anything? -/
def isName (part : List Char) : Bool := part != [] && part != ['.']

/-- The last part that names something; it may be the two dots of a parent directory. -/
def lastName? (path : String) : Option (List Char) := ((parts path).filter isName).getLast?

/-- The number of bytes that a path has to stay below. -/
def limit : Nat := 4096

/-- Is the path too long to be followed? -/
def isTooLong (path : String) : Bool := limit ≤ path.utf8ByteSize

/-- The number of bytes that a name may have. -/
def nameLimit : Nat := 255

/-- Is the part of a path too long for a name? -/
def isTooLongName (part : List Char) : Bool := nameLimit < (String.ofList part).utf8ByteSize

/-- The path of a name under a directory. -/
def join (dir name : String) : String :=
  if dir.toList.getLast? = some '/' then dir ++ name else dir ++ "/" ++ name

/-- The extension of a name: what follows its last dot, if something stands before that dot. -/
def extension? (name : List Char) : Option (List Char) :=
  if name = ['.', '.'] then none
  else
    match (name.reverse.span (· != '.')) with
    | (_, []) => none
    | (_, [_]) => none
    | (tail, _ :: _ :: _) => some tail.reverse

/-- The extensions of C and C++ sources. -/
def sourceExtensions : List String := ["cpp", "cc", "cxx", "c", "hpp", "hh", "h"]

/-- Is the extension one of a source, in any case? -/
def isSourceExtension (extension : List Char) : Bool :=
  sourceExtensions.any fun e => e.toList == extension.map Char.toLower

/-- Is the name one of a source? -/
def isSourceName (name : List Char) : Bool := (extension? name).any isSourceExtension

/-- Does the path lead to a source, by its last name? -/
def isSource (path : String) : Bool := (lastName? path).any isSourceName

/-- The names of directories that hold no sources of interest. -/
def skippedNames : List String := ["target", ".git", "build"]

/-- Is the name one of a directory that is skipped? -/
def isSkippedName (name : List Char) : Bool := skippedNames.any (·.toList == name)

/-- Does the path lead to a directory that is skipped, by its last name? -/
def isSkipped (path : String) : Bool := (lastName? path).any isSkippedName

end Walkthrough.Path

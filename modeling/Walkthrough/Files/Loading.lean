import Walkthrough.Analysis
import Walkthrough.Files.Store

/-! # Loading sources

Sources are loaded from files that are named one by one, in the given order, or from a folder:
then all C and C++ files below it are loaded, in the order of their paths, except those below a
directory with one of the skipped names.

* `Store.loadFiles` and `Store.loadFolder` load;
* `Entry.sources` goes down a tree; what cannot be looked up there does not count as a directory;
* `LoadError` says what could not be read. -/

namespace Walkthrough

/-- What could not be loaded, and why. -/
inductive LoadError where
  | file (path : String) (cause : FileError)
  | directory (path : String) (cause : FileError)
  /-- the listing of some directory broke off -/
  | listing (cause : FileError)
deriving DecidableEq, Repr

/-- The wording of a failed loading, from the outermost context to the cause. -/
def LoadError.chain : LoadError → List String
  | file path cause => ["Failed to read file " ++ path, cause.message]
  | directory path cause => ["Failed to read directory " ++ path, cause.message]
  | listing cause => [cause.message]

namespace Source

/-- Puts a source in its place among sources in the order of their paths. -/
def insert (x : Source) : List Source → List Source
  | [] => [x]
  | y :: ys => if x.path ≤ y.path then x :: y :: ys else y :: insert x ys

/-- Leaves out every source that has the path of the one before it. -/
def dropRepeats : List Source → List Source
  | [] => []
  | x :: xs => x :: (dropRepeats xs).dropWhile (·.path == x.path)

/-- The sources in the order of their paths; of several with one path the first remains. -/
def arrange (xs : List Source) : List Source := dropRepeats (xs.foldr insert [])

end Source

namespace Entry

/-- What comes of an entry whose path is read as a file, with this outcome. -/
def sourcesOfFile (path : String) (text : Except FileError String) :
    Except LoadError (List Source) :=
  if Path.isSource path then
    match text with
    | .ok text => .ok [⟨path, text⟩]
    | .error cause => .error (.file path cause)
  else .ok []

/-- Why the path of an entry cannot be looked up, below a directory with these faults. -/
def hidden? (faults : DirFaults) (path : String) : Option FileError :=
  if Path.isTooLong path then some .nameTooLong else faults.pass

mutual

/-- The sources at and below an entry with the given path. -/
def sources (path : String) : Entry → Except LoadError (List Source)
  | .dir entries faults =>
    if Path.isSkipped path then .ok []
    else
      match faults.list with
      | some cause => .error (.directory path cause)
      | none => sourcesOfAll path faults entries
  | .file bytes faults => sourcesOfFile path (text? bytes faults)

/-- The sources at and below the entries of a directory, in the order of the listing.  An entry that
cannot be looked up is no directory, so it is read as a file or passed over by its name. -/
def sourcesOfAll (dir : String) (faults : DirFaults) :
    List (String × Entry) → Except LoadError (List Source)
  | [] =>
    match faults.next with
    | some cause => .error (.listing cause)
    | none => .ok []
  | (name, entry) :: entries =>
    let path := Path.join dir name
    let found :=
      match hidden? faults path with
      | some cause => sourcesOfFile path (.error cause)
      | none => entry.sources path
    match found with
    | .error e => .error e
    | .ok here =>
      match sourcesOfAll dir faults entries with
      | .error e => .error e
      | .ok others => .ok (here ++ others)

end

end Entry

namespace Store

/-- Loads one file. -/
def loadFile (s : Store) (path : String) : Except LoadError Source :=
  match s.readText? path with
  | .ok text => .ok ⟨path, text⟩
  | .error cause => .error (.file path cause)

/-- Loads the files with the given paths, in order. -/
def loadFiles (s : Store) (paths : List String) : Except LoadError (List Source) :=
  paths.mapM s.loadFile

/-- Loads the sources below a directory, in the order of their paths. -/
def loadFolder (s : Store) (dir : String) : Except LoadError (List Source) :=
  if Path.isSkipped dir then .ok []
  else
    match s.list? dir with
    | .error cause => .error (.directory dir cause)
    | .ok (entries, faults) => (Entry.sourcesOfAll dir faults entries).map Source.arrange

end Store

end Walkthrough

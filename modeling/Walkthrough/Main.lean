import Walkthrough.Command.Run
import Walkthrough.Recording
import Walkthrough.Service.Session

/-! # The program

The command line over real files.  The paths of the files to work on stand on standard input, one
on a line, up to an empty line; the trees of their contents are recorded in the file that the
variable `WALKTHROUGH_TREES` names.  A service is one session on the rest of standard input.

The files are those that could be read, below the real working directory; what fails when the
reports are written is what fails there. -/

namespace Walkthrough.Main

/-- The variable that names the file of recorded trees. -/
def treesVariable : String := "WALKTHROUGH_TREES"

/-- The lines of a stream up to an empty one. -/
partial def readPaths (input : IO.FS.Stream) : IO (List String) := do
  let line := String.ofList ((← input.getLine).toList.filter (· != '\n'))
  if line.isEmpty then return []
  return line :: (← readPaths input)

/-- The names that a path leads along, from where it starts. -/
def namesAlong (start : List String) (path : String) : List String :=
  ((Path.parts path).filter Path.isName).foldl
    (fun names part => if part = ['.', '.'] then names.dropLast else names ++ [String.ofList part])
    start

/-- Puts an entry into the store. -/
def addEntry (s : Store) (names : List String) (e : Entry) : Store :=
  match Entry.insert e names (some s.root) with
  | .dir entries faults => { s with entries, faults }
  | .file _ _ => s

/-- A store with nothing but the working directory. -/
def emptyStore : IO Store := do
  let names := namesAlong [] (← IO.currentDir).toString
  return addEntry { workingDir := names } names (.dir [] {})

/-- Puts the file at a path into the store. -/
def loadPath (s : Store) (path : String) : IO Store := do
  let bytes ← IO.FS.readBinFile path
  return addEntry s (namesAlong (s.start path) path) (.file bytes {})

/-- The sentence about a text that cannot be decoded. -/
def wording : Wording where
  request _ := "expected a request"
  settings _ := "expected settings"

/-- The recorded trees, if there are any. -/
def readRecordings : IO (List Recording) := do
  match ← IO.getEnv treesVariable with
  | none => return []
  | some path =>
    let text ← IO.FS.readFile path
    return ((Json.read? text.length text).bind Recording.listOfJson?).getD []

/-- Answers the lines of a stream until the session ends. -/
partial def serve (service : Service) (files : Store) (input output : IO.FS.Stream) :
    IO Unit := do
  let text ← input.getLine
  if text.isEmpty then return
  match service.textLine files (Text.trim text.toList) with
  | .silent => serve service files input output
  | .answer r =>
    output.putStrLn r.line
    output.flush
    serve service files input output
  | .farewell r =>
    output.putStrLn r.line
    output.flush
  | .broken => return

/-- Puts the file that a run wrote, if any, where it belongs. -/
def writeOutput (o : Outcome) : IO Unit := do
  match o.written.map fun path => (path, o.files.readText? path) with
  | some (path, .ok text) => IO.FS.writeFile path text
  | _ => return

/-- Prints what a run printed; the exit code is that of a panic if it cannot be printed. -/
def printOutput (o : Outcome) (output : IO.FS.Stream) : IO UInt32 := do
  try
    output.write o.printed
    output.flush
    return o.ending.exit.toUInt32
  catch _ => return (Ending.panic .deviceFails).exit.toUInt32

/-- Runs the program with options that were read from the command line. -/
def start (options : Options) (input output : IO.FS.Stream) : IO UInt32 := do
  let files ← (← readPaths input).foldlM loadPath (← emptyStore)
  let parse := Recording.parser (← readRecordings)
  match options.run parse wording files .endless with
  | .serve settings =>
    serve (Service.ofSettings parse wording settings) files input output
    return 0
  | .finished outcome =>
    writeOutput outcome
    let code ← printOutput outcome output
    if let .failure e := outcome.ending then
      IO.eprintln (chainMessage e.chain)
    return code

end Walkthrough.Main

/-- Runs the program with the arguments of the command line. -/
def main (args : List String) : IO UInt32 := do
  match Walkthrough.Options.read args with
  | .error stop => return stop.exit.toUInt32
  | .ok options => Walkthrough.Main.start options (← IO.getStdin) (← IO.getStdout)

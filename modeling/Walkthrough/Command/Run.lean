import Walkthrough.Command.Options
import Walkthrough.Files.Loading
import Walkthrough.Settings

/-! # Runs of the command

A run loads the settings and all sources, analyzes the sources and writes the reports to a file or
prints them.  Nothing is written unless everything could be loaded; a source that fails to analyze
does not keep the others from being written, but the run fails in the end.

* `run` is a run with given arguments over given files, with a sink for what it prints: it is
  `finished` with an `Outcome`, or goes on to `serve`;
* `RunError` says what went wrong, with its wording, and `Ending` how the run ends;
* `deliver` writes or prints the reports.  A file that breaks off is an error of the run, but what
  cannot be printed makes it panic. -/

namespace Walkthrough

/-- What goes wrong in a run. -/
inductive RunError where
  | settings (cause : SettingsError)
  | load (cause : LoadError)
  | noSources
  | unwritable (path : String) (cause : FileError)
  | failures (failed total : Nat)
deriving DecidableEq, Repr

/-- The wording, from the outermost context to the cause. -/
def RunError.chain : RunError → List String
  | settings cause => cause.chain
  | load cause => cause.chain
  | noSources =>
    ["Please provide at least one --input <file> or --folder <dir>, or use --serve"]
  | unwritable path cause => ["Failed to write " ++ path, cause.message]
  | failures failed total =>
    [toString failed ++ " of " ++ toString total ++ " files failed to analyze"]

/-- How a run ends. -/
inductive Ending where
  | success
  | failure (e : RunError)
  /-- it could not go on to print -/
  | panic (cause : FileError)
deriving DecidableEq, Repr

/-- The exit code of a run. -/
def Ending.exit : Ending → Nat
  | success => 0
  | failure _ => 1
  | panic _ => 101

/-- The exit code of a program that does not run. -/
def Stop.exit : Stop → Nat
  | usage => 2
  | help => 0
  | version => 0

/-- What a run leaves: the bytes printed, the path written to, the files, and how it ended. -/
structure Outcome where
  printed : ByteArray
  written : Option String
  files : Store
  ending : Ending

/-- What a run leaves that failed before it wrote anything. -/
def Outcome.failed (files : Store) (e : RunError) : Outcome := ⟨.empty, none, files, .failure e⟩

namespace Options

/-- The settings that the options name, with the format and the port that they give. -/
def settingsOver (o : Options) (wording : Wording) (files : Store) :
    Except SettingsError Settings := do
  let s ← files.settings wording o.settings
  let port :=
    match o.serve with
    | some (n + 1) => n + 1
    | _ => s.service.port
  return { s with format := o.format.getD s.format, service := { s.service with port := port } }

/-- The sources that the options name: the files, then each folder. -/
def sources (o : Options) (files : Store) : Except LoadError (List Source) := do
  let named ← files.loadFiles o.inputs
  let found ← o.folders.mapM files.loadFolder
  return named ++ found.flatten

end Options

/-- How a run ends whose reports were delivered. -/
def Ending.ofReports (reports : List Report) : Ending :=
  match reports.countP (·.error.isSome) with
  | 0 => success
  | n + 1 => failure (.failures (n + 1) reports.length)

/-- The text is written as it is to a file, or printed with a newline behind it.  The run ends as
told if nothing breaks off. -/
def deliver (files : Store) (out : Sink) (output : Option String) (text : String)
    (ending : Ending) : Outcome :=
  match output with
  | none =>
    let (printed, fault) := out.take (text ++ "\n").toUTF8
    ⟨printed, none, files, (fault.map .panic).getD ending⟩
  | some path =>
    match files.write path text.toUTF8 with
    | .error cause => .failed files (.unwritable path cause)
    | .ok (files, none) => ⟨.empty, some path, files, ending⟩
    | .ok (files, some cause) => ⟨.empty, some path, files, .failure (.unwritable path cause)⟩

/-- Analyzes the sources and delivers the reports. -/
def analyzeSources (parse : Parser) (files : Store) (out : Sink) (o : Options) (s : Settings)
    (sources : List Source) : Outcome :=
  let analyzer : Analyzer := ⟨parse, s.limits⟩
  let reports := analyzer.reports sources
  deliver files out o.output (s.format.render reports) (.ofReports reports)

/-- What a run with given options comes to. -/
inductive RunResult where
  /-- the analysis of sources -/
  | finished (o : Outcome)
  /-- a service with these settings -/
  | serve (s : Settings)

/-- A run with given options over given files. -/
def Options.run (o : Options) (parse : Parser) (wording : Wording) (files : Store) (out : Sink) :
    RunResult :=
  match o.settingsOver wording files with
  | .error cause => .finished (.failed files (.settings cause))
  | .ok s =>
    if o.serve.isSome then .serve s
    else
      match o.sources files with
      | .error cause => .finished (.failed files (.load cause))
      | .ok [] => .finished (.failed files .noSources)
      | .ok sources => .finished (analyzeSources parse files out o s sources)

/-- A run with given arguments over given files, unless there is a reason not to run. -/
def run (parse : Parser) (wording : Wording) (files : Store) (out : Sink) (args : List String) :
    Except Stop RunResult := do
  let o ← Options.read args
  return o.run parse wording files out

end Walkthrough

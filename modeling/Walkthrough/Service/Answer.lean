import Walkthrough.Files.Store
import Walkthrough.Service.Params
import Walkthrough.Service.Request
import Walkthrough.Service.Response
import Walkthrough.Settings
import Walkthrough.Trace.Json

/-! # Answers to requests

A service answers three commands: `PING`, `ANALYZE` and `SHUTDOWN`.  An analysis takes the source
text of its parameters, or else the file that they name, or else the default file of the service.

* `Service.perform` is what comes of a request, `Service.handle` of the text of a line, which
  `Service.respond` answers;
* `ServiceError` says at which stage a request fails, with its wording. -/

namespace Walkthrough

/-- What all connections of a service share. -/
structure Service where
  analyzer : Analyzer
  defaultSource : Option String
  wording : Wording

/-- The service with the given settings. -/
def Service.ofSettings (parse : Parser) (wording : Wording) (s : Settings) : Service :=
  ⟨⟨parse, s.limits⟩, s.service.defaultSource, wording⟩

/-- The stages at which a request fails. -/
inductive ServiceError where
  /-- the line is no request -/
  | invalidRequest (cause : String)
  | unknownCommand (command : String)
  | invalidParams (cause : ParamsError)
  /-- there is nothing to analyze -/
  | noSource
  | unreadable (path : String) (cause : FileError)
  | analysis (cause : AnalysisError)

/-- The wording, from the outermost context to the cause. -/
def ServiceError.chain : ServiceError → List String
  | invalidRequest cause => ["Invalid JSON format", cause]
  | unknownCommand command => ["Unknown command: " ++ command]
  | invalidParams cause => ["Invalid params for ANALYZE", cause.message]
  | noSource => ["Failed to read code file: no source given and no default_source configured"]
  | unreadable path cause => ["Failed to read code file " ++ path, cause.message]
  | analysis cause => ["Failed to parse code", cause.message]

namespace Service

/-- The parameters of an analysis; absent ones name nothing. -/
def paramsOf : Option Json → Except ServiceError AnalysisParams
  | none => .ok {}
  | some j =>
    match AnalysisParams.ofJson j with
    | .ok p => .ok p
    | .error cause => .error (.invalidParams cause)

/-- The text of a file. -/
def readSource (files : Store) (path : String) : Except ServiceError String :=
  match files.readText? path with
  | .ok text => .ok text
  | .error cause => .error (.unreadable path cause)

/-- The source text that the parameters ask for. -/
def sourceOf (s : Service) (files : Store) (p : AnalysisParams) : Except ServiceError String :=
  match p.source, p.path, s.defaultSource with
  | some source, _, _ => .ok source
  | none, some path, _ => readSource files path
  | none, none, some path => readSource files path
  | none, none, none => .error .noSource

/-- The trace that an analysis asks for, as data. -/
def analyze (s : Service) (files : Store) (params : Option Json) : Except ServiceError Json := do
  let p ← paramsOf params
  let source ← s.sourceOf files p
  match s.analyzer.analyze source with
  | .ok trace => .ok trace.toJson
  | .error cause => .error (.analysis cause)

/-- The data that a request asks for. -/
def perform (s : Service) (files : Store) (r : Request) : Except ServiceError Json :=
  if r.command = "PING" then .ok (.str "PONG")
  else if r.command = "ANALYZE" then s.analyze files r.params
  else if r.command = "SHUTDOWN" then .ok (.str "Shutting down...")
  else .error (.unknownCommand r.command)

/-- What comes of the text of a line. -/
def handle (s : Service) (files : Store) (text : List Char) : Except ServiceError Json :=
  match Request.read? text with
  | none => .error (.invalidRequest (s.wording.request text))
  | some r => s.perform files r

/-- The response to the text of a line. -/
def respond (s : Service) (files : Store) (text : List Char) : Response :=
  match s.handle files text with
  | .ok data => .success data
  | .error e => .ofChain e.chain

/-- Does the request end the service? -/
def isShutdown : Option Request → Bool
  | some r => r.command == "SHUTDOWN"
  | none => false

end Service

end Walkthrough

import Walkthrough.Proofs.Command.AllOrNothing
import Walkthrough.Proofs.Json.Unambiguous
import Walkthrough.Proofs.Service.Params

/-! # All ways to analyze a text agree

A text is analyzed by a service, which is sent the text, is told the file that it stands in or has
that file as its default, or by a run over that file.  All of these come to the same.

* `Response.ofAnalysis` is the answer that the outcome of an analysis gives, and
  `Service.respond_eq_ofAnalysis` says that it is the answer to every request for it.
* `Options.PrintsOnly` are the runs that print the report on a single file, `Report.single` is the
  value that such a run prints; `run_eq_of_printsOnly` is what they come to.
* `analyses_agree` compares them. -/

namespace Walkthrough

/-- The request for an analysis with the parameters as they are sent. -/
def Request.analysis (raw : Option Json) : Request := ⟨"ANALYZE", raw.bind present⟩

/-- The answer with the outcome of an analysis. -/
def Response.ofAnalysis : Except AnalysisError Trace → Response
  | .ok trace => .success trace.toJson
  | .error cause => .error ("Failed to parse code: " ++ cause.message)

namespace Service

theorem respond_eq_ofAnalysis {sv : Service} {files : Store} {line : List Char}
    {raw : Option Json} {source path : Option String} {text : String}
    (hline : Request.read? line = some (.analysis raw)) (h : Asks raw source path)
    (htext : sv.sourceOf files ⟨source, path⟩ = .ok text) :
    sv.respond files line = .ofAnalysis (sv.analyzer.analyze text) := by
  have hparams := asks_iff.mp h
  have hperform : sv.perform files (.analysis raw) = sv.analyze files (raw.bind Request.present) :=
    rfl
  unfold respond handle
  simp only [hline, hperform, analyze, hparams, htext, bind, Except.bind]
  cases sv.analyzer.analyze text with
  | ok trace => rfl
  | error cause => rfl

end Service

/-- Options for a run that prints the report on a single file as JSON, with given limits. -/
structure Options.PrintsOnly (o : Options) (wording : Wording) (files : Store) (p : String)
    (limits : Limits) : Prop where
  serve : o.serve = none
  inputs : o.inputs = [p]
  folders : o.folders = []
  output : o.output = none
  settings : ∃ s, files.settings wording o.settings = .ok s ∧ s.limits = limits ∧
    o.format.getD s.format = .json

/-- The value that stands for the report on a single file, and how a run ends that prints it. -/
def Report.single (p : String) : Except AnalysisError Trace → Json × Ending
  | .ok trace => (trace.toJson, .success)
  | .error cause =>
    (.obj [("file", .str p), ("trace", .null), ("error", .str cause.message)],
      .failure (.failures 1 1))

theorem Report.exact_single (p : String) (analysis : Except AnalysisError Trace) :
    (Report.single p analysis).1.Exact := by
  cases analysis with
  | ok trace => exact trace.exact_toJson
  | error cause => exact .obj (by simp) (by simp)

theorem run_eq_of_printsOnly (parse : Parser) {wording : Wording} {files : Store} {out : Sink}
    {o : Options} {p text : String} {limits : Limits} (h : o.PrintsOnly wording files p limits)
    (htext : files.readText? p = .ok text) {json : Json} {ending : Ending}
    (hsingle : Report.single p ((Analyzer.mk parse limits).analyze text) = (json, ending))
    (hout : (out.take (json.pretty ++ "\n").toUTF8).2 = none) :
    o.run parse wording files out = .finished
      ⟨(json.pretty ++ "\n").toUTF8, none, files, ending⟩ := by
  obtain ⟨s, hs, rfl, hformat⟩ := h.settings
  have hloaded := Options.sources_eq_of_single h.inputs h.folders htext
  have hrun := run_eq_of_sources parse out h.serve hs hloaded (List.cons_ne_nil _ _)
  have hreport : Report.renderJson ((Analyzer.mk parse s.limits).reports [⟨p, text⟩]) =
        json.pretty ∧
      Ending.ofReports ((Analyzer.mk parse s.limits).reports [⟨p, text⟩]) = ending := by
    unfold Analyzer.reports
    rw [List.map_singleton, Analyzer.report]
    cases ha : (Analyzer.mk parse s.limits).analyze text with
    | ok trace =>
        rw [ha] at hsingle
        cases hsingle
        exact ⟨rfl, rfl⟩
    | error cause =>
        rw [ha] at hsingle
        cases hsingle
        exact ⟨rfl, rfl⟩
  have htake : out.take (json.pretty ++ "\n").toUTF8 = ((json.pretty ++ "\n").toUTF8, none) :=
    Sink.take_eq_self hout
  rw [hrun, h.output, hformat, Format.render, hreport.1, hreport.2]
  unfold deliver
  rw [htake]
  rfl

/-- **All ways to analyze a text agree.** A service answers the same whether it is sent the text,
whatever path, files and default there are besides, or the path of a file with the text, or neither
while that file is its default.  A run over the file with the same limits prints one value, which is
told from its text, if its output takes all that is printed.  The answer is a success exactly if the
run succeeds, and its data is then the value that the run prints, up to the order of keys; otherwise
its message ends with the error in the report that the run prints before it fails. -/
theorem analyses_agree (parse : Parser) (wording : Wording) (limits : Limits) {files : Store}
    {p text : String} (htext : files.readText? p = .ok text) :
    ∃ response : Response,
      (∀ (files' : Store) (default path : Option String) (raw : Option Json) (line : List Char),
        Request.read? line = some (.analysis raw) → Service.Asks raw (some text) path →
          (Service.mk ⟨parse, limits⟩ default wording).respond files' line = response) ∧
      (∀ (default : Option String) (raw : Option Json) (line : List Char),
        Request.read? line = some (.analysis raw) → Service.Asks raw none (some p) →
          (Service.mk ⟨parse, limits⟩ default wording).respond files line = response) ∧
      (∀ (raw : Option Json) (line : List Char),
        Request.read? line = some (.analysis raw) → Service.Asks raw none none →
          (Service.mk ⟨parse, limits⟩ (some p) wording).respond files line = response) ∧
      ∃ (json : Json) (ending : Ending),
        (∀ (args : List String) (o : Options) (out : Sink), Options.read args = .ok o →
          o.PrintsOnly wording files p limits →
          (out.take (json.pretty ++ "\n").toUTF8).2 = none →
            run parse wording files out args =
              .ok (.finished ⟨(json.pretty ++ "\n").toUTF8, none, files, ending⟩)) ∧
        (json.Exact ∧ ∀ json' : Json, json'.Exact → json'.pretty = json.pretty → json' = json) ∧
        ((∃ data, response = .success data) ↔ ending.exit = 0) ∧
        (∀ data, response = .success data → json = data ∧ data.Reordered data.sorted ∧
          response.toJson = .obj [("status", .str "success"), ("data", data.sorted)]) ∧
        ∀ message, response = .error message → ∃ cause,
          message = "Failed to parse code: " ++ cause ∧ ending.exit = 1 ∧
            json = .obj [("file", .str p), ("trace", .null), ("error", .str cause)] := by
  let a : Analyzer := ⟨parse, limits⟩
  have hread : Service.readSource files p = .ok text := by rw [Service.readSource, htext]
  refine ⟨.ofAnalysis (a.analyze text), ?_, ?_, ?_, (Report.single p (a.analyze text)).1,
    (Report.single p (a.analyze text)).2, ?_, ?_, ?_⟩
  · intro files' default path raw line hline hasks
    exact Service.respond_eq_ofAnalysis hline hasks rfl
  · intro default raw line hline hasks
    exact Service.respond_eq_ofAnalysis hline hasks hread
  · intro raw line hline hasks
    exact Service.respond_eq_ofAnalysis hline hasks hread
  · intro args o out hargs hsingle hout
    rw [run_eq_of_read parse wording files out hargs]
    exact congrArg _ (run_eq_of_printsOnly parse hsingle htext rfl hout)
  · have hexact := Report.exact_single p (a.analyze text)
    exact ⟨hexact, fun json' hexact' heq => Json.pretty_inj hexact' hexact heq⟩
  · cases a.analyze text with
    | ok trace =>
        refine ⟨⟨fun _ => rfl, fun _ => ⟨_, rfl⟩⟩, fun data hdata => ?_, nofun⟩
        cases hdata
        exact ⟨rfl, trace.keyed_toJson.reordered_sorted, rfl⟩
    | error cause =>
        refine ⟨⟨nofun, nofun⟩, nofun, fun message hmessage => ?_⟩
        cases hmessage
        exact ⟨cause.message, rfl, rfl, rfl⟩

/-- The declaration is sent to a service, is the default of another by its path from the root, and
is analyzed by a run. -/
theorem sampleFiles_agree :
    (Service.mk ⟨sampleParser, {}⟩ none sampleWording).respond {}
        "[\"ANALYZE\",[\"int x = 1;\",\"b.cpp\"]]".toList =
      .success sampleDeclaration.recursiveTrace.toJson ∧
    (Service.mk ⟨sampleParser, {}⟩ (some "/a.cpp") sampleWording).respond sampleFiles
        "[\"ANALYZE\",null]".toList = .success sampleDeclaration.recursiveTrace.toJson ∧
    run sampleParser sampleWording sampleFiles .endless ["-i", "/a.cpp"] = .ok (.finished
      ⟨(sampleDeclaration.recursiveTrace.toJson.pretty ++ "\n").toUTF8, none, sampleFiles,
        .success⟩) := by
  have htext : sampleFiles.readText? "/a.cpp" = .ok "int x = 1;" :=
    Entry.textOf_toUTF8 "int x = 1;"
  have hsent : Request.read? "[\"ANALYZE\",[\"int x = 1;\",\"b.cpp\"]]".toList =
      some (.analysis (some (.arr [.optStr "int x = 1;", .optStr "b.cpp"]))) := by cbv
  have hempty : Request.read? "[\"ANALYZE\",null]".toList = some (.analysis none) := by cbv
  obtain ⟨response, hsource, -, hdefault, json, ending, hruns, -, hexit, hdata, -⟩ :=
    analyses_agree sampleParser sampleWording {} htext
  have hresponse : response = .success sampleDeclaration.recursiveTrace.toJson := by
    rw [← hsource {} none _ _ _ hsent .items, Service.respond_eq_ofAnalysis hsent .items rfl,
      analyze_sampleDeclaration]
    rfl
  subst hresponse
  obtain ⟨rfl, -, -⟩ := hdata _ rfl
  obtain rfl : ending = .success := Ending.exit_eq_zero_iff.mp (hexit.mp ⟨_, rfl⟩)
  have hargs : Options.read ["-i", "/a.cpp"] = .ok { inputs := ["/a.cpp"] } := by decide
  have hsingle :
      Options.PrintsOnly { inputs := ["/a.cpp"] } sampleWording sampleFiles "/a.cpp" {} :=
    ⟨rfl, rfl, rfl, rfl, {}, rfl, rfl, rfl⟩
  exact ⟨hsource _ _ _ _ _ hsent .items, hdefault _ _ hempty .absent,
    hruns _ _ .endless hargs hsingle rfl⟩

end Walkthrough

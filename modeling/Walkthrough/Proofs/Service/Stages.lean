import Walkthrough.Proofs.Service.Params
import Walkthrough.Proofs.Service.Session

/-! # The stage at which a request fails

A text that is no blank is judged in stages: is it a request, is its command known, are the
parameters of an analysis accepted, can its source be read, can that be analyzed?  The first stage
that fails decides what the response begins with.

* `Service.Fails` says at which stage a text fails, under which condition, and with which chain of
  texts from the outermost context to the cause; `Service.respond_of_fails` is the response then.
* `Service.success_or_fails`: what fails at no stage has success.
* `RequestStage.eq_of_begins`: no message begins with the headings of two stages.
* `Service.judged_by_first_failing_stage` puts together what follows. -/

namespace Walkthrough

open Text

/-- The stages at which a request can fail, in their order. -/
inductive RequestStage where
  | decoding
  | command
  | params
  | source
  | analysis
deriving DecidableEq, Repr

/-- What the message of a failure begins with. -/
def RequestStage.heading : RequestStage → String
  | decoding => "Invalid JSON format"
  | command => "Unknown command: "
  | params => "Invalid params for ANALYZE"
  | source => "Failed to read code file"
  | analysis => "Failed to parse code"

/-- The response is an error, and its message begins with the text. -/
def Response.Begins (heading : String) : Response → Prop
  | success _ => False
  | error message => heading.toList <+: message.toList

/-- The commands of a service. -/
def Service.commands : List String := ["PING", "ANALYZE", "SHUTDOWN"]

section Judgement

variable (s : Service) (files : Store)

/-- The text of a source that parameters ask for, wherever it comes from. -/
inductive Service.Obtains (params : Option Json) : String → Prop
  | sent {source : String} {path : Option String} (h : Service.Asks params (some source) path) :
      Obtains params source
  | read {path : Option String} {p source : String} (h : Service.Asks params none path)
      (hp : path.or s.defaultSource = some p) (hread : files.readText? p = .ok source) :
      Obtains params source

/-- A text fails at a stage, with the texts from the outermost context to the cause. -/
inductive Service.Fails (text : List Char) : RequestStage → List String → Prop
  | decoding (h : Request.read? text = none) :
      Fails text .decoding ["Invalid JSON format", s.wording.request text]
  | command {command : String} {params : Option Json}
      (h : Request.read? text = some ⟨command, params⟩) (hc : command ∉ Service.commands) :
      Fails text .command ["Unknown command: " ++ command]
  | params {j : Json} {cause : ParamsError} (h : Request.read? text = some ⟨"ANALYZE", some j⟩)
      (hno : ∀ source path, ¬ Service.Asks (some j) source path)
      (hcause : AnalysisParams.ofJson j = .error cause) :
      Fails text .params ["Invalid params for ANALYZE", cause.message]
  | unnamed {params : Option Json} (h : Request.read? text = some ⟨"ANALYZE", params⟩)
      (hasks : Service.Asks params none none) (hdefault : s.defaultSource = none) :
      Fails text .source
        ["Failed to read code file: no source given and no default_source configured"]
  | unreadable {params : Option Json} {path : Option String} {p : String} {cause : FileError}
      (h : Request.read? text = some ⟨"ANALYZE", params⟩) (hasks : Service.Asks params none path)
      (hp : path.or s.defaultSource = some p) (hread : files.readText? p = .error cause) :
      Fails text .source ["Failed to read code file " ++ p, cause.message]
  | analysis {params : Option Json} {source : String} {cause : AnalysisError}
      (h : Request.read? text = some ⟨"ANALYZE", params⟩) (hsource : s.Obtains files params source)
      (hcause : s.analyzer.analyze source = .error cause) :
      Fails text .analysis ["Failed to parse code", cause.message]

end Judgement

/-! ### Requests -/

namespace Request

theorem present_bind_present (j : Json) : (present j).bind present = present j := by
  cases j <;> rfl

theorem params_of_read? {text : List Char} {r : Request} (h : read? text = some r) :
    r.params.bind present = r.params := by
  have hobject {cs : List Char} {r : Request} {rest : List Char}
      (h : objectAt cs = some (r, rest)) : r.params.bind present = r.params := by
    obtain ⟨⟨found, _⟩, -, h⟩ := Option.bind_eq_some_iff.mp h
    obtain ⟨request, hrequest, h⟩ := Option.bind_eq_some_iff.mp h
    cases h
    obtain ⟨command, -, rfl⟩ := Option.map_eq_some_iff.mp hrequest
    cases found.params with
    | none => rfl
    | some j => exact present_bind_present j
  have harray {cs : List Char} {r : Request} {rest : List Char}
      (h : arrayAt cs = some (r, rest)) : r.params.bind present = r.params := by
    obtain ⟨⟨command, rest'⟩, -, h⟩ := Option.bind_eq_some_iff.mp h
    simp only at h
    split at h
    · obtain ⟨⟨params, rest''⟩, -, h⟩ := Option.bind_eq_some_iff.mp h
      simp only at h
      split at h
      · cases h
        exact present_bind_present params
      · cases h
    · cases h
  have hend {request : Request} {rest : List Char}
      (h : (if (Json.dropBlanks rest).isEmpty then some request else none) = some r) :
      request = r := by
    split at h
    · exact Option.some.inj h
    · cases h
  rw [read?] at h
  split at h
  · obtain ⟨⟨request, rest⟩, hrequest, h⟩ := Option.bind_eq_some_iff.mp h
    obtain rfl := hend h
    exact hobject hrequest
  · obtain ⟨⟨request, rest⟩, hrequest, h⟩ := Option.bind_eq_some_iff.mp h
    obtain rfl := hend h
    exact harray hrequest
  · cases h

end Request

namespace Service

variable {s : Service} {files : Store}

/-! ### Sources -/

theorem sourceOf_named {path : Option String} {p : String} (h : path.or s.defaultSource = some p) :
    s.sourceOf files ⟨none, path⟩ = readSource files p := by
  unfold sourceOf
  cases path with
  | none =>
      rw [Option.none_or] at h
      rw [h]
  | some q =>
      cases h
      rfl

theorem sourceOf_unnamed (h : s.defaultSource = none) :
    s.sourceOf files ⟨none, none⟩ = .error .noSource := by
  unfold sourceOf
  rw [h]

theorem obtains_iff {params : Option Json} (hparams : params.bind Request.present = params)
    {source : String} : s.Obtains files params source ↔
      ∃ p, paramsOf params = .ok p ∧ s.sourceOf files p = .ok source := by
  constructor
  · rintro (h | ⟨h, hp, hread⟩)
    · exact ⟨_, hparams ▸ asks_iff.mp h, rfl⟩
    · refine ⟨_, hparams ▸ asks_iff.mp h, ?_⟩
      rw [sourceOf_named hp, readSource, hread]
  · rintro ⟨⟨source', path⟩, hp, hsource⟩
    have hasks : Asks params source' path := asks_iff.mpr (hparams.symm ▸ hp)
    cases source' with
    | some t =>
        cases hsource
        exact .sent hasks
    | none =>
        cases hn : path.or s.defaultSource with
        | none =>
            obtain ⟨rfl, hdefault⟩ := Option.or_eq_none_iff.mp hn
            rw [sourceOf_unnamed hdefault] at hsource
            cases hsource
        | some p =>
            rw [sourceOf_named hn, readSource] at hsource
            cases hread : files.readText? p with
            | error cause =>
                rw [hread] at hsource
                cases hsource
            | ok text =>
                rw [hread] at hsource
                cases hsource
                exact .read hasks hn hread

/-! ### Answers -/

theorem handle_of_read? {text : List Char} {r : Request} (h : Request.read? text = some r) :
    s.handle files text = s.perform files r := by
  rw [handle, h]

theorem respond_of_ok {text : List Char} {data : Json} (h : s.handle files text = .ok data) :
    s.respond files text = .success data := by
  rw [respond, h]

theorem respond_of_error {text : List Char} {e : ServiceError}
    (h : s.handle files text = .error e) : s.respond files text = .ofChain e.chain := by
  rw [respond, h]

theorem respond_of_analyze_ok {text : List Char} {params : Option Json} {data : Json}
    (h : Request.read? text = some ⟨"ANALYZE", params⟩) (ha : s.analyze files params = .ok data) :
    s.respond files text = .success data :=
  respond_of_ok ((handle_of_read? h).trans ha)

theorem respond_of_analyze_error {text : List Char} {params : Option Json} {e : ServiceError}
    (h : Request.read? text = some ⟨"ANALYZE", params⟩) (ha : s.analyze files params = .error e) :
    s.respond files text = .ofChain e.chain :=
  respond_of_error ((handle_of_read? h).trans ha)

theorem analyze_of_params_error {params : Option Json} {e : ServiceError}
    (h : paramsOf params = .error e) : s.analyze files params = .error e := by
  rw [analyze, h]
  rfl

theorem analyze_of_source_error {params : Option Json} {p : AnalysisParams} {e : ServiceError}
    (hp : paramsOf params = .ok p) (h : s.sourceOf files p = .error e) :
    s.analyze files params = .error e := by
  rw [analyze, hp]
  change (s.sourceOf files p).bind _ = _
  rw [h]
  rfl

theorem analyze_of_obtains {params : Option Json}
    (hparams : params.bind Request.present = params) {source : String}
    (h : s.Obtains files params source) : s.analyze files params =
      match s.analyzer.analyze source with
      | .ok trace => .ok trace.toJson
      | .error cause => .error (.analysis cause) := by
  obtain ⟨p, hp, hsource⟩ := (obtains_iff hparams).mp h
  rw [analyze, hp]
  change (s.sourceOf files p).bind _ = _
  rw [hsource]
  rfl

/-- **A text that fails gets its chain of causes.** -/
theorem respond_of_fails {chain : List String} {text : List Char} {stage : RequestStage}
    (h : s.Fails files text stage chain) :
    s.respond files text = .ofChain chain := by
  cases h with
  | decoding h =>
      have hhandle : s.handle files text = .error (.invalidRequest (s.wording.request text)) := by
        rw [handle, h]
      exact respond_of_error hhandle
  | @command command params h hc =>
      have hperform : s.perform files ⟨command, params⟩ = .error (.unknownCommand command) := by
        simp only [commands, List.mem_cons, List.not_mem_nil, or_false, not_or] at hc
        rw [perform, if_neg hc.1, if_neg hc.2.1, if_neg hc.2.2]
      exact respond_of_error ((handle_of_read? h).trans hperform)
  | @params j cause h hno hcause =>
      have hparams : paramsOf (some j) = .error (.invalidParams cause) := by rw [paramsOf, hcause]
      exact respond_of_analyze_error h (analyze_of_params_error hparams)
  | @unnamed params h hasks hdefault =>
      have hpresent : params.bind Request.present = params := Request.params_of_read? h
      have hparams : paramsOf params = .ok ⟨none, none⟩ := hpresent ▸ asks_iff.mp hasks
      exact respond_of_analyze_error h
        (analyze_of_source_error hparams (sourceOf_unnamed hdefault))
  | @unreadable params path p cause h hasks hp hread =>
      have hpresent : params.bind Request.present = params := Request.params_of_read? h
      have hparams : paramsOf params = .ok ⟨none, path⟩ := hpresent ▸ asks_iff.mp hasks
      have hsource : s.sourceOf files ⟨none, path⟩ = .error (.unreadable p cause) := by
        rw [sourceOf_named hp, readSource, hread]
      exact respond_of_analyze_error h (analyze_of_source_error hparams hsource)
  | @analysis params source cause h hsource hcause =>
      have hpresent : params.bind Request.present = params := Request.params_of_read? h
      have hanalyze := analyze_of_obtains hpresent hsource
      rw [hcause] at hanalyze
      exact respond_of_analyze_error h hanalyze

theorem exists_fails_of_not_asks {text : List Char} {j : Json}
    (h : Request.read? text = some ⟨"ANALYZE", some j⟩)
    (hno : ∀ source path, ¬ Asks (some j) source path) :
    ∃ chain, s.Fails files text .params chain := by
  cases hj : AnalysisParams.ofJson j with
  | error cause => exact ⟨_, .params h hno hj⟩
  | ok p =>
      have hp : paramsOf ((some j).bind Request.present) = .ok p := by
        rw [Request.params_of_read? h]
        exact paramsOf_eq_ok_iff.mpr hj
      exact absurd (asks_iff.mpr hp) (hno _ _)

theorem exists_fails_of_no_source {text : List Char} {params : Option Json}
    {path : Option String} (h : Request.read? text = some ⟨"ANALYZE", params⟩)
    (hasks : Asks params none path)
    (hno : ∀ p source, path.or s.defaultSource = some p → files.readText? p ≠ .ok source) :
    ∃ chain, s.Fails files text .source chain := by
  cases hp : path.or s.defaultSource with
  | none =>
      obtain ⟨rfl, hdefault⟩ := Option.or_eq_none_iff.mp hp
      exact ⟨_, .unnamed h hasks hdefault⟩
  | some p =>
      cases hread : files.readText? p with
      | ok source => exact absurd hread (hno p source hp)
      | error cause => exact ⟨_, .unreadable h hasks hp hread⟩

/-- **What fails at no stage has success.** -/
theorem success_or_fails (text : List Char) :
    (∃ data, s.respond files text = .success data) ∨
      ∃ stage chain, s.Fails files text stage chain := by
  cases hread : Request.read? text with
  | none => exact .inr ⟨_, _, .decoding hread⟩
  | some r =>
      obtain ⟨command, params⟩ := r
      by_cases hc : command ∈ commands
      swap
      · exact .inr ⟨_, _, .command hread hc⟩
      simp only [commands, List.mem_cons, List.not_mem_nil, or_false] at hc
      rcases hc with rfl | rfl | rfl
      · exact .inl ⟨_, respond_of_ok ((handle_of_read? hread).trans rfl)⟩
      · by_cases hasks : ∃ source path, Asks params source path
        · obtain ⟨source, path, hasks⟩ := hasks
          by_cases hobtains : ∃ source, s.Obtains files params source
          · obtain ⟨source, hobtains⟩ := hobtains
            cases hanalyze : s.analyzer.analyze source with
            | error cause => exact .inr ⟨_, _, .analysis hread hobtains hanalyze⟩
            | ok trace =>
                have hperform := analyze_of_obtains (Request.params_of_read? hread) hobtains
                rw [hanalyze] at hperform
                exact .inl ⟨_, respond_of_analyze_ok hread hperform⟩
          · cases source with
            | some source => exact absurd ⟨source, .sent hasks⟩ hobtains
            | none =>
                refine .inr ⟨_, exists_fails_of_no_source hread hasks fun p source hp hsource => ?_⟩
                exact hobtains ⟨source, .read hasks hp hsource⟩
        · cases params with
          | none => exact absurd ⟨none, none, .absent⟩ hasks
          | some j =>
              refine .inr ⟨_, exists_fails_of_not_asks hread fun source path h => ?_⟩
              exact hasks ⟨source, path, h⟩
      · exact .inl ⟨_, respond_of_ok ((handle_of_read? hread).trans rfl)⟩

end Service

/-! ### Messages -/

theorem isPrefix_chainMessage (first : String) (rest : List String) :
    first.toList <+: (chainMessage (first :: rest)).toList := by
  cases rest with
  | nil =>
      have hfirst : chainMessage [first] = first := String.intercalate_singleton
      exact hfirst.symm ▸ List.prefix_rfl
  | cons second rest =>
      rw [chainMessage, String.intercalate_cons_cons, String.toList_append, String.toList_append,
        List.append_assoc]
      exact List.prefix_append _ _

/-- No message begins with the headings of two stages. -/
theorem RequestStage.eq_of_begins {stage stage' : RequestStage} {r : Response}
    (h : r.Begins stage.heading) (h' : r.Begins stage'.heading) : stage = stage' := by
  have hne {a b : RequestStage} (hab : a.heading.toList <+: b.heading.toList) : a = b := by
    cases a <;> cases b <;> simp [heading] at hab ⊢
  cases r with
  | success data => exact absurd h id
  | error message =>
      rcases List.prefix_or_prefix_of_prefix h h' with hab | hba
      · exact hne hab
      · exact (hne hba).symm

namespace Service

variable {s : Service} {files : Store}

theorem Fails.begins {chain : List String} {text : List Char} {stage : RequestStage}
    (h : s.Fails files text stage chain) :
    (s.respond files text).Begins stage.heading := by
  rw [respond_of_fails h]
  cases h with
  | decoding h => exact isPrefix_chainMessage _ _
  | command h hc =>
      refine List.IsPrefix.trans ?_ (isPrefix_chainMessage _ _)
      rw [String.toList_append]
      exact List.prefix_append _ _
  | params h hno hcause => exact isPrefix_chainMessage _ _
  | unnamed h hasks hdefault => exact List.IsPrefix.trans (by decide) (isPrefix_chainMessage _ _)
  | unreadable h hasks hp hread =>
      refine List.IsPrefix.trans ?_ (isPrefix_chainMessage _ _)
      rw [String.toList_append]
      exact List.IsPrefix.trans (by decide) (List.prefix_append _ _)
  | analysis h hsource hcause => exact isPrefix_chainMessage _ _

theorem exists_fails_of_error {text : List Char} {message : String}
    (h : s.respond files text = .error message) :
    ∃ stage chain, s.Fails files text stage chain ∧
      message = String.intercalate ": " chain := by
  rcases success_or_fails text with ⟨data, hsuccess⟩ | ⟨stage, chain, hfails⟩
  · rw [h] at hsuccess
    cases hsuccess
  · rw [respond_of_fails hfails] at h
    cases h
    exact ⟨stage, chain, hfails, rfl⟩

/-- **A response begins with the heading of the stage at which the text fails.** -/
theorem begins_iff {text : List Char} {stage : RequestStage} :
    (s.respond files text).Begins stage.heading ↔
      ∃ chain, s.Fails files text stage chain := by
  constructor
  · intro h
    rcases success_or_fails text with ⟨data, hsuccess⟩ | ⟨stage', chain, hfails⟩
    · rw [hsuccess] at h
      exact absurd h id
    · obtain rfl := RequestStage.eq_of_begins h hfails.begins
      exact ⟨chain, hfails⟩
  · rintro ⟨chain, h⟩
    exact h.begins

/-! ### What follows -/

theorem begins_decoding_iff {text : List Char} :
    (s.respond files text).Begins "Invalid JSON format" ↔ Request.read? text = none := by
  refine (@begins_iff s files text .decoding).trans ⟨?_, fun h => ⟨_, .decoding h⟩⟩
  rintro ⟨chain, hfails⟩
  cases hfails with
  | decoding h => exact h

theorem begins_command_iff {text : List Char} :
    (s.respond files text).Begins "Unknown command: " ↔
      ∃ command params, Request.read? text = some ⟨command, params⟩ ∧ command ∉ commands := by
  refine (@begins_iff s files text .command).trans ⟨?_, ?_⟩
  · rintro ⟨chain, hfails⟩
    cases hfails with
    | command h hc => exact ⟨_, _, h, hc⟩
  · rintro ⟨command, params, h, hc⟩
    exact ⟨_, .command h hc⟩

theorem begins_params_iff {text : List Char} :
    (s.respond files text).Begins "Invalid params for ANALYZE" ↔
      ∃ j, Request.read? text = some ⟨"ANALYZE", some j⟩ ∧
        ∀ source path, ¬ Asks (some j) source path := by
  refine (@begins_iff s files text .params).trans ⟨?_, ?_⟩
  · rintro ⟨chain, hfails⟩
    cases hfails with
    | params h hno hcause => exact ⟨_, h, hno⟩
  · rintro ⟨j, h, hno⟩
    exact exists_fails_of_not_asks h hno

theorem begins_source_iff {text : List Char} :
    (s.respond files text).Begins "Failed to read code file" ↔
      ∃ params path, Request.read? text = some ⟨"ANALYZE", params⟩ ∧ Asks params none path ∧
        ∀ p source, path.or s.defaultSource = some p → files.readText? p ≠ .ok source := by
  refine (@begins_iff s files text .source).trans ⟨?_, ?_⟩
  · rintro ⟨chain, hfails⟩
    cases hfails with
    | unnamed h hasks hdefault =>
        refine ⟨_, _, h, hasks, fun p source hp => ?_⟩
        rw [Option.none_or, hdefault] at hp
        cases hp
    | unreadable h hasks hp hread =>
        refine ⟨_, _, h, hasks, fun p source hp' => ?_⟩
        rw [hp] at hp'
        cases hp'
        rw [hread]
        exact nofun
  · rintro ⟨params, path, h, hasks, hno⟩
    exact exists_fails_of_no_source h hasks hno

theorem begins_analysis_iff {text : List Char} :
    (s.respond files text).Begins "Failed to parse code" ↔
      ∃ params source cause, Request.read? text = some ⟨"ANALYZE", params⟩ ∧
        s.Obtains files params source ∧ s.analyzer.analyze source = .error cause := by
  refine (@begins_iff s files text .analysis).trans ⟨?_, ?_⟩
  · rintro ⟨chain, hfails⟩
    cases hfails with
    | analysis h hsource hcause => exact ⟨_, _, _, h, hsource, hcause⟩
  · rintro ⟨params, source, cause, h, hsource, hcause⟩
    exact ⟨_, .analysis h hsource hcause⟩

theorem exists_error_iff {text : List Char} :
    (∃ message, s.respond files text = .error message) ↔
      ∃! stage : RequestStage, (s.respond files text).Begins stage.heading := by
  constructor
  · rintro ⟨message, hr⟩
    obtain ⟨stage, chain, hfails, -⟩ := exists_fails_of_error hr
    exact ⟨stage, hfails.begins, fun stage' h => RequestStage.eq_of_begins h hfails.begins⟩
  · rintro ⟨stage, h, -⟩
    obtain ⟨chain, hfails⟩ := begins_iff.mp h
    exact ⟨_, respond_of_fails hfails⟩

/-- **Every request is judged by the first stage that it fails**, and the message says which.  The
response to a line with a text is an error that begins with the heading of exactly one stage, or a
success.  It begins with each heading under one condition: the text is no request; its command is
unknown, and then the command follows; the parameters of an analysis name nothing that can be
asked for; no source text is sent, and there is no path, nor a default, that can be read as text;
or a source text is there and its analysis fails.  The other commands have success whatever their
parameters are.  A message is the chain of its causes. -/
theorem judged_by_first_failing_stage (s : Service) (files : Store) {line : List UInt8}
    {text : List Char} (htext : trimmed? line = some text) (hne : text ≠ []) :
    ∃ r : Response,
    s.line files line = (if AsksShutdown text then .farewell r else .answer r) ∧
    (r.Begins "Invalid JSON format" ↔ Request.read? text = none) ∧
    (r.Begins "Unknown command: " ↔
      ∃ command params, Request.read? text = some ⟨command, params⟩ ∧ command ∉ commands) ∧
    (∀ command params, Request.read? text = some ⟨command, params⟩ → command ∉ commands →
      r = .error ("Unknown command: " ++ command)) ∧
    (r.Begins "Invalid params for ANALYZE" ↔
      ∃ j, Request.read? text = some ⟨"ANALYZE", some j⟩ ∧
        ∀ source path, ¬ Asks (some j) source path) ∧
    (r.Begins "Failed to read code file" ↔
      ∃ params path, Request.read? text = some ⟨"ANALYZE", params⟩ ∧ Asks params none path ∧
        ∀ p source, path.or s.defaultSource = some p → files.readText? p ≠ .ok source) ∧
    (r.Begins "Failed to parse code" ↔
      ∃ params source cause, Request.read? text = some ⟨"ANALYZE", params⟩ ∧
        s.Obtains files params source ∧ s.analyzer.analyze source = .error cause) ∧
    ((∃ message, r = .error message) ↔ ∃! stage : RequestStage, r.Begins stage.heading) ∧
    (∀ command params, Request.read? text = some ⟨command, params⟩ →
      command = "PING" ∨ command = "SHUTDOWN" → ∃ data, r = .success data) ∧
    ∀ message, r = .error message → ∃ stage chain,
      s.Fails files text stage chain ∧ message = String.intercalate ": " chain := by
  refine ⟨s.respond files text, ?_, begins_decoding_iff, begins_command_iff, ?_,
    begins_params_iff, begins_source_iff, begins_analysis_iff, exists_error_iff, ?_,
    fun message => exists_fails_of_error⟩
  · rw [line_eq_outcome, htext]
    exact s.textLine_eq files hne
  · intro command params h hc
    exact respond_of_fails (.command h hc)
  · rintro command params h (rfl | rfl)
    · exact ⟨_, respond_of_ok ((handle_of_read? h).trans rfl)⟩
    · exact ⟨_, respond_of_ok ((handle_of_read? h).trans rfl)⟩

/-- A line that asks for an analysis of nothing, with blanks around. -/
def sampleLine : List Char := " [\"ANALYZE\",null]\r".toList

/-- A service that parses nothing and has no default source. -/
def sampleService : Service where
  analyzer := ⟨fun _ => .error .noTree, {}⟩
  defaultSource := none
  wording := ⟨fun _ => "expected value", fun _ => "expected a table"⟩

/-- Without a default source, a request for the analysis of nothing fails at its source. -/
theorem sampleLine_judged :
    trimmed? (encode sampleLine) = some (trim sampleLine) ∧ trim sampleLine ≠ [] ∧
      ∃ r, sampleService.line {} (encode sampleLine) = .answer r ∧
        r.Begins "Failed to read code file" := by
  have htext : trimmed? (encode sampleLine) = some (trim sampleLine) := by
    rw [trimmed?, decode?_encode, Option.map_some]
  have hne : trim sampleLine ≠ [] := by decide
  have hrequest : Request.read? (trim sampleLine) = some ⟨"ANALYZE", none⟩ := by cbv
  have hgo : ¬ AsksShutdown (trim sampleLine) := by
    rintro ⟨r, hr, hcommand⟩
    cases hrequest.symm.trans hr
    simp at hcommand
  obtain ⟨r, hline, -, -, -, -, hsource, -⟩ :=
    judged_by_first_failing_stage sampleService {} htext hne
  rw [if_neg hgo] at hline
  refine ⟨htext, hne, r, hline, hsource.mpr ⟨none, none, hrequest, .absent, ?_⟩⟩
  intro p source hpath
  cases hpath

end Service

end Walkthrough

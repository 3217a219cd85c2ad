import Walkthrough.Command.Run
import Walkthrough.Proofs.Command.Arguments
import Walkthrough.Proofs.Except
import Walkthrough.Proofs.Files.Sources
import Walkthrough.Proofs.Files.Writing
import Walkthrough.Proofs.Walk.Bounds
import Walkthrough.Recording

/-! # Runs are all or nothing

A run without a service either loads all that it was asked for, analyzes every source by itself and
delivers all reports in one text, or leaves nothing behind.  What it delivers may break off.

* `Options.Blocked` are the reasons for which nothing is analyzed, `Options.Gathers` the sources
  that are analyzed otherwise; `Options.blocked_iff` and `Options.sources_eq_ok_iff` tie them to
  the steps of a run.
* `Outcome.LeavesNothing`, `Outcome.Delivers` and `Outcome.Breaks` are the things that become of a
  run; `delivers_or_breaks` is what its delivery comes to.
* `run_eq_failed_of_blocked` and `run_eq_of_sources` are the two ways a run goes, and
  `Ending.ofReports_eq_success_iff` says when nothing went wrong.
* `run_delivers_all_or_nothing` puts them together. -/

namespace Walkthrough

/-- Why nothing is analyzed: the settings cannot be read or are invalid, a file cannot be read as
text, a folder cannot be loaded, or there is no source at all. -/
inductive Options.Blocked (o : Options) (files : Store) : Prop
  | unreadable {path : String} {cause : FileError} (hpath : o.settings = some path)
      (h : files.readText? path = .error cause)
  | invalid {path text : String} (hpath : o.settings = some path)
      (htext : files.readText? path = .ok text) (h : Settings.ofDocument? text = none)
  | input {path : String} {cause : FileError} (hpath : path ∈ o.inputs)
      (h : files.readText? path = .error cause)
  | folder {dir : String} {cause : LoadError} (hdir : dir ∈ o.folders)
      (h : files.loadFolder dir = .error cause)
  | empty (hinputs : o.inputs = []) (h : ∀ dir ∈ o.folders, files.loadFolder dir = .ok [])

/-- The sources that options name: the files in the order given, then those of each folder in the
order of their paths, folder by folder. -/
def Options.Gathers (o : Options) (files : Store) (sources : List Source) : Prop :=
  ∃ (named : List Source) (found : List (List Source)),
    List.Forall₂ (fun path x => x.path = path ∧ files.readText? path = .ok x.content)
      o.inputs named ∧
    List.Forall₂ (fun dir xs => files.loadFolder dir = .ok xs ∧
      xs.Pairwise fun a b => a.path < b.path) o.folders found ∧
    sources = named ++ found.flatten

namespace Outcome

/-- Nothing was printed, and all files are as they were. -/
structure LeavesNothing (outcome : Outcome) (files : Store) : Prop where
  printed : outcome.printed = .empty
  written : outcome.written = none
  files : outcome.files = files

/-- A text was delivered whole: printed with a newline behind it, or put into the file that a path
leads to.  All other places are as they were. -/
inductive Delivers (outcome : Outcome) (files : Store) (out : Sink) (text : String) :
    Option String → Prop
  | printed (htaken : out.take (text ++ "\n").toUTF8 = (outcome.printed, none))
      (hprinted : outcome.printed = (text ++ "\n").toUTF8) (hwritten : outcome.written = none)
      (hfiles : outcome.files = files) : Delivers outcome files out text none
  | written {path : String} (hwrite : files.write path text.toUTF8 = .ok (outcome.files, none))
      (hfile : files.Rewritten outcome.files path text.toUTF8)
      (hprinted : outcome.printed = .empty) (hwritten : outcome.written = some path) :
      Delivers outcome files out text (some path)

/-- The delivery of a text broke off: the file could not be opened, or it holds a beginning of the
text, or a beginning was printed. -/
inductive Breaks (outcome : Outcome) (files : Store) (out : Sink) (text : String) :
    Option String → Prop
  | unopened {path : String} {cause : FileError}
      (hwrite : files.write path text.toUTF8 = .error cause)
      (hend : outcome.ending = .failure (.unwritable path cause))
      (hnothing : outcome.LeavesNothing files) : Breaks outcome files out text (some path)
  | file {path : String} {cause : FileError} {taken rest : ByteArray}
      (hwrite : files.write path text.toUTF8 = .ok (outcome.files, some cause))
      (hbegins : text.toUTF8 = taken ++ rest) (hfile : files.Rewritten outcome.files path taken)
      (hprinted : outcome.printed = .empty)
      (hend : outcome.ending = .failure (.unwritable path cause)) :
      Breaks outcome files out text (some path)
  | output {cause : FileError} {rest : ByteArray}
      (htaken : out.take (text ++ "\n").toUTF8 = (outcome.printed, some cause))
      (hbegins : (text ++ "\n").toUTF8 = outcome.printed ++ rest) (hfiles : outcome.files = files)
      (hend : outcome.ending = .panic cause) : Breaks outcome files out text none

/-- A run that breaks off fails if it writes to a file, and panics if it prints. -/
theorem Breaks.exit_eq {outcome : Outcome} {files : Store} {out : Sink} {text : String}
    {output : Option String} (h : outcome.Breaks files out text output) :
    outcome.ending.exit = if output.isSome then 1 else 101 := by
  cases h with
  | unopened _ hend _ => rw [hend]; rfl
  | file _ _ _ _ hend => rw [hend]; rfl
  | output _ _ _ hend => rw [hend]; rfl

end Outcome

theorem Ending.exit_eq_zero_iff {ending : Ending} : ending.exit = 0 ↔ ending = success := by
  cases ending <;> simp [exit]

/-! ### Loading the sources -/

namespace Store

variable {files : Store} {wording : Wording}

theorem loadFile_eq_ok_iff {path : String} {x : Source} :
    files.loadFile path = .ok x ↔ x.path = path ∧ files.readText? path = .ok x.content := by
  unfold loadFile
  cases h : files.readText? path with
  | error cause => simp
  | ok text => cases x; simp [eq_comm]

theorem exists_loadFile_eq_error_iff {path : String} :
    (∃ e, files.loadFile path = .error e) ↔ ∃ cause, files.readText? path = .error cause := by
  unfold loadFile
  cases files.readText? path <;> simp

theorem exists_settings_eq_error_iff {path? : Option String} :
    (∃ e, files.settings wording path? = .error e) ↔ ∃ path, path? = some path ∧
      ((∃ cause, files.readText? path = .error cause) ∨
        ∃ text, files.readText? path = .ok text ∧ Settings.ofDocument? text = none) := by
  cases path? with
  | none => simp [settings]
  | some path =>
      cases htext : files.readText? path with
      | error cause => simp [settings, htext]
      | ok text => cases hdoc : Settings.ofDocument? text <;> simp [settings, htext, hdoc]

end Store

namespace Options

variable {o : Options} {files : Store} {wording : Wording}

theorem sources_eq_ok_iff {sources : List Source} :
    o.sources files = .ok sources ↔ o.Gathers files sources := by
  have hfolder : ∀ dir xs, files.loadFolder dir = .ok xs ↔
      files.loadFolder dir = .ok xs ∧ xs.Pairwise fun a b => a.path < b.path :=
    fun dir xs => ⟨fun h => ⟨h, Store.pairwise_lt_of_loadFolder h⟩, And.left⟩
  unfold Options.sources Gathers Store.loadFiles
  simp only [← Store.loadFile_eq_ok_iff, ← hfolder, ← mapM_eq_ok_iff, bind_eq_ok_iff]
  constructor
  · rintro ⟨named, hnamed, found, hfound, heq⟩
    exact ⟨named, found, hnamed, hfound, (Except.ok.inj heq).symm⟩
  · rintro ⟨named, found, hnamed, hfound, rfl⟩
    exact ⟨named, hnamed, found, hfound, rfl⟩

theorem sources_eq_of_single {p text : String} (hinputs : o.inputs = [p])
    (hfolders : o.folders = []) (htext : files.readText? p = .ok text) :
    o.sources files = .ok [⟨p, text⟩] := by
  refine sources_eq_ok_iff.mpr ⟨[⟨p, text⟩], [], ?_, ?_, rfl⟩
  · rw [hinputs]
    exact .cons ⟨rfl, htext⟩ .nil
  · rw [hfolders]
    exact .nil

theorem exists_sources_eq_error_iff :
    (∃ e, o.sources files = .error e) ↔
      (∃ path ∈ o.inputs, ∃ cause, files.readText? path = .error cause) ∨
        ∃ dir ∈ o.folders, ∃ cause, files.loadFolder dir = .error cause := by
  simp only [← Store.exists_loadFile_eq_error_iff, ← exists_mapM_eq_error_iff]
  unfold Options.sources Store.loadFiles
  cases o.inputs.mapM files.loadFile with
  | error e => simp [bind, Except.bind]
  | ok named =>
      cases o.folders.mapM files.loadFolder <;> simp [bind, Except.bind, pure, Except.pure]

theorem gathers_nil_iff :
    o.Gathers files [] ↔ o.inputs = [] ∧ ∀ dir ∈ o.folders, files.loadFolder dir = .ok [] := by
  constructor
  · rintro ⟨named, found, hnamed, hfound, hnil⟩
    obtain ⟨rfl, hflat⟩ := List.append_eq_nil_iff.mp hnil.symm
    refine ⟨List.forall₂_nil_right_iff.mp hnamed, fun dir hdir => ?_⟩
    obtain ⟨i, hi, rfl⟩ := List.mem_iff_getElem.mp hdir
    have hlen : i < found.length := hfound.length_eq ▸ hi
    have hempty : found[i] = [] := List.flatten_eq_nil_iff.mp hflat _ (List.getElem_mem hlen)
    have hload : files.loadFolder o.folders[i] = .ok found[i] :=
      ((List.forall₂_iff_get.mp hfound).2 i hi hlen).1
    rw [hload, hempty]
  · rintro ⟨hinputs, hfolders⟩
    refine ⟨[], o.folders.map fun _ => [], by simp [hinputs], ?_, by simp⟩
    rw [List.forall₂_map_right_iff, List.forall₂_same]
    exact fun dir hdir => ⟨hfolders dir hdir, .nil⟩

/-- The reasons for which nothing is analyzed are the failures of the first steps of a run. -/
theorem blocked_iff (wording : Wording) :
    o.Blocked files ↔ (∃ e, files.settings wording o.settings = .error e) ∨
      (∃ e, o.sources files = .error e) ∨ o.sources files = .ok [] := by
  rw [Store.exists_settings_eq_error_iff, exists_sources_eq_error_iff, sources_eq_ok_iff,
    gathers_nil_iff]
  constructor
  · rintro (⟨hpath, h⟩ | ⟨hpath, htext, h⟩ | ⟨hpath, h⟩ | ⟨hdir, h⟩ | ⟨hinputs, h⟩)
    · exact .inl ⟨_, hpath, .inl ⟨_, h⟩⟩
    · exact .inl ⟨_, hpath, .inr ⟨_, htext, h⟩⟩
    · exact .inr (.inl (.inl ⟨_, hpath, _, h⟩))
    · exact .inr (.inl (.inr ⟨_, hdir, _, h⟩))
    · exact .inr (.inr ⟨hinputs, h⟩)
  · rintro (⟨_, hpath, ⟨_, h⟩ | ⟨_, htext, h⟩⟩ | (⟨_, hpath, _, h⟩ | ⟨_, hdir, _, h⟩) |
      ⟨hinputs, h⟩)
    · exact .unreadable hpath h
    · exact .invalid hpath htext h
    · exact .input hpath h
    · exact .folder hdir h
    · exact .empty hinputs h

theorem not_blocked_of_sources {s : Settings} {sources : List Source}
    (hs : files.settings wording o.settings = .ok s) (hx : o.sources files = .ok sources)
    (hne : sources ≠ []) : ¬ o.Blocked files := by
  rw [blocked_iff wording, hs, hx]
  rintro (⟨e, he⟩ | ⟨e, he⟩ | hnil)
  · cases he
  · cases he
  · exact hne (Except.ok.inj hnil)

end Options

/-! ### Delivering the reports -/

theorem delivers_or_breaks (files : Store) (out : Sink) (output : Option String) (text : String)
    (ending : Ending) : let outcome := deliver files out output text ending
    outcome.Delivers files out text output ∧ outcome.ending = ending ∨
      outcome.Breaks files out text output := by
  intro outcome
  cases output with
  | none =>
      cases htake : out.take (text ++ "\n").toUTF8 with
      | mk printed fault =>
          have heq : outcome = ⟨printed, none, files, (fault.map .panic).getD ending⟩ := by
            simp only [outcome, deliver, htake]
          obtain ⟨⟨rest, hbegins⟩, hwhole⟩ := Sink.exists_append_of_take htake
          rw [heq]
          cases fault with
          | none =>
              obtain rfl := hwhole rfl
              exact .inl ⟨.printed htake rfl rfl rfl, rfl⟩
          | some cause => exact .inr (.output htake hbegins rfl rfl)
  | some path =>
      cases hwrite : files.write path text.toUTF8 with
      | error cause =>
          have heq : outcome = .failed files (.unwritable path cause) := by
            simp only [outcome, deliver, hwrite]
          rw [heq]
          exact .inr (.unopened hwrite rfl ⟨rfl, rfl, rfl⟩)
      | ok result =>
          obtain ⟨files', fault⟩ := result
          obtain ⟨names, taken, hnames, htake, rfl⟩ := Store.write_eq_ok_iff.mp hwrite
          obtain ⟨⟨rest, hbegins⟩, hwhole⟩ := Sink.exists_append_of_take htake
          have hfile := @Store.rewritten_put files path taken names hnames
          cases fault with
          | none =>
              have heq : outcome = ⟨.empty, some path, files.put names taken, ending⟩ := by
                simp only [outcome, deliver, hwrite]
              rw [heq]
              obtain rfl := hwhole rfl
              exact .inl ⟨.written hwrite hfile rfl rfl, rfl⟩
          | some cause =>
              have heq : outcome = ⟨.empty, some path, files.put names taken,
                  .failure (.unwritable path cause)⟩ := by
                simp only [outcome, deliver, hwrite]
              rw [heq]
              exact .inr (.file hwrite hbegins hfile rfl rfl)

theorem countP_error_reports (a : Analyzer) (sources : List Source) :
    (a.reports sources).countP (·.error.isSome) =
      sources.countP fun x => !(a.analyze x.content).isOk := by
  rw [Analyzer.reports, List.countP_map]
  refine List.countP_congr fun x _ => ?_
  rw [Function.comp_apply, Analyzer.report]
  cases a.analyze x.content <;> rfl

theorem Ending.ofReports_eq_success_iff (a : Analyzer) (sources : List Source) :
    ofReports (a.reports sources) = success ↔ ∀ x ∈ sources, (a.analyze x.content).isOk := by
  have hzero : ofReports (a.reports sources) = success ↔
      (a.reports sources).countP (·.error.isSome) = 0 := by
    unfold ofReports
    split <;> rename_i h <;> simp [h]
  rw [hzero, countP_error_reports, List.countP_eq_zero]
  simp only [Bool.not_eq_true', Bool.not_eq_false]

theorem Ending.ofReports_of_pos (a : Analyzer) (sources : List Source)
    (h : 0 < sources.countP fun x => !(a.analyze x.content).isOk) :
    ofReports (a.reports sources) =
      failure (.failures (sources.countP fun x => !(a.analyze x.content).isOk) sources.length) := by
  rw [← countP_error_reports] at h ⊢
  unfold ofReports
  split
  · rename_i hzero
    exact absurd hzero h.ne'
  · rename_i k hk
    rw [hk, Analyzer.reports, List.length_map]

section Running

variable {files : Store} {o : Options} {s : Settings} {sources : List Source}

theorem settingsOver_of_settings {wording : Wording} (hserve : o.serve = none)
    (h : files.settings wording o.settings = .ok s) :
    o.settingsOver wording files = .ok { s with format := o.format.getD s.format } := by
  rw [Options.settingsOver, h, hserve]
  rfl

theorem run_eq_failed_of_blocked (parse : Parser) (wording : Wording) (out : Sink)
    (hserve : o.serve = none) (h : o.Blocked files) :
    ∃ e, o.run parse wording files out = .finished (.failed files e) := by
  rw [Options.blocked_iff wording] at h
  unfold Options.run
  cases hs : files.settings wording o.settings with
  | error cause =>
      rw [Options.settingsOver, hs]
      exact ⟨_, rfl⟩
  | ok s =>
      rw [settingsOver_of_settings hserve hs, hserve]
      rcases h with ⟨e, he⟩ | ⟨e, he⟩ | hnil
      · cases hs.symm.trans he
      · rw [he]
        exact ⟨_, rfl⟩
      · rw [hnil]
        exact ⟨_, rfl⟩

theorem run_eq_of_sources (parse : Parser) {wording : Wording} (out : Sink)
    (hserve : o.serve = none) (hs : files.settings wording o.settings = .ok s)
    (hx : o.sources files = .ok sources) (hne : sources ≠ []) :
    let reports := (Analyzer.mk parse s.limits).reports sources
    o.run parse wording files out = .finished (deliver files out o.output
      ((o.format.getD s.format).render reports) (.ofReports reports)) := by
  obtain ⟨x, xs, rfl⟩ := List.exists_cons_of_ne_nil hne
  unfold Options.run
  rw [settingsOver_of_settings hserve hs, hserve, hx]
  rfl

theorem exists_sources_of_not_blocked (wording : Wording) (h : ¬ o.Blocked files) :
    ∃ s sources, files.settings wording o.settings = .ok s ∧ o.sources files = .ok sources ∧
      sources ≠ [] := by
  rw [Options.blocked_iff wording, not_or, not_or] at h
  obtain ⟨hsettings, hsources, hne⟩ := h
  cases hs : files.settings wording o.settings with
  | error cause => exact absurd ⟨cause, hs⟩ hsettings
  | ok s =>
      cases hx : o.sources files with
      | error e => exact absurd ⟨e, hx⟩ hsources
      | ok sources => exact ⟨s, sources, rfl, rfl, fun hnil => hne (hnil ▸ hx)⟩

theorem run_eq_of_read (parse : Parser) (wording : Wording) (files : Store) (out : Sink)
    {args : List String} (h : Options.read args = .ok o) :
    run parse wording files out args = .ok (o.run parse wording files out) := by
  rw [run, h]
  rfl

end Running

/-- **A run is all or nothing.** Accepted arguments give values to options, and unless a service is
asked for the run comes to an end.  If the settings, a file or a folder cannot be loaded, or there
is no source, it fails and leaves nothing.  Otherwise every source is analyzed by itself and all
reports are delivered in one text, in the format that is given or else set; the run succeeds exactly
if no analysis failed, and counts those that did.  If the delivery breaks off, the run fails, or
panics where it prints, and no other file is touched. -/
theorem run_delivers_all_or_nothing (parse : Parser) (wording : Wording) (files : Store)
    (out : Sink) {args : List String} {o : Options} (hargs : Options.read args = .ok o)
    (hserve : o.serve = none) :
    ∃ (items : List (OptionName × String)) (outcome : Outcome),
      Options.Given args items ∧ o.Holds items ∧
      run parse wording files out args = .ok (.finished outcome) ∧
      (o.Blocked files → outcome.ending.exit = 1 ∧ outcome.LeavesNothing files) ∧
      (¬ o.Blocked files → ∃ (s : Settings) (sources : List Source),
        files.settings wording o.settings = .ok s ∧ o.Gathers files sources ∧
        let a : Analyzer := ⟨parse, s.limits⟩
        let text := (o.format.getD s.format).render (sources.map a.report)
        let failed := sources.countP fun x => !(a.analyze x.content).isOk
        outcome.Delivers files out text o.output ∧
            (outcome.ending.exit = 0 ↔ ∀ x ∈ sources, (a.analyze x.content).isOk) ∧
            (0 < failed → outcome.ending.exit = 1 ∧ ∃ e, outcome.ending = .failure e ∧
              e.chain = [toString failed ++ " of " ++ toString sources.length ++
                " files failed to analyze"]) ∨
          outcome.Breaks files out text o.output ∧
            outcome.ending.exit = if o.output.isSome then 1 else 101) := by
  obtain ⟨items, hgiven, hgive⟩ := Options.exists_given_of_read hargs
  have hholds := Options.holds_of_giveAll hgive
  rw [run_eq_of_read parse wording files out hargs]
  by_cases hblocked : o.Blocked files
  · obtain ⟨e, he⟩ := run_eq_failed_of_blocked parse wording out hserve hblocked
    exact ⟨items, .failed files e, hgiven, hholds, congrArg _ he,
      fun _ => ⟨rfl, rfl, rfl, rfl⟩, fun h => absurd hblocked h⟩
  · obtain ⟨s, sources, hs, hx, hne⟩ := exists_sources_of_not_blocked wording hblocked
    have hrun := run_eq_of_sources parse out hserve hs hx hne
    let a : Analyzer := ⟨parse, s.limits⟩
    refine ⟨items, _, hgiven, hholds, congrArg _ hrun, fun h => absurd h hblocked,
      fun _ => ⟨s, sources, hs, Options.sources_eq_ok_iff.mp hx, ?_⟩⟩
    rcases delivers_or_breaks files out o.output
        ((o.format.getD s.format).render (a.reports sources)) (.ofReports (a.reports sources)) with
      ⟨hdelivers, hend⟩ | hbreaks
    · refine .inl ⟨hdelivers, ?_, fun hpos => ?_⟩
      · rw [hend, Ending.exit_eq_zero_iff, Ending.ofReports_eq_success_iff]
      · rw [hend, Ending.ofReports_of_pos a sources hpos]
        exact ⟨rfl, _, rfl, rfl⟩
    · exact .inr ⟨hbreaks, hbreaks.exit_eq⟩

/-- The tree of a declaration. -/
def sampleDeclaration : Node :=
  .mk ⟨"translation_unit", 0, "int x = 1;", true, none⟩ [
    .mk ⟨"declaration", 0, "int x = 1;", true, none⟩ [
      .mk ⟨"primitive_type", 0, "int", true, some "type"⟩ [],
      .mk ⟨"init_declarator", 0, "x = 1", true, some "declarator"⟩ [
        .mk ⟨"identifier", 0, "x", true, some "declarator"⟩ [],
        .mk ⟨"=", 0, "=", false, none⟩ [],
        .mk ⟨"number_literal", 0, "1", true, some "value"⟩ []],
      .mk ⟨";", 0, ";", false, none⟩ []]]

/-- The parser of the declaration. -/
def sampleParser : Parser := Recording.parser [⟨"int x = 1;", sampleDeclaration⟩]

/-- The declaration in a file. -/
def sampleFiles : Store where
  entries := [("a.cpp", .plainFile "int x = 1;")]

/-- Decoders that say nothing. -/
def sampleWording : Wording := ⟨fun _ => "", fun _ => ""⟩

theorem readText?_sampleFiles : sampleFiles.readText? "a.cpp" = .ok "int x = 1;" :=
  Entry.textOf_toUTF8 "int x = 1;"

theorem analyze_sampleDeclaration :
    (Analyzer.mk sampleParser {}).analyze "int x = 1;" = .ok sampleDeclaration.recursiveTrace := by
  have hparse : sampleParser "int x = 1;" = .ok sampleDeclaration := by
    simp [sampleParser, Recording.parser]
  simp only [Analyzer.analyze, hparse]
  exact sampleDeclaration.trace_unbounded

theorem sampleFiles_runs :
    (∃ outcome fault, run sampleParser sampleWording sampleFiles .endless
          ["-i", "a.cpp", "--output=a.json"] = .ok (.finished outcome) ∧
        outcome.ending.exit = 0 ∧ outcome.files.entryAt? "a.json" =
          .ok (.file sampleDeclaration.recursiveTrace.toJson.pretty.toUTF8 fault)) ∧
      ∃ outcome, run sampleParser sampleWording sampleFiles .endless
          ["-i", "a.cpp", "-i", "b.cpp", "-o", "a.json"] = .ok (.finished outcome) ∧
        outcome.ending.exit = 1 ∧ outcome.LeavesNothing sampleFiles := by
  constructor
  · have hargs : Options.read ["-i", "a.cpp", "--output=a.json"] =
        .ok { inputs := ["a.cpp"], output := some "a.json" } := by decide
    obtain ⟨-, outcome, -, -, hrun, -, hends⟩ :=
      run_delivers_all_or_nothing sampleParser sampleWording sampleFiles .endless hargs rfl
    have hloaded : Options.sources { inputs := ["a.cpp"], output := some "a.json" } sampleFiles =
        .ok [⟨"a.cpp", "int x = 1;"⟩] :=
      Options.sources_eq_of_single rfl rfl readText?_sampleFiles
    have hfree := @Options.not_blocked_of_sources _ _ sampleWording _ _ rfl hloaded
      (List.cons_ne_nil _ _)
    obtain ⟨s, sources, hs, hsources, hdone⟩ := hends hfree
    cases hs
    obtain rfl : sources = [⟨"a.cpp", "int x = 1;"⟩] :=
      Except.ok.inj ((Options.sources_eq_ok_iff.mpr hsources).symm.trans hloaded)
    have hreport : (Analyzer.mk sampleParser {}).report ⟨"a.cpp", "int x = 1;"⟩ =
        .ok "a.cpp" sampleDeclaration.recursiveTrace := by
      rw [Analyzer.report, analyze_sampleDeclaration]
    rcases hdone with ⟨hdelivers, hexit, -⟩ | ⟨hbreaks, -⟩
    · rw [List.map_singleton, hreport] at hdelivers
      cases hdelivers with
      | written _ hfile _ _ =>
          obtain ⟨fault, hfile⟩ := hfile.holds
          refine ⟨outcome, fault, hrun, hexit.mpr fun x hx => ?_, hfile⟩
          rw [List.mem_singleton.mp hx, analyze_sampleDeclaration]
          rfl
    · cases hbreaks with
      | unopened hwrite _ _ => cases hwrite
      | file hwrite _ _ _ _ =>
          obtain ⟨_, _, _, htake, _⟩ := Store.write_eq_ok_iff.mp hwrite
          cases htake
  · have hargs : Options.read ["-i", "a.cpp", "-i", "b.cpp", "-o", "a.json"] =
        .ok { inputs := ["a.cpp", "b.cpp"], output := some "a.json" } := by decide
    obtain ⟨-, outcome, -, -, hrun, hblocked, -⟩ :=
      run_delivers_all_or_nothing sampleParser sampleWording sampleFiles .endless hargs rfl
    have hmissing : sampleFiles.readText? "b.cpp" = .error .notFound := rfl
    exact ⟨outcome, hrun, hblocked (.input (.tail _ (.head _)) hmissing)⟩

theorem exit_deliver_limited_zero (files : Store) (cause : FileError) (text : String)
    (ending : Ending) :
    (deliver files (.limited 0 cause) none text ending).ending.exit = 101 := by
  have hsize : (text ++ "\n").toUTF8.size = text.utf8ByteSize + 1 := String.utf8ByteSize_append
  have htake : (Sink.limited 0 cause).take (text ++ "\n").toUTF8 =
      ((text ++ "\n").toUTF8.extract 0 0, some cause) := by
    rw [Sink.take, if_neg (by omega)]
  unfold deliver
  rw [htake]
  rfl

theorem Options.argument_dots {n : Nat} (h : 0 < n) :
    argument (Path.dots n) = .plain (Path.dots n) := by
  obtain ⟨m, rfl⟩ := Nat.exists_eq_succ_of_ne_zero h.ne'
  unfold argument
  rw [Path.toList_dots]
  rfl

theorem Options.read_folder {value : String} (h : argument value = .plain value) :
    read ["-d", value] = .ok { folders := [value] } := by
  have hoption : argument "-d" = .option (some (.value .folder)) none := rfl
  simp only [read, scan, hoption, h]
  rfl

/-- A run that cannot print panics, where one that cannot write to a file fails; and a run over a
folder passes over a directory whose path is too long, with all sources in it. -/
theorem run_panics_and_passes_over :
    (∃ outcome, run sampleParser sampleWording sampleFiles (.limited 0 .noSpace) ["-i", "a.cpp"] =
        .ok (.finished outcome) ∧ outcome.ending.exit = 101) ∧
      let files := Store.single "subdirectory" (.dir [("a.cpp", .plainFile "")] {})
      let dir := Path.dots 2045
      files.SourceBelow dir ["subdirectory", "a.cpp"] "".toUTF8 ∧ files.loadFolder dir = .ok [] ∧
        run sampleParser sampleWording files .endless ["-d", dir] =
          .ok (.finished (.failed files .noSources)) := by
  constructor
  · have hargs : Options.read ["-i", "a.cpp"] = .ok { inputs := ["a.cpp"] } := by decide
    have hloaded : Options.sources { inputs := ["a.cpp"] } sampleFiles =
        .ok [⟨"a.cpp", "int x = 1;"⟩] :=
      Options.sources_eq_of_single rfl rfl readText?_sampleFiles
    exact ⟨_, (run_eq_of_read sampleParser sampleWording sampleFiles _ hargs).trans
      (congrArg _ (run_eq_of_sources sampleParser _ rfl rfl hloaded (List.cons_ne_nil _ _))),
      exit_deliver_limited_zero _ _ _ _⟩
  · have hname : Path.IsEntryName "subdirectory" := by decide
    have hwf : (Entry.dir [("a.cpp", .plainFile "")] {}).WellFormed :=
      Entry.wellFormed_singleton (by decide) (Entry.wellFormed_plainFile "")
    have hleads := Store.single_leads hname hwf
    have hempty := Store.loadFolder_of_hidden hleads (Store.not_skipped_dots 2045) rfl rfl
      (Store.hidden?_join_dots (by decide) {})
    have hfree : ¬ Path.isSource (Path.join (Path.dots 2045) "subdirectory") = true :=
      mt (Path.isSource_join hname).mp (mt Path.isSourceName_eq_true_iff.mpr (by decide))
    rw [Entry.sourcesOfFile, if_neg hfree] at hempty
    have hargs := Options.read_folder (Options.argument_dots (by decide : 0 < 2045))
    refine ⟨⟨Store.not_skipped_dots 2045, ⟨[], {}, hleads.leads, rfl⟩,
      ⟨"a.cpp", rfl, Path.isSourceName_eq_true_iff.mp (by decide)⟩, by decide⟩, hempty, ?_⟩
    have hsources : Options.sources { folders := [Path.dots 2045] } _ = .ok [] :=
      Options.sources_eq_ok_iff.mpr (Options.gathers_nil_iff.mpr
        ⟨rfl, List.forall_mem_singleton.mpr hempty⟩)
    rw [run_eq_of_read sampleParser sampleWording _ _ hargs, Options.run, hsources]
    rfl

end Walkthrough

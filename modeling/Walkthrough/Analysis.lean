import Walkthrough.Walk.Trace

/-! # Analysis of source texts

An analyzer is a parser of C++ with the limits of its walks.  It turns a source text into a trace;
a batch of files gives one report for each file, in order, and a file that fails does not affect
the others. -/

namespace Walkthrough

/-- A parser gives the syntax tree of a source text. -/
abbrev Parser := String → Except AnalysisError Node

/-- A parser with the limits of the walks over its trees. -/
structure Analyzer where
  parse : Parser
  limits : Limits

/-- A file with its path. -/
structure Source where
  path : String
  content : String
deriving DecidableEq, Repr

/-- The outcome of the analysis of one file. -/
structure Report where
  file : String
  trace : Option Trace
  error : Option String
deriving DecidableEq, Repr

namespace Report

/-- A file with its trace. -/
def ok (file : String) (trace : Trace) : Report := ⟨file, some trace, none⟩

/-- A file whose analysis failed. -/
def failed (file : String) (e : AnalysisError) : Report := ⟨file, none, some e.message⟩

end Report

namespace Analyzer

/-- The trace of a source text. -/
def analyze (a : Analyzer) (text : String) : Except AnalysisError Trace :=
  match a.parse text with
  | .ok tree => tree.trace a.limits
  | .error e => .error e

/-- The report on one file. -/
def report (a : Analyzer) (s : Source) : Report :=
  match a.analyze s.content with
  | .ok trace => .ok s.path trace
  | .error e => .failed s.path e

/-- The reports on a batch of files, in order. -/
def reports (a : Analyzer) (sources : List Source) : List Report := sources.map a.report

end Analyzer

end Walkthrough

import Mathlib.Data.List.Nodup
import Walkthrough.Proofs.Report.Label

/-! # Flowcharts are paths

A chart is read back from its text: its lines are cut at the newlines and every line at its quotes,
a node is what a line declares and an edge what a line joins with an arrow.

* `Report.chartParts` are the parts of all lines as they are meant, outside and inside quotations in
  turn; `Report.path` are the names of the nodes of one file.
* `Report.lines_renderFlowchart`, `Report.map_quoteParts?_renderFlowchart`: no label breaks out of
  its line or its quotes.
* `Report.renderFlowchart_draws_paths`: the chart is the disjoint union of one path for each file
  that has a trace. -/

namespace Walkthrough.Report

open Text

/-! ### The parts of the lines -/

/-- The parts of the line of a node. -/
def nodeParts (file position : Nat) (step : Step) : List String :=
  ["        ", nodeId file position, " [label=", escapeLabel (stepLabel step),
    ", shape=" ++ (nodeStyle step).shape ++ ", style=", (nodeStyle step).style, ", fillcolor=",
    (nodeStyle step).fill, ", color=", (nodeStyle step).border, "];"]

/-- The parts of the line of the edge that leads to a position. -/
def edgeParts (file position : Nat) : List String :=
  ["        ", nodeId file (position - 1), " -> ", nodeId file position, " [label=",
    toString position, "];"]

/-- An empty line, the line that opens the cluster of a file and that of its label. -/
def openingParts (file : Nat) (name : String) : List (List String) :=
  [[""], ["    subgraph cluster_" ++ toString file ++ " \x7b"],
    ["        label=", escapeLabel name, ";"]]

/-- The lines of one file: if it has a trace, those that open its cluster, one for each node, one
for each edge and the line that closes the cluster. -/
def clusterParts (file : Nat) (r : Report) : List (List String) :=
  match r.trace with
  | none => []
  | some trace =>
    openingParts file r.file ++ (trace.steps.zipIdx.map fun p => nodeParts file p.2 p.1) ++
      (List.range' 1 (trace.steps.length - 1)).map (edgeParts file) ++ [["    \x7d"]]

/-- The six lines that every chart begins with. -/
def headerParts : List (List String) :=
  [["digraph FlowChart \x7b"], ["    rankdir=TB;"], ["    nodesep=0.8;"], ["    ranksep=0.6;"],
    ["    node [fontname=", "Helvetica", ", fontsize=12];"],
    ["    edge [fontname=", "Helvetica", ", fontsize=10];"]]

/-- All lines of a chart. -/
def chartParts (rs : List Report) : List (List String) :=
  headerParts ++ (rs.zipIdx.flatMap fun p => clusterParts p.2 p.1) ++ [["\x7d"]]

/-- The lines with the given parts. -/
def written (ls : List (List String)) : List String := ls.map "\"".intercalate

theorem nodeLine_eq (file position : Nat) (step : Step) :
    nodeLine file position step = "\"".intercalate (nodeParts file position step) := by
  apply String.toList_inj.mp
  unfold nodeLine nodeParts quoted
  simp only [String.intercalate_cons_cons, String.intercalate_singleton, String.toList_append,
    List.append_assoc]
  rfl

theorem edgeLine_eq (file position : Nat) :
    edgeLine file position = "\"".intercalate (edgeParts file position) := by
  apply String.toList_inj.mp
  unfold edgeLine edgeParts
  simp only [String.intercalate_cons_cons, String.intercalate_singleton, String.toList_append,
    List.append_assoc]
  rfl

theorem openingLines_eq (file : Nat) (name : String) :
    ["", "    subgraph cluster_" ++ toString file ++ " \x7b",
        "        label=" ++ quoted name ++ ";"] = written (openingParts file name) := by
  have hlabel : "        label=" ++ quoted name ++ ";" =
      "\"".intercalate ["        label=", escapeLabel name, ";"] := by
    apply String.toList_inj.mp
    unfold quoted
    simp only [String.intercalate_cons_cons, String.intercalate_singleton, String.toList_append,
      List.append_assoc]
  rw [hlabel]
  simp [written, openingParts]

theorem nodeLines_eq (file position : Nat) (steps : List Step) :
    nodeLines file position steps =
      written ((steps.zipIdx position).map fun p => nodeParts file p.2 p.1) := by
  induction steps generalizing position with
  | nil => rfl
  | cons step steps ih =>
      rw [nodeLines, nodeLine_eq, ih]
      rfl

theorem edgeLines_eq (file count : Nat) :
    edgeLines file count = written ((List.range' 1 (count - 1)).map (edgeParts file)) := by
  rw [edgeLines, written, List.range'_eq_map_range, List.map_map, List.map_map]
  refine List.map_congr_left fun i _ => ?_
  rw [edgeLine_eq, Nat.add_comm]
  rfl

theorem clusterLines_eq (file : Nat) (r : Report) :
    clusterLines file r = written (clusterParts file r) := by
  unfold clusterLines clusterParts
  cases r.trace with
  | none => rfl
  | some trace =>
      simp only [openingLines_eq, nodeLines_eq, edgeLines_eq]
      simp [written]

theorem clustersLines_eq (file : Nat) (rs : List Report) :
    clustersLines file rs = written ((rs.zipIdx file).flatMap fun p => clusterParts p.2 p.1) := by
  induction rs generalizing file with
  | nil => rfl
  | cons r rs ih =>
      rw [clustersLines, clusterLines_eq, ih, List.zipIdx_cons, List.flatMap_cons, written, written,
        written, List.map_append]

theorem chartLines_eq (rs : List Report) : chartLines rs = written (chartParts rs) := by
  have hheader : headerLines = written headerParts := by decide +kernel
  rw [chartLines, chartParts, clustersLines_eq, hheader]
  simp [written]

/-! ### Quotations and lines -/

/-- The parts of one line, which are read back as they were written. -/
structure Readable (ps : List String) : Prop where
  alternates : Alternates false ps
  onOneLine : ∀ p ∈ ps, OnOneLine p

theorem Readable.last {p : String} (hp : Plain p) : Readable [p] where
  alternates := .last hp.quote_not_mem
  onOneLine := List.forall_mem_singleton.mpr hp.onOneLine

theorem Readable.cons_cons {p q : String} {ps : List String} (hp : Plain p)
    (hsealed : Sealed q.toList) (hline : OnOneLine q) (hps : Readable ps) :
    Readable (p :: q :: ps) where
  alternates := .outside hp.quote_not_mem (.inside hsealed hps.alternates)
  onOneLine := by
    rw [List.forall_mem_cons, List.forall_mem_cons]
    exact ⟨hp.onOneLine, hline, hps.onOneLine⟩

theorem Readable.plain {p q : String} {ps : List String} (hp : Plain p) (hq : Plain q)
    (hps : Readable ps) : Readable (p :: q :: ps) :=
  .cons_cons hp hq.sealed hq.onOneLine hps

theorem Readable.label {p : String} {ps : List String} (hp : Plain p) (s : String)
    (hps : Readable ps) : Readable (p :: escapeLabel s :: ps) :=
  .cons_cons hp (sealed_escapeLabel s) (onOneLine_escapeLabel s) hps

@[simp] theorem plain_nodeId (file position : Nat) : Plain (nodeId file position) := by
  have hmarks : Plain "f" ∧ Plain "s" := by decide
  simp [nodeId, hmarks]

theorem plain_nodeStyle (step : Step) :
    Plain (nodeStyle step).shape ∧ Plain (nodeStyle step).style ∧ Plain (nodeStyle step).fill ∧
      Plain (nodeStyle step).border := by
  unfold nodeStyle
  cases step <;> dsimp only <;> decide

theorem readable_nodeParts (file position : Nat) (step : Step) :
    Readable (nodeParts file position step) := by
  unfold nodeParts
  obtain ⟨hshape, hstyle, hfill, hborder⟩ := plain_nodeStyle step
  have hbetween : Plain (", shape=" ++ (nodeStyle step).shape ++ ", style=") := by
    have hmarks : Plain ", shape=" ∧ Plain ", style=" := by decide
    simp [hmarks, hshape]
  have hlooks : Readable [", shape=" ++ (nodeStyle step).shape ++ ", style=",
      (nodeStyle step).style, ", fillcolor=", (nodeStyle step).fill, ", color=",
      (nodeStyle step).border, "];"] :=
    .plain hbetween hstyle (.plain (by decide) hfill (.plain (by decide) hborder
      (.last (by decide))))
  exact .plain (by decide) (plain_nodeId file position)
    (.label (by decide) (stepLabel step) hlooks)

theorem readable_edgeParts (file position : Nat) : Readable (edgeParts file position) :=
  .plain (by decide) (plain_nodeId file (position - 1)) (.plain (by decide)
    (plain_nodeId file position) (.plain (by decide) (plain_repr position) (.last (by decide))))

theorem readable_openingParts (file : Nat) (name : String) :
    ∀ ps ∈ openingParts file name, Readable ps := by
  have hopening : Plain ("    subgraph cluster_" ++ toString file ++ " \x7b") := by
    have hmarks : Plain "    subgraph cluster_" ∧ Plain " \x7b" := by decide
    simp [hmarks]
  unfold openingParts
  simp only [List.forall_mem_cons]
  refine ⟨.last (by decide), .last hopening, .label (by decide) name (.last (by decide)), ?_⟩
  exact fun ps hps => absurd hps List.not_mem_nil

theorem readable_clusterParts (file : Nat) (r : Report) :
    ∀ ps ∈ clusterParts file r, Readable ps := by
  unfold clusterParts
  cases r.trace with
  | none => exact fun ps hps => absurd hps List.not_mem_nil
  | some trace =>
      simp only [List.forall_mem_append, List.forall_mem_map, List.forall_mem_singleton]
      refine ⟨⟨⟨readable_openingParts file r.file, ?_⟩, ?_⟩, .last (by decide)⟩
      · exact fun p _ => readable_nodeParts file p.2 p.1
      · exact fun i _ => readable_edgeParts file i

theorem readable_headerParts : ∀ ps ∈ headerParts, Readable ps := by
  unfold headerParts
  simp only [List.forall_mem_cons]
  refine ⟨.last (by decide), .last (by decide), .last (by decide), .last (by decide), ?_, ?_, ?_⟩
  · exact .plain (by decide) (by decide) (.last (by decide))
  · exact .plain (by decide) (by decide) (.last (by decide))
  · exact fun ps hps => absurd hps List.not_mem_nil

theorem readable_chartParts (rs : List Report) : ∀ ps ∈ chartParts rs, Readable ps := by
  unfold chartParts
  simp only [List.forall_mem_append, List.forall_mem_flatMap, List.forall_mem_singleton]
  refine ⟨⟨readable_headerParts, ?_⟩, .last (by decide)⟩
  exact fun p _ => readable_clusterParts p.2 p.1

/-- Lines are read in the parts that they were written from. -/
theorem map_quoteParts?_written {ls : List (List String)} (h : ∀ ps ∈ ls, Readable ps) :
    (written ls).map quoteParts? = ls.map some := by
  rw [written, List.map_map]
  exact List.map_congr_left fun ps hps => quoteParts?_intercalate (h ps hps).alternates

theorem onOneLine_of_mem_written {ls : List (List String)} (h : ∀ ps ∈ ls, Readable ps) :
    ∀ l ∈ written ls, OnOneLine l := by
  intro l hl
  obtain ⟨ps, hps, rfl⟩ := List.mem_map.mp hl
  exact onOneLine_intercalate (by decide) (h ps hps).onOneLine

/-- **No label breaks out of its line.** -/
theorem lines_renderFlowchart (rs : List Report) :
    lines (renderFlowchart rs) = written (chartParts rs) := by
  have hne : chartLines rs ≠ [] := by
    rw [chartLines]
    exact List.append_ne_nil_of_right_ne_nil _ (List.cons_ne_nil _ _)
  have hlines := onOneLine_of_mem_written (readable_chartParts rs)
  rw [renderFlowchart, lines_intercalate hne, chartLines_eq, flatMap_lines_of_onOneLine hlines]

/-- **No label breaks out of its quotes.** -/
theorem map_quoteParts?_renderFlowchart (rs : List Report) :
    (lines (renderFlowchart rs)).map quoteParts? = (chartParts rs).map some := by
  rw [lines_renderFlowchart, map_quoteParts?_written (readable_chartParts rs)]

/-! ### Nodes and edges -/

/-- The node that a line with the given parts declares. -/
def declared? : List String → Option String
  | _ :: id :: mark :: _ => if mark = " [label=" then some id else none
  | _ => none

/-- The nodes that a line with the given parts joins. -/
def joined? : List String → Option (String × String)
  | _ :: source :: mark :: target :: _ => if mark = " -> " then some (source, target) else none
  | _ => none

/-- The nodes that lines declare, in order. -/
def nodesIn (ls : List String) : List String := ls.filterMap fun l => (quoteParts? l).bind declared?

/-- The edges that lines draw, in order. -/
def edgesIn (ls : List String) : List (String × String) :=
  ls.filterMap fun l => (quoteParts? l).bind joined?

/-- The nodes of one file, one for each step of its trace. -/
def path (file : Nat) (r : Report) : List String :=
  match r.trace with
  | none => []
  | some trace => (List.range trace.steps.length).map (nodeId file)

/-- Each node with the next. -/
def consecutive (ids : List String) : List (String × String) := ids.zip ids.tail

/-- The lines declare the nodes of a path in their order and join each with the next, and they do
not declare or join any others. -/
structure DrawsPath (ids ls : List String) : Prop where
  nodes : nodesIn ls = ids
  edges : edgesIn ls = consecutive ids
  sources_declared : (edgesIn ls).map Prod.fst ⊆ nodesIn ls
  targets_declared : (edgesIn ls).map Prod.snd ⊆ nodesIn ls

theorem filterMap_written {α : Type} (f : List String → Option α) {ls : List (List String)}
    (h : ∀ ps ∈ ls, Readable ps) :
    ((written ls).filterMap fun l => (quoteParts? l).bind f) = ls.filterMap f := by
  rw [written, List.filterMap_map]
  refine List.filterMap_congr fun ps hps => ?_
  rw [Function.comp_apply, quoteParts?_intercalate (h ps hps).alternates, Option.bind_some]

theorem consecutive_map_range (f : Nat → String) (n : Nat) :
    consecutive ((List.range n).map f) = (List.range' 1 (n - 1)).map fun i => (f (i - 1), f i) := by
  unfold consecutive
  apply List.ext_getElem
  · simp
  · intro i hi _
    simp [Nat.add_comm 1 i]

theorem filterMap_declared?_clusterParts (file : Nat) (r : Report) :
    (clusterParts file r).filterMap declared? = r.path file := by
  unfold clusterParts path
  cases r.trace with
  | none => rfl
  | some trace =>
      have hnodes : (trace.steps.zipIdx.map fun p => nodeParts file p.2 p.1).filterMap declared? =
          (List.range trace.steps.length).map (nodeId file) := by
        rw [List.range_eq_range', ← List.zipIdx_map_snd 0 trace.steps, List.map_map,
          List.filterMap_map, ← List.filterMap_eq_map]
        rfl
      have hedges : ((List.range' 1 (trace.steps.length - 1)).map (edgeParts file)).filterMap
          declared? = [] := by
        rw [List.filterMap_map, List.filterMap_eq_nil_iff]
        exact fun _ _ => rfl
      have hopening : (openingParts file r.file).filterMap declared? = [] := rfl
      have hclosing : [["    \x7d"]].filterMap declared? = [] := rfl
      rw [List.filterMap_append, List.filterMap_append, List.filterMap_append, hopening, hnodes,
        hedges, hclosing, List.nil_append, List.append_nil, List.append_nil]

theorem filterMap_joined?_clusterParts (file : Nat) (r : Report) :
    (clusterParts file r).filterMap joined? = consecutive (r.path file) := by
  unfold clusterParts path
  cases r.trace with
  | none => rfl
  | some trace =>
      have hnodes : (trace.steps.zipIdx.map fun p => nodeParts file p.2 p.1).filterMap joined? =
          [] := by
        rw [List.filterMap_map, List.filterMap_eq_nil_iff]
        exact fun _ _ => rfl
      have hedges : ((List.range' 1 (trace.steps.length - 1)).map (edgeParts file)).filterMap
          joined? = consecutive ((List.range trace.steps.length).map (nodeId file)) := by
        rw [consecutive_map_range, List.filterMap_map, ← List.filterMap_eq_map]
        rfl
      have hopening : (openingParts file r.file).filterMap joined? = [] := rfl
      have hclosing : [["    \x7d"]].filterMap joined? = [] := rfl
      rw [List.filterMap_append, List.filterMap_append, List.filterMap_append, hopening, hnodes,
        hedges, hclosing, List.nil_append, List.append_nil, List.nil_append]

/-- A name tells which file and which step it is for: what stands before the `s` and behind it are
two numbers. -/
theorem nodeId_inj {file position file' position' : Nat}
    (h : nodeId file position = nodeId file' position') :
    file = file' ∧ position = position' := by
  have hdigits : ∀ n : Nat, 's' ∉ n.repr.toList :=
    fun n hn => absurd (isDigit_of_mem_repr hn) (by decide)
  have hlist : file.repr.toList ++ 's' :: position.repr.toList =
      file'.repr.toList ++ 's' :: position'.repr.toList := by
    have h := congrArg String.toList h
    simpa [nodeId] using h
  obtain ⟨hfile, _, hposition⟩ :=
    (List.append_cons_inj_of_notMem (hdigits file) (hdigits position)).mp hlist
  exact ⟨repr_injective hfile, repr_injective hposition⟩

theorem mem_path {file : Nat} {r : Report} {id : String} (h : id ∈ r.path file) :
    ∃ position, id = nodeId file position := by
  unfold path at h
  split at h
  · cases h
  · obtain ⟨position, _, rfl⟩ := List.mem_map.mp h
    exact ⟨position, rfl⟩

theorem nodup_path (file : Nat) (r : Report) : (r.path file).Nodup := by
  unfold path
  split
  · exact List.nodup_nil
  · exact List.nodup_range.map fun _ _ h => (nodeId_inj h).2

theorem nodup_paths (rs : List Report) : (rs.zipIdx.flatMap fun p => p.1.path p.2).Nodup := by
  rw [List.nodup_flatMap]
  refine ⟨fun p _ => nodup_path p.2 p.1, ?_⟩
  have hpositions : (rs.zipIdx.map Prod.snd).Nodup := by
    rw [List.zipIdx_map_snd]
    exact List.nodup_range'
  refine (List.pairwise_map.mp hpositions).imp fun {p q} hne id hp hq => hne ?_
  obtain ⟨i, hi⟩ := mem_path hp
  obtain ⟨j, hj⟩ := mem_path hq
  exact (nodeId_inj (hi.symm.trans hj)).1

theorem consecutive_subset (ids : List String) :
    (consecutive ids).map Prod.fst ⊆ ids ∧ (consecutive ids).map Prod.snd ⊆ ids := by
  constructor
  · intro id h
    obtain ⟨e, he, rfl⟩ := List.mem_map.mp h
    exact (List.of_mem_zip he).1
  · intro id h
    obtain ⟨e, he, rfl⟩ := List.mem_map.mp h
    exact List.mem_of_mem_tail (List.of_mem_zip he).2

theorem clusterParts_draws_path (file : Nat) (r : Report) :
    DrawsPath (r.path file) (written (clusterParts file r)) := by
  have hreadable := readable_clusterParts file r
  have hnodes : nodesIn (written (clusterParts file r)) = r.path file := by
    rw [nodesIn, filterMap_written declared? hreadable, filterMap_declared?_clusterParts]
  have hedges : edgesIn (written (clusterParts file r)) = consecutive (r.path file) := by
    rw [edgesIn, filterMap_written joined? hreadable, filterMap_joined?_clusterParts]
  obtain ⟨hsources, htargets⟩ := consecutive_subset (r.path file)
  refine ⟨hnodes, hedges, ?_, ?_⟩
  · rwa [hnodes, hedges]
  · rwa [hnodes, hedges]

/-- A reading that finds nothing in the first lines and the last one finds what it finds in the
clusters. -/
theorem filterMap_chartParts {α : Type} {f : List String → Option α} (rs : List Report)
    (hheader : headerParts.filterMap f = []) (hlast : f ["\x7d"] = none) :
    (chartParts rs).filterMap f =
      rs.zipIdx.flatMap fun p => (clusterParts p.2 p.1).filterMap f := by
  have hclosing : [["\x7d"]].filterMap f = [] := List.filterMap_cons_none hlast
  rw [chartParts, List.filterMap_append, List.filterMap_append, hheader, hclosing,
    List.nil_append, List.append_nil, List.filterMap_flatMap]

/-- **A chart is a disjoint union of paths.**  Whatever the files and steps are called, the lines of
a chart are the six first ones, those of every file that has a trace, under its position among all
files, and a last one; and every line is read in the parts that it was written from.  The lines of a
file draw its path, with a node for each step, the chart has the nodes and edges of these paths one
after the other, and no two of its nodes have one name. -/
theorem renderFlowchart_draws_paths (rs : List Report) :
    lines (renderFlowchart rs) = written (chartParts rs) ∧
    (lines (renderFlowchart rs)).map quoteParts? = (chartParts rs).map some ∧
    (∀ file r, DrawsPath (r.path file) (written (clusterParts file r))) ∧
    nodesIn (lines (renderFlowchart rs)) = (rs.zipIdx.flatMap fun p => p.1.path p.2) ∧
    edgesIn (lines (renderFlowchart rs)) =
      (rs.zipIdx.flatMap fun p => consecutive (p.1.path p.2)) ∧
    (nodesIn (lines (renderFlowchart rs))).Nodup := by
  have hreadable := readable_chartParts rs
  have hlines := lines_renderFlowchart rs
  have hnodes : nodesIn (lines (renderFlowchart rs)) =
      rs.zipIdx.flatMap fun p => p.1.path p.2 := by
    rw [hlines, nodesIn, filterMap_written declared? hreadable,
      filterMap_chartParts rs (by decide) rfl]
    exact List.flatMap_congr fun p _ => filterMap_declared?_clusterParts p.2 p.1
  have hedges : edgesIn (lines (renderFlowchart rs)) =
      rs.zipIdx.flatMap fun p => consecutive (p.1.path p.2) := by
    rw [hlines, edgesIn, filterMap_written joined? hreadable,
      filterMap_chartParts rs (by decide) rfl]
    exact List.flatMap_congr fun p _ => filterMap_joined?_clusterParts p.2 p.1
  refine ⟨hlines, map_quoteParts?_renderFlowchart rs, clusterParts_draws_path, hnodes, hedges, ?_⟩
  rw [hnodes]
  exact nodup_paths rs

end Walkthrough.Report

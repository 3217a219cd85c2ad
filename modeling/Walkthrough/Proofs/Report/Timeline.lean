import Mathlib.Data.List.Forall2
import Walkthrough.Report.Timeline
import Walkthrough.Text.Lines

/-! # The lines of a timeline

A timeline is written as one line for the headline of a file, one for each step and one for the
number of self-calls.  Texts stand in it as they are, so a newline in one of them begins a line that
nothing accounts for.

* `Report.Listed` says which lines a file should take; `Report.shown` are the texts that its lines
  show.
* `Report.lines_renderTimeline`: the lines of a timeline are those of its entries, one after the
  other.
* `Report.timeline_counts_lines`: every entry takes one line exactly if no text that is shown has a
  newline, and then each step is found by counting lines. -/

namespace Walkthrough

open Text

/-- The texts that the summary of a step shows. -/
def Step.texts : Step → List String
  | declare _ var value => var :: value.toList
  | assign _ var value => [var, value]
  | memberAssign _ target value => [target, value]
  | loopStart _ condition => condition.toList
  | conditionCheck _ condition => condition.toList
  | call _ function args => [function, args]
  | .return _ value => [value]
  | allocate _ type args => type.toList ++ args.toList

theorem Step.onOneLine_orDash_iff {text : Option String} :
    OnOneLine (orDash text) ↔ ∀ s ∈ text.toList, OnOneLine s := by
  cases text with
  | none => exact ⟨fun _ s hs => absurd hs List.not_mem_nil, fun _ => by decide⟩
  | some s => simp [orDash]

theorem Step.onOneLine_describe_iff (s : Step) :
    OnOneLine s.describe ↔ ∀ t ∈ s.texts, OnOneLine t := by
  have hwords : OnOneLine "declare " ∧ OnOneLine " = " ∧ OnOneLine "assign " ∧
      OnOneLine "pointer-assign " ∧ OnOneLine "loop-start " ∧ OnOneLine "condition-check " ∧
      OnOneLine "call " ∧ OnOneLine "return " ∧ OnOneLine "allocate " ∧ OnOneLine "(" ∧
      OnOneLine ")" := by decide
  unfold describe texts
  cases s <;>
    simp only [onOneLine_append, hwords, onOneLine_orDash_iff, true_and, and_true,
      List.forall_mem_cons, List.forall_mem_append, List.not_mem_nil, false_implies, implies_true]

namespace Report

/-- The number of a step, filled up to four columns, and its source line. -/
def stepTag (number : Nat) (step : Step) : String :=
  alignRight 4 (toString number) ++ "  L" ++ toString step.line

/-- The lines that a file should take: a headline with its name, then for a file with a trace one
line for each step, which begins with the number and the source line of the step, and one line for
the number of self-calls if there are any; for a file with only an error one line with the error. -/
inductive Listed : Report → List String → Prop
  | traced {file : String} {trace : Trace} {error : Option String} {steps frames : List String}
      (hsteps : List.Forall₂ (fun p l => (stepTag p.2 p.1).toList <+: l.toList)
        (trace.steps.zipIdx 1) steps)
      (hframes : frames = if 0 < trace.callStack.length
        then ["  recursive calls: " ++ toString trace.callStack.length] else []) :
      Listed ⟨file, some trace, error⟩ (("== " ++ file ++ " ==") :: (steps ++ frames))
  | failed {file error : String} :
      Listed ⟨file, none, some error⟩ ["== " ++ file ++ " ==", "  error: " ++ error]
  | bare {file : String} : Listed ⟨file, none, none⟩ ["== " ++ file ++ " =="]

/-- The texts that the lines of a file show. -/
def shown (r : Report) : List String :=
  r.file :: match r.trace, r.error with
    | some trace, _ => trace.steps.flatMap Step.texts
    | none, some error => [error]
    | none, none => []

/-! ### The lines of one file -/

theorem stepLines_eq (number : Nat) (steps : List Step) :
    stepLines number steps = (steps.zipIdx number).map fun p => stepLine p.2 p.1 := by
  induction steps generalizing number with
  | nil => rfl
  | cons step steps ih => rw [stepLines, ih, List.zipIdx_cons, List.map_cons]

theorem stepTag_prefix (number : Nat) (step : Step) :
    (stepTag number step).toList <+: (stepLine number step).toList := by
  refine ⟨(String.ofList (List.replicate (5 - (toString step.line).length) ' ') ++ " " ++
    step.describe).toList, ?_⟩
  simp only [stepTag, stepLine, alignLeft, String.toList_append, List.append_assoc]

theorem onOneLine_blanks (n : Nat) : OnOneLine (String.ofList (List.replicate n ' ')) := by
  unfold OnOneLine
  rw [String.toList_ofList]
  intro h
  exact absurd (List.eq_of_mem_replicate h) (by decide)

theorem onOneLine_stepLine_iff {number : Nat} {step : Step} :
    OnOneLine (stepLine number step) ↔ ∀ t ∈ step.texts, OnOneLine t := by
  have hmarks : OnOneLine "  L" ∧ OnOneLine " " := by decide
  simp [stepLine, alignRight, alignLeft, onOneLine_blanks, hmarks, step.onOneLine_describe_iff]

theorem onOneLine_stepLines_iff {number : Nat} {steps : List Step} :
    (∀ l ∈ stepLines number steps, OnOneLine l) ↔ ∀ t ∈ steps.flatMap Step.texts, OnOneLine t := by
  induction steps generalizing number with
  | nil => simp [stepLines]
  | cons step steps ih =>
      rw [stepLines, List.forall_mem_cons, onOneLine_stepLine_iff, ih, List.flatMap_cons,
        List.forall_mem_append]

theorem onOneLine_recursionLines (trace : Trace) : ∀ l ∈ recursionLines trace, OnOneLine l := by
  intro l hl
  unfold recursionLines at hl
  split at hl
  · cases hl
  · obtain rfl := List.mem_singleton.mp hl
    exact onOneLine_append.mpr ⟨by decide, onOneLine_repr _⟩

theorem onOneLine_headline_iff {file : String} :
    OnOneLine ("== " ++ file ++ " ==") ↔ OnOneLine file := by
  have hmarks : OnOneLine "== " ∧ OnOneLine " ==" := by decide
  simp [hmarks]

theorem onOneLine_timelineLines_iff (r : Report) :
    (∀ l ∈ r.timelineLines, OnOneLine l) ↔ ∀ s ∈ r.shown, OnOneLine s := by
  obtain ⟨file, trace, error⟩ := r
  rw [timelineLines, shown, List.forall_mem_cons, List.forall_mem_cons, onOneLine_headline_iff]
  cases trace with
  | some trace =>
      have hframes := onOneLine_recursionLines trace
      simp only [bodyLines, List.forall_mem_append, onOneLine_stepLines_iff]
      exact and_congr_right fun _ => and_iff_left hframes
  | none =>
      cases error with
      | some error =>
          have hmark : OnOneLine "  error: " := by decide
          simp [bodyLines, hmark]
      | none => simp [bodyLines]

theorem listed_timelineLines (r : Report) : r.Listed r.timelineLines := by
  obtain ⟨file, trace, error⟩ := r
  cases trace with
  | some trace =>
      refine @Listed.traced file trace error (stepLines 1 trace.steps) (recursionLines trace) ?_ ?_
      · rw [stepLines_eq, List.forall₂_map_right_iff]
        exact List.forall₂_same.mpr fun p _ => stepTag_prefix p.2 p.1
      · unfold recursionLines
        cases trace.callStack with
        | nil => rfl
        | cons f fs => rfl
  | none =>
      cases error with
      | some error => exact .failed
      | none => exact .bare

theorem Listed.length_eq {r : Report} {ls : List String} (h : r.Listed ls) :
    ls.length = r.timelineLines.length := by
  have hlen : ∀ {ls ls' : List String}, r.Listed ls → r.Listed ls' → ls.length = ls'.length := by
    intro ls ls' h h'
    cases h with
    | traced hsteps hframes =>
        cases h' with
        | traced hsteps' hframes' =>
            have hl := hsteps.length_eq
            have hl' := hsteps'.length_eq
            rw [List.length_cons, List.length_cons, List.length_append, List.length_append,
              hframes, hframes']
            omega
    | failed => cases h'; rfl
    | bare => cases h'; rfl
  exact hlen h r.listed_timelineLines

/-! ### The lines of a timeline -/

/-- **The lines of a timeline are those of its entries**, whatever they show; the last newline has
an empty line behind it. -/
theorem lines_renderTimeline (rs : List Report) :
    lines (renderTimeline rs) = (rs.flatMap timelineLines).flatMap lines ++ [""] :=
  lines_join _

theorem length_flatten_of_listed {rs : List Report} {blocks : List (List String)}
    (h : List.Forall₂ Listed rs blocks) :
    blocks.flatten.length = (rs.flatMap timelineLines).length := by
  induction h with
  | nil => rfl
  | cons hr _ ih =>
      rw [List.flatten_cons, List.flatMap_cons, List.length_append, List.length_append, ih,
        hr.length_eq]

theorem forall_mem_flatMap_timelineLines_iff {rs : List Report} :
    (∀ l ∈ rs.flatMap timelineLines, OnOneLine l) ↔ ∀ r ∈ rs, ∀ s ∈ r.shown, OnOneLine s := by
  simp only [List.mem_flatMap, forall_exists_index, and_imp]
  constructor
  · intro h r hr
    exact r.onOneLine_timelineLines_iff.mp fun l hl => h l r hr hl
  · intro h l r hr hl
    exact r.onOneLine_timelineLines_iff.mpr (h r hr) l hl

theorem exists_listed_iff (rs : List Report) :
    (∃ blocks, List.Forall₂ Listed rs blocks ∧
      lines (renderTimeline rs) = blocks.flatten ++ [""]) ↔
      ∀ r ∈ rs, ∀ s ∈ r.shown, OnOneLine s := by
  rw [← forall_mem_flatMap_timelineLines_iff, lines_renderTimeline]
  constructor
  · rintro ⟨blocks, hblocks, heq⟩
    -- Every newline that is shown adds a line, so the numbers of lines decide.
    apply length_flatMap_lines_eq_iff.mp
    rw [List.append_cancel_right heq, length_flatten_of_listed hblocks]
  · intro h
    refine ⟨rs.map timelineLines, ?_, ?_⟩
    · rw [List.forall₂_map_right_iff]
      exact List.forall₂_same.mpr fun r _ => r.listed_timelineLines
    · rw [flatMap_lines_of_onOneLine h, List.flatMap_def]

theorem getElem?_flatMap {α β : Type} {f : α → List β} {as : List α} {j k : Nat} {a : α}
    (ha : as[j]? = some a) (hk : k < (f a).length) :
    (as.flatMap f)[((as.take j).flatMap f).length + k]? = (f a)[k]? := by
  obtain ⟨hj, rfl⟩ := List.getElem?_eq_some_iff.mp ha
  have hsplit : as = as.take j ++ as[j] :: as.drop (j + 1) := by
    rw [← List.drop_eq_getElem_cons hj, List.take_append_drop]
  have hflat : as.flatMap f =
      (as.take j).flatMap f ++ (f as[j] ++ (as.drop (j + 1)).flatMap f) := by
    have h := congrArg (List.flatMap f) hsplit
    rwa [List.flatMap_append, List.flatMap_cons] at h
  rw [hflat, List.getElem?_append_right (Nat.le_add_right _ _), Nat.add_sub_cancel_left,
    List.getElem?_append_left hk]

/-- Behind the headline of its file, the entry of a step stands as far as its number says. -/
theorem getElem?_timelineLines {r : Report} {trace : Trace} {k : Nat} {step : Step}
    (htrace : r.trace = some trace) (hstep : trace.steps[k]? = some step) :
    r.timelineLines[k + 1]? = some (stepLine (k + 1) step) := by
  obtain ⟨hk, hget⟩ := List.getElem?_eq_some_iff.mp hstep
  have hlen : k < (stepLines 1 trace.steps).length := by
    rw [stepLines_eq, List.length_map, List.length_zipIdx]
    exact hk
  rw [timelineLines, List.getElem?_cons_succ, bodyLines, htrace]
  simp only
  rw [List.getElem?_append_left hlen, stepLines_eq, List.getElem?_map, List.getElem?_zipIdx, hstep,
    Nat.add_comm k 1]
  rfl

/-- **A timeline has one line for every entry exactly if no text in it has a newline.**  Its lines
are those of the headlines, steps, numbers of self-calls and errors, file after file, and each of
these takes as many lines as its texts have.  So all files take the lines that they should if and
only if no text that is shown has a newline; and then the line of a step stands behind all lines of
the files before, the headline and the lines of the steps before. -/
theorem timeline_counts_lines (rs : List Report) :
    lines (renderTimeline rs) = (rs.flatMap timelineLines).flatMap lines ++ [""] ∧
    ((∃ blocks, List.Forall₂ Listed rs blocks ∧
        lines (renderTimeline rs) = blocks.flatten ++ [""]) ↔
      ∀ r ∈ rs, ∀ s ∈ r.shown, OnOneLine s) ∧
    ((∀ r ∈ rs, ∀ s ∈ r.shown, OnOneLine s) →
      ∀ (j k : Nat) (r : Report) (trace : Trace) (step : Step), rs[j]? = some r →
        r.trace = some trace → trace.steps[k]? = some step →
        (lines (renderTimeline rs))[((rs.take j).flatMap timelineLines).length + (k + 1)]? =
          some (stepLine (k + 1) step)) := by
  refine ⟨lines_renderTimeline rs, exists_listed_iff rs, ?_⟩
  intro h j k r trace step hr htrace hstep
  have hentry := getElem?_timelineLines htrace hstep
  have hlen : k + 1 < r.timelineLines.length := (List.getElem?_eq_some_iff.mp hentry).1
  have hfound := (getElem?_flatMap hr hlen).trans hentry
  have hin := (List.getElem?_eq_some_iff.mp hfound).1
  rw [lines_renderTimeline,
    flatMap_lines_of_onOneLine (forall_mem_flatMap_timelineLines_iff.mpr h),
    List.getElem?_append_left hin, hfound]

/-- A file that failed, and behind it one with two steps. -/
def samplePair : List Report :=
  [.failed "z.cpp" .noTree,
    .ok "a.cpp" { steps := [.declare 1 "x" (some "1"), .return 3 "x"] }]

theorem samplePair_return_on_fifth_line :
    (∀ r ∈ samplePair, ∀ s ∈ r.shown, OnOneLine s) ∧
    (lines (renderTimeline samplePair))[4]? = some "   2  L3     return x" := by
  have hshown : ∀ r ∈ samplePair, ∀ s ∈ r.shown, OnOneLine s := by decide +kernel
  have hline := (timeline_counts_lines samplePair).2.2 hshown 1 1 _ _ _ rfl rfl rfl
  exact ⟨hshown, hline⟩

/-- A file with a declaration whose initializer goes over two lines. -/
def sampleSplit : Report :=
  .ok "a.cpp" { steps := [.declare 1 "x" (some "\x7b1,\n 2\x7d"), .return 3 "x"] }

/-- **A step whose text has a newline takes two lines**, and the step behind it is not found where
it is looked for. -/
theorem initializer_takes_two_lines :
    lines (renderTimeline [sampleSplit]) =
      ["== a.cpp ==", "   1  L1     declare x = \x7b1,", " 2\x7d", "   2  L3     return x", ""] ∧
    ¬ ∃ blocks, List.Forall₂ Listed [sampleSplit] blocks ∧
      lines (renderTimeline [sampleSplit]) = blocks.flatten ++ [""] := by
  refine ⟨by decide +kernel, ?_⟩
  rw [exists_listed_iff]
  decide +kernel

end Report

end Walkthrough

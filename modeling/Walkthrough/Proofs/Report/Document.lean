import Walkthrough.Proofs.Json.Unambiguous
import Walkthrough.Proofs.Trace.Reading
import Walkthrough.Report.Document

/-! # Documents tell reports apart

A document is the bare trace of a single file, the report on a single file without a trace, or the
array of all reports.  A bare trace does not name its file; nothing else is lost.

* `Report.Settled`: a report has a trace or an error, and not both.
* `Report.ofJson?_toJson`: a report is read back from its object.
* `Report.Documented` are the three forms of a document; `Report.json_loses_only_file_name` says
  which lists of settled reports have one text. -/

namespace Walkthrough.Report

open Json

/-- The analysis of a file has given a trace or an error. -/
inductive Settled : Report → Prop
  | ok (file : String) (trace : Trace) : Settled (.ok file trace)
  | failed (file error : String) : Settled ⟨file, none, some error⟩

/-! ### Single reports -/

/-- Reads a report. -/
def ofJson? (j : Json) : Option Report := do
  return ⟨← j.get? text? "file", ← j.get? (orNull? Trace.ofJson?) "trace",
    ← j.get? optText? "error"⟩

theorem ofJson?_toJson (r : Report) : ofJson? r.toJson = some r := by
  have htrace := orNull?_getD Trace.ofJson?_toJson rfl r.trace
  simp [ofJson?, toJson, get?_cons_of_ne, htrace]

theorem toJson_injective : Function.Injective toJson := by
  intro r s h
  have hread := ofJson?_toJson r
  rw [h, ofJson?_toJson s] at hread
  exact (Option.some.inj hread).symm

theorem toJson_ne_trace (r : Report) (t : Trace) : r.toJson ≠ t.toJson := by
  simp [toJson, Trace.toJson]

theorem exact_toJson (r : Report) : r.toJson.Exact := by
  have htrace : ((r.trace.map Trace.toJson).getD .null).Exact := by
    cases r.trace with
    | none => exact .null
    | some t => exact t.exact_toJson
  exact .obj (by simp) (by simp [htrace])

/-! ### Documents -/

theorem exact_document (rs : List Report) : (document rs).Exact := by
  unfold document
  split
  · split
    · exact Trace.exact_toJson _
    · exact exact_toJson _
  · exact exact_arr_map exact_toJson _

/-- The document of settled reports is the bare trace of a single file that has one, the report on a
single file that has none, or an array with an item for each report. -/
inductive Documented : List Report → Json → Prop
  | bare (file : String) (trace : Trace) : Documented [.ok file trace] trace.toJson
  | failed (file error : String) :
      Documented [⟨file, none, some error⟩] (toJson ⟨file, none, some error⟩)
  | array {rs : List Report} (h : rs.length ≠ 1) : Documented rs (.arr (rs.map toJson))

theorem documented_document {rs : List Report} (h : ∀ r ∈ rs, Settled r) :
    Documented rs (document rs) := by
  match rs with
  | [] => exact .array (by simp)
  | [r] =>
      cases List.forall_mem_singleton.mp h with
      | ok file trace => exact .bare file trace
      | failed file error => exact .failed file error
  | r :: s :: rs => exact .array (by simp)

/-- What a document is written from is told by the document, but for the name of a single file. -/
theorem Documented.eq_or_bare {as bs : List Report} {j j' : Json} (ha : Documented as j)
    (hb : Documented bs j') (h : j = j') :
    as = bs ∨ ∃ file file' trace, as = [.ok file trace] ∧ bs = [.ok file' trace] := by
  cases ha with
  | bare file trace =>
      cases hb with
      | bare file' trace' =>
          obtain rfl := Trace.toJson_injective h
          exact .inr ⟨file, file', trace, rfl, rfl⟩
      | failed _ _ => exact absurd h.symm (toJson_ne_trace _ trace)
      | array _ => simp [Trace.toJson] at h
  | failed file error =>
      cases hb with
      | bare _ trace' => exact absurd h (toJson_ne_trace _ trace')
      | failed file' error' => exact .inl (congrArg List.singleton (toJson_injective h))
      | array _ => simp [toJson] at h
  | array _ =>
      cases hb with
      | bare _ _ => simp [Trace.toJson] at h
      | failed _ _ => simp [toJson] at h
      | array _ => exact .inl (List.map_injective_iff.mpr toJson_injective (Json.arr.inj h))

/-- **The JSON form loses nothing but the name of a single file.**  Different traces are written as
different values; and two lists of reports, each with a trace or an error, are written as the same
text exactly if they are the same, or if each is a single file and the two files have one trace. -/
theorem json_loses_only_file_name :
    Function.Injective Trace.toJson ∧
    ∀ as bs : List Report, (∀ r ∈ as, Settled r) → (∀ r ∈ bs, Settled r) →
      (renderJson as = renderJson bs ↔
        as = bs ∨ ∃ file file' trace, as = [.ok file trace] ∧ bs = [.ok file' trace]) := by
  refine ⟨Trace.toJson_injective, fun as bs has hbs => ⟨fun h => ?_, ?_⟩⟩
  · have hdocument := pretty_inj (exact_document as) (exact_document bs) h
    exact (documented_document has).eq_or_bare (documented_document hbs) hdocument
  · rintro (rfl | ⟨file, file', trace, rfl, rfl⟩)
    · rfl
    · rfl

/-- A file with one call of a function from its own body. -/
def sampleTrace : Trace := { callStack := [⟨"f", none, 2⟩] }

/-- A single file is not named, but one of two files is. -/
theorem sampleTrace_renamed :
    (∀ r ∈ [ok "a.cpp" sampleTrace, ok "c.cpp" sampleTrace], Settled r) ∧
    renderJson [ok "a.cpp" sampleTrace] = renderJson [ok "b.cpp" sampleTrace] ∧
    renderJson [ok "a.cpp" sampleTrace, ok "c.cpp" sampleTrace] ≠
      renderJson [ok "b.cpp" sampleTrace, ok "c.cpp" sampleTrace] := by
  have hsettled : ∀ file, ∀ r ∈ [ok file sampleTrace], Settled r := by
    simp [Settled.ok]
  have hpair : ∀ file, ∀ r ∈ [ok file sampleTrace, ok "c.cpp" sampleTrace], Settled r := by
    simp [Settled.ok]
  have hsingle := json_loses_only_file_name.2 _ _ (hsettled "a.cpp") (hsettled "b.cpp")
  have hdouble := json_loses_only_file_name.2 _ _ (hpair "a.cpp") (hpair "b.cpp")
  refine ⟨hpair "a.cpp", hsingle.mpr (.inr ⟨_, _, _, rfl, rfl⟩), mt hdouble.mp ?_⟩
  simp [ok]

end Walkthrough.Report

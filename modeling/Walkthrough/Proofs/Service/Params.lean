import Walkthrough.Proofs.Except
import Walkthrough.Proofs.Json.KeyOrder
import Walkthrough.Service.Answer

/-! # What parameters ask for

The parameters of an analysis as they are sent name a source text and a path, each of which may be
absent.

* `Service.Asks` says what parameters name, by the last field with either name or by their order
  in an array.
* `AnalysisParams.ofJson_obj_eq_ok_iff` and `AnalysisParams.ofJson_arr_eq_ok_iff` are what is read
  from an object and from an array.
* `Service.asks_iff`: these are the parameters that are accepted, with what is read from them. -/

namespace Walkthrough

/-- The parameters of an analysis that are sent, if any, name a source text and a path.  A field
that is absent or `null` names nothing. -/
inductive Service.Asks : Option Json → (source path : Option String) → Prop
  | absent : Asks none none none
  | null : Asks (some .null) none none
  | fields {fs : List (String × Json)} {source path : Option String}
      (hsource : (Json.lastValue? "source" fs).getD .null = .optStr source)
      (hpath : (Json.lastValue? "path" fs).getD .null = .optStr path) :
      Asks (some (.obj fs)) source path
  | items {source path : Option String} :
      Asks (some (.arr [.optStr source, .optStr path])) source path

namespace AnalysisParams

theorem text_eq_ok_iff {j : Json} {t : Option String} : text j = .ok t ↔ j = .optStr t := by
  cases j <;> cases t <;> simp [text, Json.optStr]

theorem sorted_eq_optStr_iff {j : Json} {t : Option String} :
    j.sorted = .optStr t ↔ j = .optStr t := by
  cases j <;> cases t <;> simp [Json.sorted, Json.optStr]

/-- A field of a sorted object is read from the last field with its name. -/
theorem field_eq_ok_iff {fs : List (String × Json)} {key : String} {t : Option String} :
    field (.obj (Json.sortedFields fs)) key = .ok t ↔
      (Json.lastValue? key fs).getD .null = .optStr t := by
  rw [field, Json.field?_sorted]
  cases Json.lastValue? key fs with
  | none => cases t <;> simp [Json.optStr]
  | some v => exact text_eq_ok_iff.trans sorted_eq_optStr_iff

theorem ofItems_eq_ok_iff {items : List Json} {source path : Option String} :
    ofItems items = .ok ⟨source, path⟩ ↔ items = [.optStr source, .optStr path] := by
  rcases items with _ | ⟨first, _ | ⟨second, _ | ⟨third, rest⟩⟩⟩
  · simp [ofItems]
  · simp [ofItems, bind_eq_ok_iff]
  · simp [ofItems, bind_eq_ok_iff, text_eq_ok_iff]
  · simp [ofItems, bind_eq_ok_iff]

theorem ofJson_arr_eq_ok_iff {items : List Json} {source path : Option String} :
    ofJson (.arr items) = .ok ⟨source, path⟩ ↔ items = [.optStr source, .optStr path] := by
  have hsorted : ofJson (.arr items) = ofItems (items.map Json.sorted) := by
    rw [ofJson, Json.sorted, Json.sortedItems_eq_map]
  rw [hsorted, ofItems_eq_ok_iff]
  rcases items with _ | ⟨first, _ | ⟨second, _ | ⟨third, rest⟩⟩⟩
  · simp
  · simp
  · simp [sorted_eq_optStr_iff]
  · simp

theorem ofJson_obj_eq_ok_iff {fs : List (String × Json)} {source path : Option String} :
    ofJson (.obj fs) = .ok ⟨source, path⟩ ↔
      (Json.lastValue? "source" fs).getD .null = .optStr source ∧
        (Json.lastValue? "path" fs).getD .null = .optStr path := by
  rw [ofJson, Json.sorted]
  simp only [bind_eq_ok_iff, field_eq_ok_iff]
  constructor
  · rintro ⟨path', hpath, source', hsource, heq⟩
    cases heq
    exact ⟨hsource, hpath⟩
  · rintro ⟨hsource, hpath⟩
    exact ⟨path, hpath, source, hsource, rfl⟩

end AnalysisParams

namespace Service

theorem paramsOf_eq_ok_iff {j : Json} {p : AnalysisParams} :
    paramsOf (some j) = .ok p ↔ AnalysisParams.ofJson j = .ok p := by
  rw [paramsOf]
  cases AnalysisParams.ofJson j <;> simp

/-- **Parameters are accepted with what they name.** -/
theorem asks_iff {raw : Option Json} {source path : Option String} :
    Asks raw source path ↔ paramsOf (raw.bind Request.present) = .ok ⟨source, path⟩ := by
  constructor
  · intro h
    cases h with
    | absent => rfl
    | null => rfl
    | fields hsource hpath =>
        exact paramsOf_eq_ok_iff.mpr (AnalysisParams.ofJson_obj_eq_ok_iff.mpr ⟨hsource, hpath⟩)
    | items => exact paramsOf_eq_ok_iff.mpr (AnalysisParams.ofJson_arr_eq_ok_iff.mpr rfl)
  · intro h
    cases raw with
    | none =>
        cases h
        exact .absent
    | some j =>
        cases j with
        | null =>
            cases h
            exact .null
        | arr items =>
            obtain rfl := AnalysisParams.ofJson_arr_eq_ok_iff.mp (paramsOf_eq_ok_iff.mp h)
            exact .items
        | obj fs =>
            obtain ⟨hsource, hpath⟩ :=
              AnalysisParams.ofJson_obj_eq_ok_iff.mp (paramsOf_eq_ok_iff.mp h)
            exact .fields hsource hpath
        | bool b => cases h
        | int n => cases h
        | real x => cases h
        | str s => cases h

end Service

end Walkthrough

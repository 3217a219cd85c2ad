import Walkthrough.Text.Cut
import Walkthrough.Text.Numeral

/-! # Lines

The lines of a text are what stands between its newlines, so a text has one line more than it has
newlines.

* `lines` cuts a text; `OnOneLine` says that there is nothing to cut.
* Texts that are put together with newlines between or behind them have the lines of each in turn
  (`lines_intercalate`, `lines_join`). -/

namespace Walkthrough.Text

/-- The lines of a text. -/
def lines (s : String) : List String := (cutAt (· == '\n') s.toList).map String.ofList

/-- There is no newline in the text. -/
def OnOneLine (s : String) : Prop := '\n' ∉ s.toList

instance (s : String) : Decidable (OnOneLine s) := inferInstanceAs (Decidable ('\n' ∉ s.toList))

@[simp] theorem onOneLine_append {s t : String} :
    OnOneLine (s ++ t) ↔ OnOneLine s ∧ OnOneLine t := by
  simp [OnOneLine, not_or]

/-- A number is written in digits. -/
@[simp] theorem onOneLine_repr (n : Nat) : OnOneLine n.repr :=
  fun h => absurd (isDigit_of_mem_repr h) (by decide)

theorem onOneLine_intercalate {s : String} {ls : List String} (hs : OnOneLine s)
    (hls : ∀ l ∈ ls, OnOneLine l) : OnOneLine (s.intercalate ls) := by
  induction ls with
  | nil => exact List.not_mem_nil
  | cons l ls ih =>
      obtain ⟨hl, hls⟩ := List.forall_mem_cons.mp hls
      by_cases hnil : ls = []
      · rwa [hnil, String.intercalate_singleton]
      · rw [String.intercalate_cons_of_ne_nil hnil, onOneLine_append, onOneLine_append]
        exact ⟨⟨hl, hs⟩, ih hls⟩

theorem lines_of_onOneLine {s : String} (h : OnOneLine s) : lines s = [s] := by
  rw [lines, cutAt_of_not_mem h, List.map_singleton, String.ofList_toList]

theorem length_lines (s : String) : (lines s).length = s.toList.count '\n' + 1 := by
  rw [lines, List.length_map, length_cutAt]
  rfl

theorem length_lines_pos (s : String) : 0 < (lines s).length := by
  rw [length_lines]
  omega

theorem length_lines_eq_one_iff {s : String} : (lines s).length = 1 ↔ OnOneLine s := by
  rw [length_lines, OnOneLine, ← List.count_eq_zero]
  omega

/-- A newline between two texts cuts them apart. -/
theorem lines_append_newline (s t : String) : lines (s ++ "\n" ++ t) = lines s ++ lines t := by
  have hlist : (s ++ "\n" ++ t).toList = s.toList ++ '\n' :: t.toList := by
    simp
  rw [lines, hlist, cutAt_append_cons, List.map_append]
  rfl

theorem lines_intercalate {ls : List String} (h : ls ≠ []) :
    lines ("\n".intercalate ls) = ls.flatMap lines := by
  induction ls with
  | nil => exact absurd rfl h
  | cons l ls ih =>
      by_cases hnil : ls = []
      · rw [hnil, String.intercalate_singleton, List.flatMap_singleton]
      · rw [String.intercalate_cons_of_ne_nil hnil, lines_append_newline, ih hnil,
          List.flatMap_cons]

/-- The text ends with a newline, so an empty last line follows. -/
theorem lines_join (ls : List String) :
    lines (String.join (ls.map (· ++ "\n"))) = ls.flatMap lines ++ [""] := by
  induction ls with
  | nil => rfl
  | cons l ls ih =>
      rw [List.map_cons, String.join_cons, lines_append_newline, ih, List.flatMap_cons,
        List.append_assoc]

theorem flatMap_lines_of_onOneLine {ls : List String} (h : ∀ l ∈ ls, OnOneLine l) :
    ls.flatMap lines = ls := by
  induction ls with
  | nil => rfl
  | cons l ls ih =>
      obtain ⟨hl, hls⟩ := List.forall_mem_cons.mp h
      rw [List.flatMap_cons, lines_of_onOneLine hl, ih hls, List.singleton_append]

theorem length_le_length_flatMap_lines (ls : List String) :
    ls.length ≤ (ls.flatMap lines).length := by
  induction ls with
  | nil => exact Nat.le_refl 0
  | cons l ls ih =>
      have hl := length_lines_pos l
      rw [List.flatMap_cons, List.length_append, List.length_cons]
      omega

/-- There are as many lines as texts only if each text is on one line. -/
theorem length_flatMap_lines_eq_iff {ls : List String} :
    (ls.flatMap lines).length = ls.length ↔ ∀ l ∈ ls, OnOneLine l := by
  induction ls with
  | nil => simp
  | cons l ls ih =>
      have hl := length_lines_pos l
      have hls := length_le_length_flatMap_lines ls
      rw [List.forall_mem_cons, ← ih, ← length_lines_eq_one_iff, List.flatMap_cons,
        List.length_append, List.length_cons]
      omega

end Walkthrough.Text

import Mathlib.Data.List.Nodup
import Mathlib.Data.List.Permutation
import Mathlib.Data.String.Basic
import Walkthrough.Proofs.Json.Exact

/-! # The order of keys

Sorting the fields of a value changes nothing but their order, as long as no object has a key
twice; where it has, the last field with the key remains.

* `Json.Keyed`: no object inside has a key twice; `Trace.keyed_toJson`: this is so for traces.
* `Json.Reordered`: two values differ in the order of the fields of their objects only;
  `Json.Keyed.reordered_sorted` says it of a value and its sorted form.
* `Json.field?_sorted` is what is found under a key in sorted fields. -/

namespace Walkthrough

namespace Json

/-- No object in a value has a key twice. -/
inductive Keyed : Json → Prop
  | null : Keyed null
  | bool (b : Bool) : Keyed (bool b)
  | int (n : Int) : Keyed (int n)
  | real (x : Decimal.Binary64) : Keyed (real x)
  | str (s : String) : Keyed (str s)
  | arr {items : List Json} (h : ∀ x ∈ items, Keyed x) : Keyed (arr items)
  | obj {fields : List (String × Json)} (hkeys : (fields.map Prod.fst).Nodup)
      (h : ∀ f ∈ fields, Keyed f.2) : Keyed (obj fields)

/-- Two values are the same up to the order of the fields in their objects: arrays agree item by
item, and objects have the same keys, each once, with values that agree. -/
inductive Reordered : Json → Json → Prop
  | same (j : Json) : Reordered j j
  | arr {xs ys : List Json} (hlen : xs.length = ys.length)
      (h : ∀ (i : Nat) (hx : i < xs.length) (hy : i < ys.length), Reordered xs[i] ys[i]) :
      Reordered (arr xs) (arr ys)
  | obj {fs gs : List (String × Json)} (hnodup : (fs.map Prod.fst).Nodup)
      (hkeys : (gs.map Prod.fst).Perm (fs.map Prod.fst))
      (h : ∀ k v w, (k, v) ∈ fs → (k, w) ∈ gs → Reordered v w) : Reordered (obj fs) (obj gs)

/-! ### Sorting -/

section Sorting

variable {key : String} {value : Json} {fields : List (String × Json)}

theorem sortedItems_eq_map (items : List Json) : sortedItems items = items.map sorted := by
  induction items with
  | nil => rfl
  | cons x xs ih => rw [sortedItems, ih, List.map_cons]

theorem insertField_perm (h : key ∉ fields.map Prod.fst) :
    (insertField key value fields).Perm ((key, value) :: fields) := by
  induction fields with
  | nil => exact .refl _
  | cons f fields ih =>
      obtain ⟨k, v⟩ := f
      have hne : key ≠ k := fun heq => h (heq ▸ List.mem_cons_self)
      have hrest : key ∉ fields.map Prod.fst := fun hmem => h (List.mem_cons_of_mem _ hmem)
      rw [insertField, if_neg hne]
      split
      · exact .refl _
      · exact ((ih hrest).cons (k, v)).trans (.swap (key, value) (k, v) fields)

theorem sortedFields_perm (h : (fields.map Prod.fst).Nodup) :
    (sortedFields fields).Perm (fields.map fun f => (f.1, f.2.sorted)) := by
  induction fields with
  | nil => exact .refl _
  | cons f fields ih =>
      obtain ⟨k, v⟩ := f
      obtain ⟨hk, hrest⟩ := List.nodup_cons.mp h
      have hperm := ih hrest
      have hkeys : ((sortedFields fields).map Prod.fst).Perm (fields.map Prod.fst) := by
        have hmap := hperm.map Prod.fst
        rwa [List.map_map] at hmap
      have hnew : k ∉ (sortedFields fields).map Prod.fst := fun hmem => hk (hkeys.mem_iff.mp hmem)
      rw [sortedFields]
      exact (insertField_perm hnew).trans (hperm.cons (k, v.sorted))

/-- **Sorting changes the order of the fields only.** -/
theorem Keyed.reordered_sorted {j : Json} (h : j.Keyed) : j.Reordered j.sorted := by
  induction h with
  | null => exact .same _
  | bool b => exact .same _
  | int n => exact .same _
  | real x => exact .same _
  | str s => exact .same _
  | @arr items _ ih =>
      rw [sorted, sortedItems_eq_map]
      refine .arr (List.length_map _).symm fun i hx hy => ?_
      rw [List.getElem_map]
      exact ih _ (List.getElem_mem hx)
  | @obj fields hkeys _ ih =>
      have hperm := sortedFields_perm hkeys
      rw [sorted]
      refine .obj hkeys ?_ fun k v w hv hw => ?_
      · have hmap := hperm.map Prod.fst
        rwa [List.map_map] at hmap
      · obtain ⟨f, hf, heq⟩ := List.mem_map.mp (hperm.mem_iff.mp hw)
        have hfst : f.1 = k := congrArg Prod.fst heq
        have hsame : f = (k, v) := List.inj_on_of_nodup_map hkeys hf hv hfst
        have hsorted : v.sorted = w := by
          have hsnd := congrArg Prod.snd heq
          rwa [hsame] at hsnd
        exact hsorted ▸ ih (k, v) hv

end Sorting

/-! ### Looking up -/

section Looking

variable {fields : List (String × Json)}

theorem mem_keys_insertField {key k : String} {value : Json}
    (h : k ∈ (insertField key value fields).map Prod.fst) :
    k = key ∨ k ∈ fields.map Prod.fst := by
  induction fields with
  | nil => exact .inl (List.mem_singleton.mp h)
  | cons f fields ih =>
      obtain ⟨k', v'⟩ := f
      rw [insertField] at h
      split_ifs at h
      · exact List.mem_cons.mp h
      · exact .inr h
      · rcases List.mem_cons.mp h with rfl | h
        · exact .inr List.mem_cons_self
        · exact (ih h).imp_right (List.mem_cons_of_mem k')

theorem pairwise_insertField (key : String) (value : Json)
    (h : (fields.map Prod.fst).Pairwise (· < ·)) :
    ((insertField key value fields).map Prod.fst).Pairwise (· < ·) := by
  induction fields with
  | nil => exact List.pairwise_singleton _ _
  | cons f fields ih =>
      obtain ⟨k, v⟩ := f
      obtain ⟨hk, hrest⟩ := List.pairwise_cons.mp h
      rw [insertField]
      split_ifs with hlt heq
      · refine List.pairwise_cons.mpr ⟨fun k' hk' => ?_, h⟩
        rcases List.mem_cons.mp hk' with rfl | hk'
        · exact hlt
        · exact lt_trans hlt (hk k' hk')
      · exact h
      · refine List.pairwise_cons.mpr ⟨fun k' hk' => ?_, ih hrest⟩
        rcases mem_keys_insertField hk' with rfl | hk'
        · exact lt_of_le_of_ne (le_of_not_gt hlt) (Ne.symm heq)
        · exact hk k' hk'

theorem pairwise_sortedFields (fields : List (String × Json)) :
    ((sortedFields fields).map Prod.fst).Pairwise (· < ·) := by
  induction fields with
  | nil => exact .nil
  | cons f fields ih => exact pairwise_insertField f.1 f.2.sorted ih

theorem find?_insertField (key k : String) (value : Json)
    (h : (fields.map Prod.fst).Pairwise (· < ·)) :
    (insertField k value fields).find? (·.1 == key) =
      (fields.find? (·.1 == key)).or (if k = key then some (k, value) else none) := by
  induction fields with
  | nil => by_cases hk : k = key <;> simp [insertField, hk]
  | cons f fields ih =>
      obtain ⟨k', v'⟩ := f
      obtain ⟨hfirst, hrest⟩ := List.pairwise_cons.mp h
      rcases lt_trichotomy k k' with hlt | rfl | hgt
      · -- In front of greater keys, the new field is the only one with its own key.
        rw [insertField, if_pos hlt]
        by_cases hk : k = key
        · subst hk
          have hnone : ((k', v') :: fields).find? (·.1 == k) = none := by
            refine List.find?_eq_none.mpr fun f hf => ?_
            rcases List.mem_cons.mp hf with rfl | hf
            · simpa using hlt.ne'
            · simpa using (lt_trans hlt (hfirst f.1 (List.mem_map_of_mem hf))).ne'
          rw [hnone, Option.none_or, if_pos rfl]
          exact List.find?_cons_of_pos (beq_self_eq_true k)
        · rw [if_neg hk, Option.or_none, List.find?_cons_of_neg (by simpa using hk)]
      · rw [insertField, if_neg (lt_irrefl k), if_pos rfl]
        by_cases hk : k = key
        · simp [hk]
        · rw [if_neg hk, Option.or_none]
      · rw [insertField, if_neg hgt.not_gt, if_neg hgt.ne', List.find?_cons, List.find?_cons,
          ih hrest]
        cases k' == key <;> rfl

/-- The value of the last field with a key. -/
def lastValue? (key : String) (fields : List (String × Json)) : Option Json :=
  (fields.reverse.find? (·.1 == key)).map Prod.snd

theorem field?_sorted (key : String) (fields : List (String × Json)) :
    (obj (sortedFields fields)).field? key = (lastValue? key fields).map sorted := by
  have hfind : (sortedFields fields).find? (·.1 == key) =
      (fields.reverse.find? (·.1 == key)).map fun f => (f.1, f.2.sorted) := by
    induction fields with
    | nil => rfl
    | cons f fields ih =>
        obtain ⟨k, v⟩ := f
        rw [sortedFields, find?_insertField _ _ _ (pairwise_sortedFields fields), ih,
          List.reverse_cons, List.find?_append, Option.map_or]
        by_cases hk : k = key <;> simp [hk]
  rw [field?, hfind, lastValue?, Option.map_map, Option.map_map]
  rfl

end Looking

/-! ### Traces -/

theorem Exact.keyed {j : Json} (h : j.Exact) : j.Keyed := by
  induction h with
  | null => exact .null
  | bool b => exact .bool b
  | int n => exact .int n
  | str s => exact .str s
  | arr _ ih => exact .arr ih
  | obj hkeys _ ih => exact .obj hkeys ih

end Json

/-- **A trace has no key twice in any of its objects.** -/
theorem Trace.keyed_toJson (t : Trace) : t.toJson.Keyed := t.exact_toJson.keyed

end Walkthrough

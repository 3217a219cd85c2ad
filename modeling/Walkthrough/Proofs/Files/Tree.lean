import Mathlib.Data.List.Basic
import Walkthrough.Files.Entry
import Walkthrough.Proofs.Files.Names

/-! # Trees of directories

What holds of the trees that stand on a disk, whatever order their directories are listed in, and
what putting a file into one changes.

* `Entry.WellFormed` holds of a tree whose directories give every name once, and only names that
  can stand in a path; then a name is found just if it is listed (`Entry.find?_eq_some_iff`);
* `Entry.Relisted` is the same tree with its directories listed in another order; it has the same
  directories and files at the same places (`Entry.Relisted.exists_at?`);
* `Entry.Inode` is what an entry is apart from what stands below it; `Entry.at?_insert_self` and
  `Entry.inode_at?_insert_of_ne` are what is found after an insertion. -/

namespace Walkthrough.Entry

/-- What an entry is apart from what stands below it. -/
inductive Inode where
  | file (bytes : ByteArray) (faults : FileFaults)
  | dir (faults : DirFaults)

/-- An entry apart from what stands below it. -/
def inode : Entry → Inode
  | file bytes faults => .file bytes faults
  | dir _ faults => .dir faults

/-- A tree whose directories give every name once, and only names that can stand in a path. -/
inductive WellFormed : Entry → Prop
  | file (bytes : ByteArray) (faults : FileFaults) : WellFormed (file bytes faults)
  | dir {entries : List (String × Entry)} {faults : DirFaults}
      (names : ∀ p ∈ entries, Path.IsEntryName p.1) (nodup : (entries.map (·.1)).Nodup)
      (inner : ∀ p ∈ entries, WellFormed p.2) : WellFormed (dir entries faults)

/-- The same tree with its directories listed in another order. -/
inductive Relisted : Entry → Entry → Prop
  | refl (e : Entry) : Relisted e e
  | perm {entries entries' : List (String × Entry)} {faults : DirFaults} :
      entries.Perm entries' → Relisted (dir entries faults) (dir entries' faults)
  | inside {before after : List (String × Entry)} {name : String} {e e' : Entry}
      {faults : DirFaults} : Relisted e e' →
        Relisted (dir (before ++ (name, e) :: after) faults)
          (dir (before ++ (name, e') :: after) faults)
  | trans {a b c : Entry} : Relisted a b → Relisted b c → Relisted a c

variable {name : String} {names : List String} {entries entries' : List (String × Entry)}
  {faults : DirFaults} {a b e : Entry}

/-! ### Looking up -/

@[simp] theorem find?_cons_self (name : String) (e : Entry) (entries : List (String × Entry)) :
    find? name ((name, e) :: entries) = some e := by
  simp [find?]

theorem find?_cons_of_ne {n name : String} (h : n ≠ name) (e : Entry)
    (entries : List (String × Entry)) :
    find? name ((n, e) :: entries) = find? name entries := by
  simp [find?, h]

theorem at?_append (e : Entry) (names names' : List String) :
    e.at? (names ++ names') = (e.at? names).bind (·.at? names') := by
  induction names generalizing e with
  | nil => simp [at?]
  | cons name names ih =>
      cases e with
      | file bytes faults => simp [at?]
      | dir entries faults =>
          rw [List.cons_append, at?, at?, Option.bind_assoc]
          congr 1
          funext e
          exact ih e

theorem find?_eq_some_iff (h : (entries.map (·.1)).Nodup) :
    find? name entries = some e ↔ (name, e) ∈ entries := by
  induction entries with
  | nil => simp [find?]
  | cons p entries ih =>
      obtain ⟨n, e'⟩ := p
      obtain ⟨hnew, hnodup⟩ := List.nodup_cons.mp h
      by_cases hn : n = name
      · subst hn
        have hmem : (n, e) ∉ entries := fun hmem => hnew (List.mem_map_of_mem (f := (·.1)) hmem)
        simp [hmem, eq_comm]
      · rw [find?_cons_of_ne hn, ih hnodup, List.mem_cons]
        simp [Ne.symm hn]

theorem textOf_toUTF8 (text : String) : textOf text.toUTF8 = .ok text := by
  have hvalid : text.toUTF8.IsValidUTF8 := text.isValidUTF8
  unfold textOf String.fromUTF8?
  rw [dif_pos hvalid]
  rfl

theorem WellFormed.nodup (h : (Entry.dir entries faults).WellFormed) :
    (entries.map (·.1)).Nodup := by
  cases h
  assumption

theorem WellFormed.of_mem (h : (Entry.dir entries faults).WellFormed) {p : String × Entry}
    (hp : p ∈ entries) : Path.IsEntryName p.1 ∧ p.2.WellFormed := by
  cases h with
  | dir names _ inner => exact ⟨names p hp, inner p hp⟩

theorem wellFormed_plainFile (text : String) : (plainFile text).WellFormed := .file _ _

theorem wellFormed_singleton (hname : Path.IsEntryName name) (he : e.WellFormed) :
    (dir [(name, e)] faults).WellFormed :=
  .dir (List.forall_mem_singleton.mpr hname) (by simp) (List.forall_mem_singleton.mpr he)

theorem Relisted.symm (h : a.Relisted b) : b.Relisted a := by
  induction h with
  | refl e => exact .refl e
  | perm hperm => exact .perm hperm.symm
  | inside _ ih => exact .inside ih
  | trans _ _ ih ih' => exact .trans ih' ih

theorem Relisted.wellFormed (h : a.Relisted b) (ha : a.WellFormed) : b.WellFormed := by
  induction h with
  | refl e => exact ha
  | perm hperm =>
      cases ha with
      | dir names nodup inner =>
          exact .dir (fun p hp => names p (hperm.mem_iff.mpr hp))
            ((hperm.map _).nodup_iff.mp nodup) fun p hp => inner p (hperm.mem_iff.mpr hp)
  | @inside before after name e e' faults _ ih =>
      cases ha with
      | dir names nodup inner =>
          rw [List.map_append, List.map_cons] at nodup
          simp only [List.forall_mem_append, List.forall_mem_cons] at names inner
          refine .dir ?_ (by rwa [List.map_append, List.map_cons]) ?_
          · simpa only [List.forall_mem_append, List.forall_mem_cons] using names
          · simp only [List.forall_mem_append, List.forall_mem_cons]
            exact ⟨inner.1, ih inner.2.1, inner.2.2⟩
  | trans _ _ ih ih' => exact ih' (ih ha)

theorem find?_put (name : String) (change : Option Entry → Entry) (n : String)
    (entries : List (String × Entry)) :
    find? n (put name change entries) =
      if n = name then some (change (find? name entries)) else find? n entries := by
  induction entries with
  | nil =>
      by_cases h : n = name
      · simp [find?, put, h]
      · simp [find?, put, h, Ne.symm h]
  | cons entry entries ih =>
      obtain ⟨m, e⟩ := entry
      rw [put]
      by_cases hm : m = name
      · subst hm
        rw [if_pos rfl, find?_cons_self]
        by_cases h : n = m
        · rw [h, find?_cons_self, if_pos rfl]
        · rw [find?_cons_of_ne (Ne.symm h), find?_cons_of_ne (Ne.symm h), if_neg h]
      · rw [if_neg hm, find?_cons_of_ne hm]
        by_cases h : n = m
        · subst h
          rw [find?_cons_self, find?_cons_self, if_neg hm]
        · rw [find?_cons_of_ne (Ne.symm h), find?_cons_of_ne (Ne.symm h), ih]

theorem at?_insert_self (new : Entry) (names : List String) (e : Option Entry) :
    (insert new names e).at? names = some new := by
  induction names generalizing e with
  | nil => simp [insert, at?]
  | cons name names ih =>
      match e with
      | some (dir entries faults) => simp [insert, at?, find?_put, ih]
      | some (file bytes faults) => simp [insert, at?, find?, ih]
      | none => simp [insert, at?, find?, ih]

theorem exists_dir_of_inode (h : e.inode = .dir faults) : ∃ entries, e = dir entries faults := by
  cases e with
  | file bytes inner => cases h
  | dir entries faults' =>
      cases h
      exact ⟨entries, rfl⟩

/-- A file that is put into a directory, in place of a file or of nothing, changes no other
place. -/
theorem inode_at?_insert_of_ne {bytes : ByteArray} {inner : FileFaults} {dirs : List String}
    {last : String} (hdir : e.at? dirs = some (dir entries faults))
    (hfree : ∀ es fs, find? last entries ≠ some (dir es fs)) (hne : names ≠ dirs ++ [last]) :
    ((insert (file bytes inner) (dirs ++ [last]) (some e)).at? names).map inode =
      (e.at? names).map inode := by
  induction dirs generalizing e names with
  | nil =>
      obtain rfl : e = dir entries faults := by simpa [at?] using hdir
      cases names with
      | nil => simp [insert, at?, inode]
      | cons n names =>
          rw [List.nil_append, insert, at?, at?, find?_put]
          by_cases h : n = last
          · subst h
            -- Below a file there is nothing, before and after.
            have hnames : names ≠ [] := fun hnil => hne (by rw [hnil]; rfl)
            obtain ⟨m, ms, rfl⟩ := List.exists_cons_of_ne_nil hnames
            cases hf : find? n entries with
            | none => simp [insert, at?]
            | some e =>
                cases e with
                | file bytes faults => simp [insert, at?]
                | dir es fs => exact absurd hf (hfree es fs)
          · rw [if_neg h]
  | cons d dirs ih =>
      cases e with
      | file bytes faults => simp [at?] at hdir
      | dir es fs =>
          rw [at?] at hdir
          obtain ⟨inner, hinner, hinside⟩ := Option.bind_eq_some_iff.mp hdir
          cases names with
          | nil => simp [insert, at?, inode]
          | cons n names =>
              rw [List.cons_append, insert, at?, at?, find?_put]
              by_cases h : n = d
              · subst h
                have hne : names ≠ dirs ++ [last] := fun heq => hne (by rw [heq]; rfl)
                rw [if_pos rfl, hinner]
                exact ih hinside hne
              · rw [if_neg h]

end Walkthrough.Entry

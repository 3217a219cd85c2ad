import Walkthrough.Proofs.Files.Lookup

/-! # What a write changes

A write to a path that can be opened changes the file that the path leads to, be it to the end or
not, and nothing else: every other place holds what it held.

* `Sink.exists_append_of_take`: what is taken of some bytes is a beginning of them, all of them if
  nothing fails;
* `Store.target?_cases` is what a path says that can be opened to write;
* `Store.Rewritten` holds of files in which one file has new bytes; `Store.write_eq_ok_iff` says
  what a write comes to, and `Store.rewritten_put` that it changes no more. -/

namespace Walkthrough

/-- What is taken is a beginning of what is written, and all of it unless something fails. -/
theorem Sink.exists_append_of_take {sink : Sink} {bytes taken : ByteArray}
    {fault : Option FileError} (h : sink.take bytes = (taken, fault)) :
    (∃ rest, bytes = taken ++ rest) ∧ (fault = none → taken = bytes) := by
  cases sink with
  | endless =>
      cases h
      exact ⟨⟨.empty, ByteArray.append_empty.symm⟩, fun _ => rfl⟩
  | limited room cause =>
      rw [take] at h
      split at h
      · cases h
        exact ⟨⟨.empty, ByteArray.append_empty.symm⟩, fun _ => rfl⟩
      · cases h
        refine ⟨⟨bytes.extract room bytes.size, ?_⟩, nofun⟩
        simp

theorem Sink.take_eq_self {sink : Sink} {bytes : ByteArray} (h : (sink.take bytes).2 = none) :
    sink.take bytes = (bytes, none) := by
  have htake : sink.take bytes = ((sink.take bytes).1, none) := Prod.ext rfl h
  rw [htake, (exists_append_of_take htake).2 rfl]

namespace Store

variable {s s' : Store} {path : String} {bytes : ByteArray} {names : List String}

theorem reverse_dropWhile_reverse_eq_self {α : Type} {p : α → Bool} {as : List α}
    (h : as.length ≤ (as.reverse.dropWhile p).reverse.length) :
    (as.reverse.dropWhile p).reverse = as := by
  have hsuffix : as.reverse.dropWhile p <:+ as.reverse := List.dropWhile_suffix p
  rw [List.length_reverse, ← as.length_reverse] at h
  rw [hsuffix.eq_of_length_le h, List.reverse_reverse]

/-- A path that can be opened to write leads, through directories that exist, to a name under which
there is no directory. -/
theorem target?_cases (h : s.target? path = .ok names) :
    checked path = .ok path ∧
      ∃ (steps : List (List Char)) (last : List Char) (dirs : List String)
        (entries : List (String × Entry)) (faults : DirFaults),
        Path.parts path = steps ++ [last] ∧
        steps.foldlM s.step? (s.start path) = .ok dirs ∧
        s.root.at? dirs = some (.dir entries faults) ∧ faults.pass = none ∧
        Path.isName last = true ∧ last ≠ ['.', '.'] ∧ Path.isTooLongName last = false ∧
        Entry.writeFault? faults (Entry.find? (String.ofList last) entries) = none ∧
        names = dirs ++ [String.ofList last] := by
  obtain ⟨path', hchecked, hrest⟩ := bind_eq_ok_iff.mp h
  obtain rfl := (checked_eq_ok_iff.mp hchecked).1
  dsimp only at hrest
  generalize hnamed : ((Path.parts path').reverse.dropWhile (· == [])).reverse = named at hrest
  obtain ⟨dirs, hdirs, hend⟩ := bind_eq_ok_iff.mp hrest
  match hentry : s.root.at? dirs with
  | none => simp [hentry] at hend
  | some (.file bytes inner) => simp [hentry] at hend
  | some (.dir entries faults) =>
      cases hpass : faults.pass with
      | some cause => simp [hentry, hpass] at hend
      | none =>
          simp only [hentry, hpass] at hend
          split at hend
          · cases hend
          · rename_i hlast
            simp only [Bool.or_eq_true, decide_eq_true_eq, Bool.not_eq_true', beq_iff_eq,
              not_or, Nat.not_lt, Bool.not_eq_false] at hlast
            obtain ⟨⟨hlen, hname⟩, hdots⟩ := hlast
            have hparts : named = Path.parts path' :=
              hnamed ▸ reverse_dropWhile_reverse_eq_self (hnamed ▸ hlen)
            have hne : named ≠ [] := fun hnil => by simp [hnil, Path.isName] at hname
            have hlast : named.getLast?.getD [] = named.getLast hne := by
              rw [List.getLast?_eq_some_getLast hne, Option.getD_some]
            rw [hlast] at hend hname hdots
            split at hend
            · cases hend
            · rename_i hshort
              split at hend
              · cases hend
              · rename_i hfree
                refine ⟨hchecked, named.dropLast, named.getLast hne, dirs, entries, faults, ?_,
                  hdirs, hentry, hpass, hname, hdots, by simpa using hshort, hfree,
                  (Except.ok.inj hend).symm⟩
                rw [List.dropLast_concat_getLast hne, hparts]

/-- Files in which the file that a path leads to has new bytes, and nothing else is new. -/
structure Rewritten (s s' : Store) (path : String) (bytes : ByteArray) : Prop where
  opens : ∃ names, s.target? path = .ok names ∧ ∀ names' ≠ names,
    (s'.root.at? names').map Entry.inode = (s.root.at? names').map Entry.inode
  holds : ∃ faults, s'.entryAt? path = .ok (.file bytes faults)
  workingDir : s'.workingDir = s.workingDir

theorem root_put (h : names ≠ []) : (s.put names bytes).root =
    Entry.insert (.file bytes (s.fileFaults names)) names (some s.root) := by
  obtain ⟨name, rest, rfl⟩ := List.exists_cons_of_ne_nil h
  rfl

theorem workingDir_put : (s.put names bytes).workingDir = s.workingDir := by
  unfold put
  split <;> rfl

theorem inode_at?_put (h : s.target? path = .ok names) {names' : List String}
    (hne : names' ≠ names) :
    ((s.put names bytes).root.at? names').map Entry.inode =
      (s.root.at? names').map Entry.inode := by
  obtain ⟨-, steps, last, dirs, entries, faults, -, -, hdir, -, -, -, -, hfree, rfl⟩ :=
    target?_cases h
  rw [root_put (List.append_ne_nil_of_right_ne_nil _ (List.cons_ne_nil _ _))]
  refine Entry.inode_at?_insert_of_ne hdir (fun es fs hdir => ?_) hne
  rw [hdir] at hfree
  cases hfree

theorem keeps_put (h : s.target? path = .ok names) : s.Keeps (s.put names bytes) where
  workingDir := workingDir_put
  dir {place entries faults} hat := by
    obtain ⟨-, steps, last, dirs, entries', faults', -, -, hdir, -, -, -, -, hfree, rfl⟩ :=
      target?_cases h
    have hne : place ≠ dirs ++ [String.ofList last] := by
      rintro rfl
      rw [at?_concat hdir] at hat
      rw [hat] at hfree
      cases hfree
    have hsame := @inode_at?_put s path bytes _ h place hne
    rw [hat] at hsame
    obtain ⟨e, he, hinode⟩ := Option.map_eq_some_iff.mp hsame
    obtain ⟨es, rfl⟩ := Entry.exists_dir_of_inode hinode
    exact ⟨es, he⟩
  isSome {place} hsome := by
    by_cases hne : place = names
    · subst hne
      obtain ⟨-, steps, last, dirs, -, -, -, -, -, -, -, -, -, -, rfl⟩ := target?_cases h
      rw [root_put (List.append_ne_nil_of_right_ne_nil _ (List.cons_ne_nil _ _)),
        Entry.at?_insert_self]
      rfl
    · have hsame := congrArg Option.isSome (@inode_at?_put s path bytes names h place hne)
      rw [Option.isSome_map, Option.isSome_map] at hsame
      rw [hsame, hsome]

theorem entryAt?_put (h : s.target? path = .ok names) :
    (s.put names bytes).entryAt? path = .ok (.file bytes (s.fileFaults names)) := by
  have hkeeps : s.Keeps (s.put names bytes) := keeps_put h
  obtain ⟨hchecked, steps, last, dirs, entries, faults, hparts, hsteps, hdir, hpass, hname, hdots,
    hshort, -, rfl⟩ := target?_cases h
  have hself : (s.put (dirs ++ [String.ofList last]) bytes).root.at?
      (dirs ++ [String.ofList last]) =
        some (.file bytes (s.fileFaults (dirs ++ [String.ofList last]))) := by
    rw [root_put (List.append_ne_nil_of_right_ne_nil _ (List.cons_ne_nil _ _)),
      Entry.at?_insert_self]
  obtain ⟨entries', hdir'⟩ := hkeeps.dir hdir
  have hne : last ≠ [] ∧ last ≠ ['.'] := by simpa [Path.isName] using hname
  have hlast := step?_eq_ok_iff.mpr ⟨entries', faults, hdir', .inr ⟨hne.1, hpass,
    .inr (.inr ⟨hne.2, hdots, hshort, Option.isSome_of_eq_some hself, rfl⟩)⟩⟩
  refine entryAt?_of_place? (place?_eq_ok_iff.mpr ⟨hchecked, ?_⟩) hself
  rw [hkeeps.start, hparts, List.foldlM_append, hkeeps.foldlM_step? hsteps]
  simp [bind, Except.bind, pure, Except.pure, hlast]

theorem rewritten_put (h : s.target? path = .ok names) :
    s.Rewritten (s.put names bytes) path bytes where
  opens := ⟨names, h, fun _ hne => inode_at?_put h hne⟩
  holds := ⟨_, entryAt?_put h⟩
  workingDir := workingDir_put

/-- **What a write comes to**: the file can be opened, and holds what is taken. -/
theorem write_eq_ok_iff {fault : Option FileError} : s.write path bytes = .ok (s', fault) ↔
    ∃ names taken, s.target? path = .ok names ∧ s.sink.take bytes = (taken, fault) ∧
      s' = s.put names taken := by
  unfold write
  rw [bind_eq_ok_iff]
  constructor
  · rintro ⟨names, hnames, hput⟩
    cases hput
    exact ⟨names, _, hnames, rfl, rfl⟩
  · rintro ⟨names, taken, hnames, htake, rfl⟩
    exact ⟨names, hnames, by rw [htake]; rfl⟩

end Store

end Walkthrough

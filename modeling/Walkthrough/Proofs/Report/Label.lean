import Mathlib.Tactic.SplitIfs
import Walkthrough.Proofs.Text.Backslashes
import Walkthrough.Report.Flowchart

/-! # Labels in quotes

A label is escaped in three passes, one after the other over the whole text.  No pass escapes what
an earlier one has written, so together they replace each character on its own
(`Report.escapeLabelChars_eq_flatMap`).  An escaped text has no newline, and between quotes it is
one quotation (`Report.sealed_escapeLabel`).

* `Report.unescapeLabel?` takes escapes back from left to right; it reads exactly the escaped texts
  (`Report.unescapeChars?_eq_some_iff`).
* `Report.escapeLabel_reversible`: what is escaped is safe inside quotes and can be read back, so
  different labels stay different. -/

namespace Walkthrough.Report

open Text

/-- What stands for one character in a label. -/
def labelChar (c : Char) : List Char :=
  if c = '\\' then ['\\', '\\']
  else if c = '"' then ['\\', '"']
  else if c = '\n' then ['\\', 'n']
  else [c]

theorem replaceChar_replaceChar_replaceChar (c : Char) :
    replaceChar '\n' ['\\', 'n'] (replaceChar '"' ['\\', '"']
      (if c = '\\' then ['\\', '\\'] else [c])) = labelChar c := by
  unfold labelChar
  split_ifs with hslash hquote hnewline
  · rfl
  · subst hquote
    rfl
  · subst hnewline
    rfl
  · simp [replaceChar, hquote, hnewline]

/-- **The three passes replace every character on its own.** -/
theorem escapeLabelChars_eq_flatMap (cs : List Char) :
    escapeLabelChars cs = cs.flatMap labelChar := by
  have hpass : ∀ c r (f : Char → List Char),
      replaceChar c r (cs.flatMap f) = cs.flatMap fun d => replaceChar c r (f d) :=
    fun _ _ _ => List.flatMap_assoc
  unfold escapeLabelChars
  rw [replaceChar.eq_1 '\\', hpass, hpass]
  exact List.flatMap_congr fun c _ => replaceChar_replaceChar_replaceChar c

theorem newline_not_mem_labelChar (c : Char) : '\n' ∉ labelChar c := by
  unfold labelChar
  split_ifs with hslash hquote hnewline
  · decide
  · decide
  · decide
  · exact fun h => hnewline (List.mem_singleton.mp h).symm

theorem onOneLine_escapeLabel (s : String) : OnOneLine (escapeLabel s) := by
  unfold OnOneLine escapeLabel
  rw [String.toList_ofList, escapeLabelChars_eq_flatMap, List.mem_flatMap]
  rintro ⟨c, _, hc⟩
  exact newline_not_mem_labelChar c hc

theorem sealed_labelChar_append {c : Char} {cs : List Char} (h : Sealed cs) :
    Sealed (labelChar c ++ cs) := by
  unfold labelChar
  split_ifs with hslash hquote hnewline
  · exact .escaped h
  · exact .escaped h
  · exact .escaped h
  · exact .cons hquote hslash h

/-- **A label closes its quotation nowhere but at its end.** -/
theorem sealed_escapeLabel (s : String) : Sealed (escapeLabel s).toList := by
  unfold escapeLabel
  rw [String.toList_ofList, escapeLabelChars_eq_flatMap]
  induction s.toList with
  | nil => exact .nil
  | cons c cs ih =>
      rw [List.flatMap_cons]
      exact sealed_labelChar_append ih

/-- A quote in a label does not end it, nor does a backslash at its end keep it open. -/
example : quoteParts? ("label=" ++ quoted "a\"b\\" ++ ";") =
    some ["label=", "a\\\"b\\\\", ";"] := by decide +kernel

/-! ### Reading a label back -/

/-- What a backslash stands for with the given character behind it. -/
def meaning? : Char → Option Char
  | '\\' => some '\\'
  | '"' => some '"'
  | 'n' => some '\n'
  | _ => none

/-- Takes the escapes of a text back, from left to right.  Nothing is read from a text with another
escape, or with a backslash, a quote or a newline that is not escaped. -/
def unescapeChars? : List Char → Option (List Char)
  | [] => some []
  | '\\' :: c :: cs =>
    match meaning? c with
    | some d => (unescapeChars? cs).map (d :: ·)
    | none => none
  | c :: cs =>
    if c = '\\' ∨ c = '"' ∨ c = '\n' then none else (unescapeChars? cs).map (c :: ·)

/-- The label that an escaped text stands for. -/
def unescapeLabel? (t : String) : Option String := (unescapeChars? t.toList).map String.ofList

theorem labelChar_of_not {c : Char} (h : ¬(c = '\\' ∨ c = '"' ∨ c = '\n')) : labelChar c = [c] := by
  rw [not_or, not_or] at h
  rw [labelChar, if_neg h.1, if_neg h.2.1, if_neg h.2.2]

theorem labelChar_of_meaning? {c d : Char} (h : meaning? c = some d) :
    labelChar d = ['\\', c] := by
  unfold meaning? at h
  split at h
  · cases h
    rfl
  · cases h
    rfl
  · cases h
    rfl
  · cases h

theorem unescapeChars?_labelChar_append (c : Char) (t : List Char) :
    unescapeChars? (labelChar c ++ t) = (unescapeChars? t).map (c :: ·) := by
  by_cases h : c = '\\' ∨ c = '"' ∨ c = '\n'
  · rcases h with rfl | rfl | rfl <;> rfl
  · rw [labelChar_of_not h, List.singleton_append, unescapeChars?, if_neg h]
    exact fun d ds hc _ => h (.inl hc)

/-- **Exactly the escaped texts are read**, each as the text that it was written from. -/
theorem unescapeChars?_eq_some_iff {t cs : List Char} :
    unescapeChars? t = some cs ↔ t = escapeLabelChars cs := by
  rw [escapeLabelChars_eq_flatMap]
  constructor
  · intro h
    fun_induction unescapeChars? t generalizing cs with
    | case1 =>
        cases h
        rfl
    | case2 c t d hd ih =>
        obtain ⟨ds, hds, rfl⟩ := Option.map_eq_some_iff.mp h
        rw [List.flatMap_cons, labelChar_of_meaning? hd, ih hds]
        rfl
    | case3 c t hnone => cases h
    | case4 c t _ hbare => cases h
    | case5 c t _ hkept ih =>
        obtain ⟨ds, hds, rfl⟩ := Option.map_eq_some_iff.mp h
        rw [List.flatMap_cons, labelChar_of_not hkept, ih hds]
        rfl
  · rintro rfl
    induction cs with
    | nil => rfl
    | cons c cs ih => rw [List.flatMap_cons, unescapeChars?_labelChar_append, ih, Option.map_some]

theorem unescapeLabel?_eq_some_iff {t s : String} :
    unescapeLabel? t = some s ↔ t = escapeLabel s := by
  unfold unescapeLabel? escapeLabel
  rw [Option.map_eq_some_iff]
  constructor
  · rintro ⟨cs, hcs, rfl⟩
    rw [String.toList_ofList, ← unescapeChars?_eq_some_iff.mp hcs, String.ofList_toList]
  · intro h
    refine ⟨s.toList, unescapeChars?_eq_some_iff.mpr ?_, String.ofList_toList⟩
    rw [h, String.toList_ofList]

/-- **Escaping a label is safe inside quotes and can be taken back.**  The three passes replace each
backslash, quote and newline on its own; what they write has no newline, every quote in it stands
behind an odd number of backslashes, and an even number of them is left at its end.  Read from left
to right, the escaped text gives the label back, and no other text does; so different labels stay
different. -/
theorem escapeLabel_reversible (s : String) :
    (escapeLabel s).toList = s.toList.flatMap labelChar ∧
    '\n' ∉ (escapeLabel s).toList ∧
    (∀ before after, (escapeLabel s).toList = before ++ '"' :: after →
      Odd (endingSlashes before)) ∧
    Even (endingSlashes (escapeLabel s).toList) ∧
    (∀ t, unescapeLabel? t = some s ↔ t = escapeLabel s) ∧
    ∀ s', escapeLabel s' = escapeLabel s → s' = s := by
  obtain ⟨hquotes, hending⟩ := sealed_iff_balanced.mp (sealed_escapeLabel s)
  refine ⟨?_, onOneLine_escapeLabel s, hquotes, hending, ?_, ?_⟩
  · rw [escapeLabel, String.toList_ofList, escapeLabelChars_eq_flatMap]
  · exact fun t => unescapeLabel?_eq_some_iff
  · intro s' h
    have hread := unescapeLabel?_eq_some_iff.mpr h.symm
    rw [unescapeLabel?_eq_some_iff.mpr rfl] at hread
    exact (Option.some.inj hread).symm

end Walkthrough.Report

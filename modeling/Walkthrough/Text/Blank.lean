/-! # Blank characters

The characters with the Unicode property `White_Space`, and the removal of a run of them from
either end of a text.

* `isBlank` decides the property;
* `trimLeft`, `trimRight` and `trim` remove blanks; more blanks at the ends make no difference
  (`trim_append_append`). -/

namespace Walkthrough.Text

/-- The code points with the property `White_Space`, as closed ranges in increasing order. -/
def blankRanges : List (Nat × Nat) :=
  [(0x09, 0x0D), (0x20, 0x20), (0x85, 0x85), (0xA0, 0xA0), (0x1680, 0x1680), (0x2000, 0x200A),
    (0x2028, 0x2029), (0x202F, 0x202F), (0x205F, 0x205F), (0x3000, 0x3000)]

/-- Has the character the property `White_Space`? -/
def isBlank (c : Char) : Bool :=
  blankRanges.any fun r => decide (r.1 ≤ c.toNat) && decide (c.toNat ≤ r.2)

/-- The text without its leading blanks. -/
def trimLeft (cs : List Char) : List Char := cs.dropWhile isBlank

/-- The text without its trailing blanks. -/
def trimRight (cs : List Char) : List Char := (cs.reverse.dropWhile isBlank).reverse

/-- The text without the blanks at its two ends. -/
def trim (cs : List Char) : List Char := trimRight (trimLeft cs)

@[simp] theorem trimLeft_nil : trimLeft [] = [] := rfl

theorem trimLeft_cons_of_not_blank {c : Char} (h : isBlank c = false) (cs : List Char) :
    trimLeft (c :: cs) = c :: cs := by simp [trimLeft, h]

theorem trimLeft_append {ws : List Char} (h : ∀ c ∈ ws, isBlank c = true) (cs : List Char) :
    trimLeft (ws ++ cs) = trimLeft cs :=
  List.dropWhile_append_of_pos h

/-- No printed character of ASCII is blank. -/
theorem isBlank_eq_false {c : Char} (h : 33 ≤ c.toNat) (h' : c.toNat ≤ 126) :
    isBlank c = false := by
  simp only [isBlank, blankRanges, List.any_cons, List.any_nil, Bool.or_eq_false_iff,
    Bool.and_eq_false_iff, decide_eq_false_iff_not, and_true]
  omega

theorem isPrefix_trimRight (cs : List Char) : trimRight cs <+: cs := by
  have h := List.reverse_prefix.mpr (List.dropWhile_suffix isBlank (l := cs.reverse))
  rwa [List.reverse_reverse] at h

/-- Blanks are not removed from in front of what is none. -/
theorem trimRight_append_of_not_blank {cs : List Char} (h : ∀ c ∈ cs, isBlank c = false)
    (ds : List Char) : trimRight (cs ++ ds) = cs ++ trimRight ds := by
  have hcs : cs.reverse.dropWhile isBlank = cs.reverse := by
    cases hr : cs.reverse with
    | nil => rfl
    | cons c rest =>
        have hc : c ∈ cs := List.mem_reverse.mp (hr ▸ List.mem_cons_self)
        exact trimLeft_cons_of_not_blank (h c hc) rest
  unfold trimRight
  rw [List.reverse_append, List.dropWhile_append]
  split
  · rename_i hds
    rw [hcs, List.isEmpty_iff.mp hds, List.reverse_reverse, List.reverse_nil, List.append_nil]
  · rw [List.reverse_append, List.reverse_reverse]

theorem trimRight_append {ws : List Char} (h : ∀ c ∈ ws, isBlank c = true) (cs : List Char) :
    trimRight (cs ++ ws) = trimRight cs := by
  unfold trimRight
  rw [List.reverse_append,
    List.dropWhile_append_of_pos fun c hc => h c (List.mem_reverse.mp hc)]

theorem trim_append {ws : List Char} (h : ∀ c ∈ ws, isBlank c = true) (cs : List Char) :
    trim (cs ++ ws) = trim cs := by
  unfold trim
  have hleft : trimLeft (cs ++ ws) =
      if (trimLeft cs).isEmpty then trimLeft ws else trimLeft cs ++ ws :=
    List.dropWhile_append
  rw [hleft]
  split
  · rename_i hcs
    have hws : trimLeft ws = [] := by
      have := trimLeft_append h []
      rwa [List.append_nil] at this
    rw [hws, List.isEmpty_iff.mp hcs]
  · exact trimRight_append h _

/-- Blanks before a text and behind it make no difference. -/
theorem trim_append_append {ws ws' : List Char} (h : ∀ c ∈ ws, isBlank c = true)
    (h' : ∀ c ∈ ws', isBlank c = true) (cs : List Char) : trim (ws ++ cs ++ ws') = trim cs := by
  rw [trim_append h', trim, trimLeft_append h, trim]

end Walkthrough.Text

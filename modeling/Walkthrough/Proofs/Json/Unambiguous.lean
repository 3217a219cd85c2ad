import Mathlib.Tactic.SplitIfs
import Walkthrough.Json.Printer
import Walkthrough.Json.Reader
import Walkthrough.Proofs.Json.Exact
import Walkthrough.Text.Numeral

/-! # JSON text is unambiguous

Two exact values with one text are equal.  A value is told apart from others by its first character,
and where its text ends is seen from the text alone: a string ends with the first quote that is not
escaped, a number where no digit follows, and an array or object with the line that does not begin
with a comma.

* `Json.quote_append_inj` says this of strings, `Json.toString_append_inj` of numbers;
* `Json.prettyChars_append_inj` says it of all exact values, by induction on the value together with
  the items of its arrays and the fields of its objects;
* `Json.pretty_inj`: exact values are told from their text on several lines. -/

namespace Walkthrough.Json

/-! ### Strings -/

/-- How a character stands in a string: behind a backslash, as the number of a control character, or
as itself. -/
inductive Escape (c : Char) : List Char → Prop
  | letter {d : Char} (h : escaped? d = some c) : Escape c ['\\', d]
  | number (h : c.toNat < 0x20) :
      Escape c ['\\', 'u', '0', '0', hexDigit (c.toNat / 16), hexDigit (c.toNat % 16)]
  | plain (hquote : c ≠ '"') (hslash : c ≠ '\\') : Escape c [c]

theorem escape_escapeChar (c : Char) : Escape c (escapeChar c) := by
  unfold escapeChar
  split_ifs with hquote hslash hback hfeed hnewline hreturn htab hcontrol
  · exact .letter (by rw [hquote]; rfl)
  · exact .letter (by rw [hslash]; rfl)
  · exact .letter (by rw [hback]; rfl)
  · exact .letter (by rw [hfeed]; rfl)
  · exact .letter (by rw [hnewline]; rfl)
  · exact .letter (by rw [hreturn]; rfl)
  · exact .letter (by rw [htab]; rfl)
  · exact .number hcontrol
  · exact .plain hquote hslash

theorem hexDigit_inj : ∀ m < 16, ∀ n < 16, hexDigit m = hexDigit n → m = n := by decide

/-- The end of an escape is seen from the escape. -/
theorem Escape.append_inj {c d : Char} {cs ds rest rest' : List Char} (hc : Escape c cs)
    (hd : Escape d ds) (h : cs ++ rest = ds ++ rest') : c = d ∧ rest = rest' := by
  cases hc with
  | letter hc =>
      cases hd with
      | letter hd =>
          obtain ⟨-, hletter⟩ := List.cons.inj h
          obtain ⟨rfl, hrest⟩ := List.cons.inj hletter
          exact ⟨Option.some.inj (hc.symm.trans hd), hrest⟩
      | number _ =>
          obtain ⟨-, hletter⟩ := List.cons.inj h
          obtain ⟨rfl, -⟩ := List.cons.inj hletter
          cases hc
      | plain _ hslash => exact absurd (List.cons.inj h).1.symm hslash
  | number hc =>
      cases hd with
      | letter hd =>
          obtain ⟨-, hletter⟩ := List.cons.inj h
          obtain ⟨rfl, -⟩ := List.cons.inj hletter
          cases hd
      | number hd =>
          simp only [List.cons_append, List.nil_append, List.cons.injEq, true_and] at h
          obtain ⟨hhigh, hlow, hrest⟩ := h
          have hhigh := hexDigit_inj _ (by omega) _ (by omega) hhigh
          have hlow := hexDigit_inj _ (by omega) _ (by omega) hlow
          exact ⟨Char.toNat_inj.mp (by omega), hrest⟩
      | plain _ hslash => exact absurd (List.cons.inj h).1.symm hslash
  | plain _ hslash =>
      cases hd with
      | letter _ => exact absurd (List.cons.inj h).1 hslash
      | number _ => exact absurd (List.cons.inj h).1 hslash
      | plain _ _ => exact List.cons.inj h

theorem Escape.ne_quote {c : Char} {cs rest rest' : List Char} (hc : Escape c cs) :
    cs ++ rest ≠ '"' :: rest' := by
  cases hc with
  | letter _ => exact fun h => absurd (List.cons.inj h).1 (by decide)
  | number _ => exact fun h => absurd (List.cons.inj h).1 (by decide)
  | plain hquote _ => exact fun h => hquote (List.cons.inj h).1

theorem escaped_append_inj {cs ds rest rest' : List Char}
    (h : cs.flatMap escapeChar ++ '"' :: rest = ds.flatMap escapeChar ++ '"' :: rest') :
    cs = ds ∧ rest = rest' := by
  induction cs generalizing ds with
  | nil =>
      cases ds with
      | nil => exact ⟨rfl, (List.cons.inj h).2⟩
      | cons d ds =>
          rw [List.flatMap_cons, List.append_assoc] at h
          exact absurd h.symm (escape_escapeChar d).ne_quote
  | cons c cs ih =>
      cases ds with
      | nil =>
          rw [List.flatMap_cons, List.append_assoc] at h
          exact absurd h (escape_escapeChar c).ne_quote
      | cons d ds =>
          rw [List.flatMap_cons, List.flatMap_cons, List.append_assoc, List.append_assoc] at h
          obtain ⟨rfl, htail⟩ := (escape_escapeChar c).append_inj (escape_escapeChar d) h
          obtain ⟨rfl, hrest⟩ := ih htail
          exact ⟨rfl, hrest⟩

theorem quote_append_inj {s t : String} {rest rest' : List Char}
    (h : quote s ++ rest = quote t ++ rest') : s = t ∧ rest = rest' := by
  simp only [quote, List.cons_append, List.append_assoc, List.nil_append, List.cons.injEq,
    true_and] at h
  obtain ⟨hchars, hrest⟩ := escaped_append_inj h
  exact ⟨String.toList_inj.mp hchars, hrest⟩

/-! ### Numbers -/

/-- What follows a value in a text: nothing more, a comma or the next line. -/
def Ends (rest : List Char) : Prop := ∀ c ∈ rest.head?, c = ',' ∨ c = '\n'

theorem ends_nil : Ends [] := fun _ h => absurd h (Option.not_mem_none _)

theorem ends_comma (cs : List Char) : Ends (',' :: cs) :=
  fun _ h => .inl (Option.mem_some.mp h).symm

theorem ends_newline (cs : List Char) : Ends ('\n' :: cs) :=
  fun _ h => .inr (Option.mem_some.mp h).symm

theorem append_inj_of_test {p : Char → Bool} {cs ds rest rest' : List Char}
    (hcs : ∀ c ∈ cs, p c = true) (hds : ∀ c ∈ ds, p c = true)
    (hrest : ∀ c ∈ rest.head?, p c = false) (hrest' : ∀ c ∈ rest'.head?, p c = false)
    (h : cs ++ rest = ds ++ rest') : cs = ds ∧ rest = rest' := by
  have htake : ∀ {cs rest : List Char}, (∀ c ∈ cs, p c = true) → (∀ c ∈ rest.head?, p c = false) →
      (cs ++ rest).takeWhile p = cs := by
    intro cs rest hcs hrest
    rw [List.takeWhile_append_of_pos hcs]
    cases rest with
    | nil => simp
    | cons c rest => simp [hrest c rfl]
  have heq : cs = ds := by
    rw [← htake hcs hrest, h, htake hds hrest']
  subst heq
  exact ⟨rfl, List.append_cancel_left h⟩

/-- The end of a number is seen from what follows. -/
theorem toString_append_inj {m n : Int} {rest rest' : List Char} (hrest : Ends rest)
    (hrest' : Ends rest') (h : (toString m).toList ++ rest = (toString n).toList ++ rest') :
    m = n ∧ rest = rest' := by
  have hnumeral : ∀ k : Int, ∀ c ∈ (toString k).toList, (c.isDigit || c == '-') = true := by
    intro k c hc
    rcases Text.isDigit_or_sign_of_mem_toString hc with hdigit | rfl
    · rw [hdigit, Bool.true_or]
    · decide
  have hend : ∀ {rest : List Char}, Ends rest →
      ∀ c ∈ rest.head?, (c.isDigit || c == '-') = false := by
    intro rest hrest c hc
    rcases hrest c hc with rfl | rfl <;> decide
  obtain ⟨hchars, htail⟩ :=
    append_inj_of_test (hnumeral m) (hnumeral n) (hend hrest) (hend hrest') h
  exact ⟨Text.toString_injective hchars, htail⟩

/-! ### Values -/

/-- The kinds of exact values. -/
inductive Kind where
  | null
  | bool (b : Bool)
  | number
  | string
  | array
  | object
deriving DecidableEq, Repr

/-- The kind of a value. -/
def kind : Json → Kind
  | null => .null
  | bool b => .bool b
  | int _ => .number
  | real _ => .number
  | str _ => .string
  | arr _ => .array
  | obj _ => .object

/-- The kind of the value whose text begins with a character. -/
def kindOf (c : Char) : Kind :=
  if c = 'n' then .null
  else if c = 't' then .bool true
  else if c = 'f' then .bool false
  else if c = '"' then .string
  else if c = '[' then .array
  else if c = '\x7b' then .object
  else .number

theorem kindOf_numeral {c : Char} (h : c.isDigit = true ∨ c = '-') : kindOf c = .number := by
  unfold kindOf
  split_ifs with hn ht hf hquote hbracket hbrace
  · subst hn
    exact absurd h (by decide)
  · subst ht
    exact absurd h (by decide)
  · subst hf
    exact absurd h (by decide)
  · subst hquote
    exact absurd h (by decide)
  · subst hbracket
    exact absurd h (by decide)
  · subst hbrace
    exact absurd h (by decide)
  · rfl

theorem toList_toString_ne_nil (n : Int) : (toString n).toList ≠ [] := by
  rw [Text.toList_toString]
  exact List.append_ne_nil_of_right_ne_nil _ Nat.toDigits_ne_nil

/-- The first character of a text tells the kind of the value. -/
theorem Exact.head_prettyChars {j : Json} (h : j.Exact) (indent : Nat) :
    ∃ c cs, j.prettyChars indent = c :: cs ∧ kindOf c = j.kind := by
  cases h with
  | null => exact ⟨_, _, rfl, rfl⟩
  | bool b => cases b <;> exact ⟨_, _, rfl, rfl⟩
  | int n =>
      obtain ⟨c, cs, hcs⟩ := List.exists_cons_of_ne_nil (toList_toString_ne_nil n)
      have hc : c ∈ (toString n).toList := hcs ▸ List.mem_cons_self
      exact ⟨c, cs, hcs, kindOf_numeral (Text.isDigit_or_sign_of_mem_toString hc)⟩
  | str s => exact ⟨_, _, rfl, rfl⟩
  | @arr items _ => cases items <;> exact ⟨_, _, rfl, rfl⟩
  | @obj fields _ _ => cases fields <;> exact ⟨_, _, rfl, rfl⟩

theorem kind_eq_of_prettyChars_append {j j' : Json} (hj : j.Exact) (hj' : j'.Exact) {indent : Nat}
    {rest rest' : List Char} (h : j.prettyChars indent ++ rest = j'.prettyChars indent ++ rest') :
    j.kind = j'.kind := by
  obtain ⟨c, cs, hc, hkind⟩ := hj.head_prettyChars indent
  obtain ⟨d, ds, hd, hkind'⟩ := hj'.head_prettyChars indent
  rw [hc, hd] at h
  rw [← hkind, ← hkind', (List.cons.inj h).1]

theorem ends_prettyItems (indent : Nat) (items : List Json) (cs : List Char) :
    Ends (prettyItems indent items ++ '\n' :: cs) := by
  cases items with
  | nil => exact ends_newline _
  | cons x xs => exact ends_comma _

theorem ends_prettyFields (indent : Nat) (fields : List (String × Json)) (cs : List Char) :
    Ends (prettyFields indent fields ++ '\n' :: cs) := by
  cases fields with
  | nil => exact ends_newline _
  | cons f fs => exact ends_comma _

theorem prettyItems_of_prettyChars {x y : Json} {xs ys : List Json} {indent : Nat}
    {rest rest' : List Char} (h : (arr (x :: xs)).prettyChars indent ++ rest =
      (arr (y :: ys)).prettyChars indent ++ rest') :
    prettyItems (indent + 2) (x :: xs) ++ '\n' :: (List.replicate indent ' ' ++ ']' :: rest) =
      prettyItems (indent + 2) (y :: ys) ++
        '\n' :: (List.replicate indent ' ' ++ ']' :: rest') := by
  simpa [prettyChars, prettyItems, newline] using h

theorem prettyFields_of_prettyChars {f g : String × Json} {fs gs : List (String × Json)}
    {indent : Nat} {rest rest' : List Char} (h : (obj (f :: fs)).prettyChars indent ++ rest =
      (obj (g :: gs)).prettyChars indent ++ rest') :
    prettyFields (indent + 2) (f :: fs) ++
        '\n' :: (List.replicate indent ' ' ++ '\x7d' :: rest) =
      prettyFields (indent + 2) (g :: gs) ++
        '\n' :: (List.replicate indent ' ' ++ '\x7d' :: rest') := by
  simpa [prettyChars, prettyFields, newline] using h

mutual

/-- **The end of an exact value is seen from its text.** -/
theorem prettyChars_append_inj : ∀ (j : Json) {j' : Json} {indent : Nat} {rest rest' : List Char},
    j.Exact → j'.Exact → Ends rest → Ends rest' →
    j.prettyChars indent ++ rest = j'.prettyChars indent ++ rest' → j = j' ∧ rest = rest'
  | null, j', _, _, _, hj, hj', _, _, h => by
      have hkind := kind_eq_of_prettyChars_append hj hj' h
      cases hj' <;> cases hkind
      exact ⟨rfl, List.append_cancel_left h⟩
  | bool b, j', _, _, _, hj, hj', _, _, h => by
      have hkind := kind_eq_of_prettyChars_append hj hj' h
      cases hj' <;> cases hkind
      exact ⟨rfl, List.append_cancel_left h⟩
  | int n, j', _, _, _, hj, hj', hrest, hrest', h => by
      have hkind := kind_eq_of_prettyChars_append hj hj' h
      cases hj' <;> cases hkind
      obtain ⟨rfl, htail⟩ := toString_append_inj hrest hrest' h
      exact ⟨rfl, htail⟩
  | str s, j', _, _, _, hj, hj', _, _, h => by
      have hkind := kind_eq_of_prettyChars_append hj hj' h
      cases hj' <;> cases hkind
      obtain ⟨rfl, htail⟩ := quote_append_inj h
      exact ⟨rfl, htail⟩
  | real x, _, _, _, _, hj, _, _, _, _ => nomatch hj
  | arr [], j', _, _, _, hj, hj', _, _, h => by
      have hkind := kind_eq_of_prettyChars_append hj hj' h
      cases hj' with
      | @arr ys _ =>
          cases ys with
          | nil => exact ⟨rfl, List.append_cancel_left h⟩
          | cons y ys => simp [prettyChars, newline] at h
      | _ => cases hkind
  | arr (x :: xs), j', indent, rest, rest', hj, hj', _, _, h => by
      have hkind := kind_eq_of_prettyChars_append hj hj' h
      cases hj with | arr hxs =>
      cases hj' with
      | @arr ys hys =>
          cases ys with
          | nil => simp [prettyChars, newline] at h
          | cons y ys =>
              obtain ⟨heq, htail⟩ :=
                prettyItems_append_inj (x :: xs) hxs hys (prettyItems_of_prettyChars h)
              have hclosed := List.append_cancel_left htail
              exact ⟨congrArg arr heq, (List.cons.inj hclosed).2⟩
      | _ => cases hkind
  | obj [], j', _, _, _, hj, hj', _, _, h => by
      have hkind := kind_eq_of_prettyChars_append hj hj' h
      cases hj' with
      | @obj gs _ _ =>
          cases gs with
          | nil => exact ⟨rfl, List.append_cancel_left h⟩
          | cons g gs => simp [prettyChars, newline] at h
      | _ => cases hkind
  | obj ((k, x) :: fs), j', indent, rest, rest', hj, hj', _, _, h => by
      have hkind := kind_eq_of_prettyChars_append hj hj' h
      cases hj with | obj _ hfs =>
      cases hj' with
      | @obj gs _ hgs =>
          cases gs with
          | nil => simp [prettyChars, newline] at h
          | cons g gs =>
              obtain ⟨heq, htail⟩ :=
                prettyFields_append_inj ((k, x) :: fs) hfs hgs (prettyFields_of_prettyChars h)
              have hclosed := List.append_cancel_left htail
              exact ⟨congrArg obj heq, (List.cons.inj hclosed).2⟩
      | _ => cases hkind

/-- The items, each behind a comma, end with the first line that does not begin with a comma. -/
theorem prettyItems_append_inj : ∀ (xs : List Json) {ys : List Json} {indent : Nat}
    {rest rest' : List Char}, (∀ x ∈ xs, x.Exact) → (∀ y ∈ ys, y.Exact) →
    prettyItems indent xs ++ '\n' :: rest = prettyItems indent ys ++ '\n' :: rest' →
    xs = ys ∧ rest = rest'
  | [], [], _, _, _, _, _, h => ⟨rfl, (List.cons.inj h).2⟩
  | [], y :: ys, _, _, _, _, _, h => by simp [prettyItems] at h
  | x :: xs, [], _, _, _, _, _, h => by simp [prettyItems] at h
  | x :: xs, y :: ys, indent, _, _, hxs, hys, h => by
      rw [List.forall_mem_cons] at hxs hys
      simp only [prettyItems, List.append_assoc, List.cons_append, List.cons.injEq, true_and,
        List.append_cancel_left_eq] at h
      obtain ⟨rfl, hitems⟩ := prettyChars_append_inj x hxs.1 hys.1 (ends_prettyItems _ xs _)
        (ends_prettyItems _ ys _) h
      obtain ⟨rfl, htail⟩ := prettyItems_append_inj xs hxs.2 hys.2 hitems
      exact ⟨rfl, htail⟩

theorem prettyFields_append_inj : ∀ (fs : List (String × Json)) {gs : List (String × Json)}
    {indent : Nat} {rest rest' : List Char}, (∀ f ∈ fs, f.2.Exact) → (∀ g ∈ gs, g.2.Exact) →
    prettyFields indent fs ++ '\n' :: rest = prettyFields indent gs ++ '\n' :: rest' →
    fs = gs ∧ rest = rest'
  | [], [], _, _, _, _, _, h => ⟨rfl, (List.cons.inj h).2⟩
  | [], (k, y) :: gs, _, _, _, _, _, h => by simp [prettyFields] at h
  | (k, x) :: fs, [], _, _, _, _, _, h => by simp [prettyFields] at h
  | (k, x) :: fs, (l, y) :: gs, indent, _, _, hfs, hgs, h => by
      rw [List.forall_mem_cons] at hfs hgs
      simp only [prettyFields, List.append_assoc, List.cons_append, List.cons.injEq, true_and,
        List.append_cancel_left_eq] at h
      obtain ⟨rfl, hvalue⟩ := quote_append_inj h
      simp only [List.cons.injEq, true_and] at hvalue
      obtain ⟨rfl, hfields⟩ := prettyChars_append_inj x hfs.1 hgs.1 (ends_prettyFields _ fs _)
        (ends_prettyFields _ gs _) hvalue
      obtain ⟨rfl, htail⟩ := prettyFields_append_inj fs hfs.2 hgs.2 hfields
      exact ⟨rfl, htail⟩

end

/-- **Exact values are told from their text.** -/
theorem pretty_inj {j j' : Json} (hj : j.Exact) (hj' : j'.Exact) (h : j.pretty = j'.pretty) :
    j = j' := by
  have hchars : j.prettyChars 0 ++ [] = j'.prettyChars 0 ++ [] := by
    rw [List.append_nil, List.append_nil]
    exact String.ofList_injective h
  exact (prettyChars_append_inj j hj hj' ends_nil ends_nil hchars).1

end Walkthrough.Json

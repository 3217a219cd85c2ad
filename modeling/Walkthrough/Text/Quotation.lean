import Walkthrough.Text.Lines

/-! # Quotations in a line

Double quotes open and close quotations.  Inside one, a backslash takes the next character along,
so a quote behind it closes nothing.

* `quoteParts?` cuts a line at the quotes that open or close: its parts stand outside and inside
  quotations in turn, and the first and the last one outside.
* `Sealed` says that a text between quotes neither closes its quotation nor takes the closing quote
  along; `Plain` texts hold nothing that could, nor a newline.
* `Alternates` are parts that may be written with quotes between them; they are read back as they
  were written (`quoteParts?_intercalate`). -/

namespace Walkthrough.Text

/-- The parts of a text at the quotes that open or close a quotation, for a text that begins inside
or outside of one; none if the last quotation is not closed. -/
def partsAt? : Bool → List Char → Option (List (List Char))
  | false, [] => some [[]]
  | true, [] => none
  | true, '\\' :: c :: cs => (partsAt? true cs).map fun ps => consFirst '\\' (consFirst c ps)
  | inside, c :: cs =>
    if c = '"' then (partsAt? (!inside) cs).map ([] :: ·)
    else (partsAt? inside cs).map (consFirst c)

/-- The parts of a line outside and inside quotations, in turn. -/
def quoteParts? (line : String) : Option (List String) :=
  (partsAt? false line.toList).map (·.map String.ofList)

/-- Between quotes, the text is one quotation: each quote in it stands behind a backslash that takes
it along, and no backslash at the end is left to take the closing quote along. -/
inductive Sealed : List Char → Prop
  | nil : Sealed []
  | escaped {c : Char} {cs : List Char} (h : Sealed cs) : Sealed ('\\' :: c :: cs)
  | cons {c : Char} {cs : List Char} (hquote : c ≠ '"') (hslash : c ≠ '\\') (h : Sealed cs) :
      Sealed (c :: cs)

/-- Nothing in the text means something in a line with quotations. -/
def Plain (s : String) : Prop := ∀ c ∈ s.toList, c ≠ '"' ∧ c ≠ '\\' ∧ c ≠ '\n'

instance (s : String) : Decidable (Plain s) :=
  List.decidableBAll (fun c => c ≠ '"' ∧ c ≠ '\\' ∧ c ≠ '\n') s.toList

@[simp] theorem plain_append {s t : String} : Plain (s ++ t) ↔ Plain s ∧ Plain t := by
  unfold Plain
  rw [String.toList_append, List.forall_mem_append]

/-- A number is written in digits. -/
@[simp] theorem plain_repr (n : Nat) : Plain n.repr := by
  intro c hc
  have hdigit := isDigit_of_mem_repr hc
  refine ⟨?_, ?_, ?_⟩
  all_goals
    rintro rfl
    exact absurd hdigit (by decide)

theorem Plain.onOneLine {s : String} (h : Plain s) : OnOneLine s :=
  fun hmem => (h _ hmem).2.2 rfl

theorem Plain.quote_not_mem {s : String} (h : Plain s) : '"' ∉ s.toList :=
  fun hmem => (h _ hmem).1 rfl

theorem sealed_of_not_mem {cs : List Char} (hquote : '"' ∉ cs) (hslash : '\\' ∉ cs) :
    Sealed cs := by
  induction cs with
  | nil => exact .nil
  | cons c cs ih =>
      rw [List.mem_cons, not_or] at hquote hslash
      exact .cons (Ne.symm hquote.1) (Ne.symm hslash.1) (ih hquote.2 hslash.2)

theorem Plain.sealed {s : String} (h : Plain s) : Sealed s.toList :=
  sealed_of_not_mem h.quote_not_mem fun hmem => (h _ hmem).2.1 rfl

/-! ### Reading parts back -/

theorem map_consFirst_cons (c : Char) (p : List Char) (o : Option (List (List Char))) :
    (o.map (p :: ·)).map (consFirst c) = o.map ((c :: p) :: ·) := by
  cases o <;> rfl

theorem partsAt?_outside {p : List Char} (hp : '"' ∉ p) (cs : List Char) :
    partsAt? false (p ++ '"' :: cs) = (partsAt? true cs).map (p :: ·) := by
  induction p with
  | nil => rfl
  | cons c p ih =>
      rw [List.mem_cons, not_or] at hp
      rw [List.cons_append, partsAt?, if_neg (Ne.symm hp.1), ih hp.2, map_consFirst_cons]
      simp

theorem partsAt?_last {p : List Char} (hp : '"' ∉ p) : partsAt? false p = some [p] := by
  induction p with
  | nil => rfl
  | cons c p ih =>
      rw [List.mem_cons, not_or] at hp
      rw [partsAt?, if_neg (Ne.symm hp.1), ih hp.2]
      · rfl
      · simp

theorem partsAt?_inside {p : List Char} (hp : Sealed p) (cs : List Char) :
    partsAt? true (p ++ '"' :: cs) = (partsAt? false cs).map (p :: ·) := by
  induction hp with
  | nil => simp [partsAt?]
  | escaped _ ih =>
      rw [List.cons_append, List.cons_append, partsAt?, ih, Option.map_map]
      rfl
  | cons hquote hslash _ ih =>
      rw [List.cons_append, partsAt?, if_neg hquote, ih, map_consFirst_cons]
      exact fun _ _ _ hc _ => hslash hc

/-- The parts of a line with quotations: those inside are sealed, those outside hold no quote, and
the last one stands outside. -/
inductive Alternates : Bool → List String → Prop
  | last {p : String} (hp : '"' ∉ p.toList) : Alternates false [p]
  | outside {p : String} {ps : List String} (hp : '"' ∉ p.toList) (hps : Alternates true ps) :
      Alternates false (p :: ps)
  | inside {p : String} {ps : List String} (hp : Sealed p.toList) (hps : Alternates false ps) :
      Alternates true (p :: ps)

theorem Alternates.ne_nil {inside : Bool} {ps : List String} (h : Alternates inside ps) :
    ps ≠ [] := by
  cases h <;> exact List.cons_ne_nil _ _

theorem toList_intercalate_cons (p : String) {ps : List String} (h : ps ≠ []) :
    ("\"".intercalate (p :: ps)).toList = p.toList ++ '"' :: ("\"".intercalate ps).toList := by
  rw [String.intercalate_cons_of_ne_nil h, String.toList_append, String.toList_append,
    List.append_assoc]
  rfl

theorem Alternates.partsAt?_intercalate {inside : Bool} {ps : List String}
    (h : Alternates inside ps) :
    partsAt? inside ("\"".intercalate ps).toList = some (ps.map String.toList) := by
  induction h with
  | last hp => rw [String.intercalate_singleton, partsAt?_last hp, List.map_singleton]
  | outside hp hps ih =>
      rw [toList_intercalate_cons _ hps.ne_nil, partsAt?_outside hp, ih]
      rfl
  | inside hp hps ih =>
      rw [toList_intercalate_cons _ hps.ne_nil, partsAt?_inside hp, ih]
      rfl

/-- **Parts are read as they were written**, with quotes between them: every quotation closes where
its part ends. -/
theorem quoteParts?_intercalate {ps : List String} (h : Alternates false ps) :
    quoteParts? ("\"".intercalate ps) = some ps := by
  have hback : ps.map (String.ofList ∘ String.toList) = ps := by
    have hid : String.ofList ∘ String.toList = id := funext fun p => String.ofList_toList
    rw [hid, List.map_id]
  rw [quoteParts?, h.partsAt?_intercalate, Option.map_some, List.map_map, hback]

end Walkthrough.Text

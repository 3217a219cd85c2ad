import Walkthrough.Command.Options
import Walkthrough.Proofs.Except

/-! # What arguments give

Arguments that are accepted give values to options, one after the other; the options that are read
from them hold these values in their order.

* `Options.Given` says which values arguments give, without going through them with an option that
  waits.
* `Options.exists_given_of_read`: accepted arguments give values, and giving these one by one leads
  to the options that are read.
* `Options.Holds` says that options hold given values, field by field; `Options.holds_of_giveAll`
  says that those do that they were given to. -/

namespace Walkthrough.Options

/-- The values that arguments give to options, in order: a value stands in the argument of its
option or in the next one, and some options go without. -/
inductive Given : List String → List (OptionName × String) → Prop
  | nil : Given [] []
  | dashes {s : String} (hs : argument s = .dashes) : Given [s] []
  | joined {s : String} {name : OptionName} {value : String} {rest : List String}
      {items : List (OptionName × String)}
      (hs : argument s = .option (some (.value name)) (some value)) (h : Given rest items) :
      Given (s :: rest) ((name, value) :: items)
  | apart {s t : String} {name : OptionName} {value : String} {rest : List String}
      {items : List (OptionName × String)}
      (hs : argument s = .option (some (.value name)) none) (ht : argument t = .plain value)
      (h : Given rest items) : Given (s :: t :: rest) ((name, value) :: items)
  | bare {s : String} {name : OptionName} {value : String} {rest : List String}
      {items : List (OptionName × String)}
      (hs : argument s = .option (some (.value name)) none) (hv : absent? name = some value)
      (h : Given rest items) : Given (s :: rest) ((name, value) :: items)

/-- The options that values lead to, given one by one. -/
def giveAll (o : Options) (items : List (OptionName × String)) : Option Options :=
  items.foldlM (fun o item => o.give item.1 item.2) o

@[simp] theorem giveAll_nil (o : Options) : o.giveAll [] = some o := rfl

theorem giveAll_cons (o : Options) (name : OptionName) (value : String)
    (items : List (OptionName × String)) :
    o.giveAll ((name, value) :: items) = (o.give name value).bind (·.giveAll items) := rfl

/-! ### Going through the arguments -/

/-- The values that arguments give behind an option that waits for its value. -/
def GivenBehind (waiting : Option OptionName) (args : List String)
    (items : List (OptionName × String)) : Prop :=
  match waiting with
  | none => Given args items
  | some name => ∀ s, argument s = .option (some (.value name)) none → Given (s :: args) items

/-- An option that goes without a value counts as if it had been given one. -/
theorem exists_given_of_settle {o o' : Options} {waiting : Option OptionName}
    (h : o.settle waiting = .ok o') :
    ∃ first, o.giveAll first = some o' ∧
      ∀ args items, Given args items → GivenBehind waiting args (first ++ items) := by
  cases waiting with
  | none =>
      cases h
      exact ⟨[], rfl, fun _ _ hg => hg⟩
  | some name =>
      unfold settle at h
      cases hv : absent? name with
      | none => simp [hv] at h
      | some value =>
          cases hgive : o.give name value with
          | none => simp [hv, hgive] at h
          | some o₁ =>
              simp only [hv, hgive, Option.bind_some, Except.ok.injEq] at h
              subst h
              refine ⟨[(name, value)], ?_, fun args items hg s hs => .bare hs hv hg⟩
              rw [giveAll_cons, hgive]
              rfl

theorem exists_settle_of_attach {o o' : Options} {waiting : Option OptionName} {name : OptionName}
    {value : String} (h : o.attach waiting name value = .ok o') :
    ∃ o₁, o.settle waiting = .ok o₁ ∧ o₁.give name value = some o' := by
  obtain ⟨o₁, hsettle, h⟩ := bind_eq_ok_iff.mp h
  refine ⟨o₁, hsettle, ?_⟩
  cases hgive : o₁.give name value with
  | none => simp [hgive] at h
  | some o₂ =>
      simp only [hgive, Except.ok.injEq] at h
      rw [h]

theorem giveAll_append {o o' : Options} {first : List (OptionName × String)}
    (h : o.giveAll first = some o') (items : List (OptionName × String)) :
    o.giveAll (first ++ items) = o'.giveAll items := by
  unfold giveAll at h ⊢
  rw [List.foldlM_append, h]
  rfl

theorem exists_given_of_scan {o o' : Options} {waiting : Option OptionName} {args : List String}
    (h : scan o waiting args = .ok o') :
    ∃ items, GivenBehind waiting args items ∧ o.giveAll items = some o' := by
  induction args generalizing o waiting with
  | nil =>
      obtain ⟨first, hfirst, hg⟩ := exists_given_of_settle h
      exact ⟨first ++ [], hg [] [] .nil, by rw [List.append_nil, hfirst]⟩
  | cons s rest ih =>
      rw [scan] at h
      cases hs : argument s with
      | dashes =>
          simp only [hs] at h
          split at h
          · rename_i hrest
            obtain rfl := List.isEmpty_iff.mp hrest
            obtain ⟨first, hfirst, hg⟩ := exists_given_of_settle h
            exact ⟨first ++ [], hg [s] [] (.dashes hs), by rw [List.append_nil, hfirst]⟩
          · cases h
      | plain value =>
          simp only [hs] at h
          cases waiting with
          | none => cases h
          | some name =>
              obtain ⟨o₁, hattach, hrest⟩ := bind_eq_ok_iff.mp h
              obtain ⟨o₂, hsettle, hgive⟩ := exists_settle_of_attach hattach
              cases hsettle
              obtain ⟨items, hitems, hall⟩ := ih hrest
              refine ⟨(name, value) :: items, fun t ht => .apart ht hs hitems, ?_⟩
              rw [giveAll_cons, hgive]
              exact hall
      | option kind value =>
          match kind, value with
          | none, _ => simp [hs] at h
          | some (.question stop), value =>
              simp only [hs] at h
              obtain ⟨o₁, -, hstop⟩ := bind_eq_ok_iff.mp h
              split at hstop <;> cases hstop
          | some (.value name), some value =>
              simp only [hs] at h
              obtain ⟨o₁, hattach, hrest⟩ := bind_eq_ok_iff.mp h
              obtain ⟨o₂, hsettle, hgive⟩ := exists_settle_of_attach hattach
              obtain ⟨first, hfirst, hg⟩ := exists_given_of_settle hsettle
              obtain ⟨items, hitems, hall⟩ := ih hrest
              refine ⟨first ++ (name, value) :: items, hg _ _ (.joined hs hitems), ?_⟩
              rw [giveAll_append hfirst, giveAll_cons, hgive]
              exact hall
          | some (.value name), none =>
              simp only [hs] at h
              obtain ⟨o₁, hsettle, hrest⟩ := bind_eq_ok_iff.mp h
              obtain ⟨first, hfirst, hg⟩ := exists_given_of_settle hsettle
              obtain ⟨items, hitems, hall⟩ := ih hrest
              refine ⟨first ++ items, hg _ _ (hitems s hs), ?_⟩
              rw [giveAll_append hfirst]
              exact hall

/-- **Accepted arguments give the values of the options that are read.** -/
theorem exists_given_of_read {args : List String} {o : Options} (h : read args = .ok o) :
    ∃ items, Given args items ∧ giveAll {} items = some o :=
  exists_given_of_scan h

/-! ### What options hold -/

/-- The values given to an option, in order. -/
def valuesOf (name : OptionName) (items : List (OptionName × String)) : List String :=
  (items.filter (·.1 == name)).map (·.2)

/-- Options hold given values: each option that may be given again all of its values in order, and
each other one the only value that it was given. -/
structure Holds (o : Options) (items : List (OptionName × String)) : Prop where
  inputs : o.inputs = valuesOf .input items
  folders : o.folders = valuesOf .folder items
  output : o.output.toList = valuesOf .output items
  format : o.format.toList.map Format.name = valuesOf .format items
  settings : o.settings.toList = valuesOf .settings items
  serve : o.serve.toList.map some = (valuesOf .serve items).map port?

theorem once_eq_some_iff {α : Type} {old : Option α} {new : α} {v : Option α} :
    once old new = some v ↔ old = none ∧ v = some new := by
  cases old <;> simp [once, eq_comm]

theorem give_cases {o o' : Options} {name : OptionName} {value : String}
    (h : o.give name value = some o') :
    (name = .input ∧ o' = { o with inputs := o.inputs ++ [value] }) ∨
    (name = .folder ∧ o' = { o with folders := o.folders ++ [value] }) ∨
    (name = .output ∧ o.output = none ∧ o' = { o with output := some value }) ∨
    (name = .format ∧ ∃ f, Format.ofName? value = some f ∧ o.format = none ∧
      o' = { o with format := some f }) ∨
    (name = .settings ∧ value ≠ "" ∧ o.settings = none ∧ o' = { o with settings := some value }) ∨
    (name = .serve ∧ ∃ port, port? value = some port ∧ o.serve = none ∧
      o' = { o with serve := some port }) := by
  cases name with
  | input =>
      cases h
      exact .inl ⟨rfl, rfl⟩
  | folder =>
      cases h
      exact .inr (.inl ⟨rfl, rfl⟩)
  | output =>
      obtain ⟨v, hv, rfl⟩ := Option.map_eq_some_iff.mp h
      obtain ⟨hold, rfl⟩ := once_eq_some_iff.mp hv
      exact .inr (.inr (.inl ⟨rfl, hold, rfl⟩))
  | format =>
      obtain ⟨f, hf, h⟩ := Option.bind_eq_some_iff.mp h
      obtain ⟨v, hv, h⟩ := Option.bind_eq_some_iff.mp h
      obtain ⟨hold, rfl⟩ := once_eq_some_iff.mp hv
      cases h
      exact .inr (.inr (.inr (.inl ⟨rfl, f, hf, hold, rfl⟩)))
  | settings =>
      simp only [give] at h
      split at h
      · cases h
      · rename_i hempty
        obtain ⟨v, hv, h⟩ := Option.bind_eq_some_iff.mp h
        obtain ⟨hold, rfl⟩ := once_eq_some_iff.mp hv
        cases h
        have hne : value ≠ "" := fun hv => hempty (hv ▸ rfl)
        exact .inr (.inr (.inr (.inr (.inl ⟨rfl, hne, hold, rfl⟩))))
  | serve =>
      obtain ⟨port, hp, h⟩ := Option.bind_eq_some_iff.mp h
      obtain ⟨v, hv, h⟩ := Option.bind_eq_some_iff.mp h
      obtain ⟨hold, rfl⟩ := once_eq_some_iff.mp hv
      cases h
      exact .inr (.inr (.inr (.inr (.inr ⟨rfl, port, hp, hold, rfl⟩))))

theorem valuesOf_concat (name name' : OptionName) (value : String)
    (items : List (OptionName × String)) :
    valuesOf name (items ++ [(name', value)]) =
      valuesOf name items ++ if name' = name then [value] else [] := by
  unfold valuesOf
  by_cases h : name' = name <;> simp [h]

theorem Holds.give {o o' : Options} {items : List (OptionName × String)} {name : OptionName}
    {value : String} (h : o.Holds items) (hgive : o.give name value = some o') :
    o'.Holds (items ++ [(name, value)]) := by
  obtain ⟨hinputs, hfolders, houtput, hformat, hsettings, hserve⟩ := h
  rcases give_cases hgive with ⟨rfl, rfl⟩ | ⟨rfl, rfl⟩ | ⟨rfl, hold, rfl⟩ |
    ⟨rfl, f, hf, hold, rfl⟩ | ⟨rfl, -, hold, rfl⟩ | ⟨rfl, port, hp, hold, rfl⟩
  · constructor <;> simp [*, valuesOf_concat]
  · constructor <;> simp [*, valuesOf_concat]
  · constructor <;> simp [*, valuesOf_concat, ← houtput]
  · have hname := Format.ofName?_eq_some_iff.mp hf
    constructor <;> simp [*, valuesOf_concat, ← hformat]
  · constructor <;> simp [*, valuesOf_concat, ← hsettings]
  · constructor <;> simp [*, valuesOf_concat, ← hserve]

theorem Holds.giveAll {o o' : Options} {items rest : List (OptionName × String)}
    (h : o.Holds items) (hgive : o.giveAll rest = some o') : o'.Holds (items ++ rest) := by
  induction rest generalizing o items with
  | nil =>
      cases hgive
      rwa [List.append_nil]
  | cons item rest ih =>
      obtain ⟨o₁, hone, hrest⟩ := Option.bind_eq_some_iff.mp hgive
      rw [List.append_cons]
      exact ih (h.give hone) hrest

/-- **Options hold what was given to them.** -/
theorem holds_of_giveAll {o : Options} {items : List (OptionName × String)}
    (h : giveAll {} items = some o) : o.Holds items := by
  have hempty : Holds {} [] := ⟨rfl, rfl, rfl, rfl, rfl, rfl⟩
  exact hempty.giveAll h

end Walkthrough.Options

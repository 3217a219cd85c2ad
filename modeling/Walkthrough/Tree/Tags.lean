import Mathlib.Data.List.Forall2
import Walkthrough.Tree.Node

/-! # Trees with other tags

A tree may be given other tags, while its shape and whatever else its labels say stay as they are.

* `Node.retag` replaces every tag by a function, `Node.canonical` by the canonical tag of its kind;
  every look-up finds in the new tree what it finds in the old one, retagged.
* `Node.Retagged` relates two trees whose tags are related, node by node.
* `Node.SameKinds` relates trees whose tags are of the same kinds; such trees have one canonical
  form (`Node.SameKinds.canonical_eq`). -/

namespace Walkthrough

namespace Node

mutual

/-- The tree with every tag replaced. -/
def retag (f : String → String) : Node → Node
  | mk l cs => mk { l with tag := f l.tag } (retagAll f cs)

/-- A row of trees with every tag replaced. -/
def retagAll (f : String → String) : List Node → List Node
  | [] => []
  | n :: ns => n.retag f :: retagAll f ns

end

/-- The tree with the canonical tag of its kind at every node. -/
def canonical (n : Node) : Node := n.retag fun t => (Kind.ofTag t).tag

/-- Two trees of one shape that agree in their labels, but for their tags: these are related. -/
inductive Retagged (R : String → String → Prop) : Node → Node → Prop
  | mk {l : Label} {t : String} {cs cs' : List Node} (htag : R l.tag t)
      (hs : List.Forall₂ (Retagged R) cs cs') : Retagged R (.mk l cs) (.mk { l with tag := t } cs')

/-- Two trees that agree but for tags of the same kinds. -/
def SameKinds : Node → Node → Prop := Retagged fun t t' => Kind.ofTag t = Kind.ofTag t'

variable (f g : String → String)

theorem retagAll_eq_map (ns : List Node) : retagAll f ns = ns.map (retag f) := by
  induction ns with
  | nil => rfl
  | cons n ns ih => rw [retagAll, ih, List.map_cons]

theorem label_retag (n : Node) :
    (n.retag f).label = { n.label with tag := f n.label.tag } := by
  cases n
  rfl

@[simp] theorem text_retag (n : Node) : (n.retag f).text = n.text := by
  cases n
  rfl

@[simp] theorem line_retag (n : Node) : (n.retag f).line = n.line := by
  cases n
  rfl

theorem children_retag (n : Node) : (n.retag f).children = n.children.map (retag f) := by
  cases n with
  | mk l cs => exact retagAll_eq_map f cs

/-! ### Look-ups -/

theorem namedChildren_retag (n : Node) :
    (n.retag f).namedChildren = n.namedChildren.map (retag f) := by
  have hnamed : (fun m : Node => m.label.named) ∘ retag f = fun m => m.label.named :=
    funext fun m => by rw [Function.comp_apply, label_retag]
  unfold namedChildren
  rw [children_retag, List.filter_map, hnamed]

theorem byField?_retag (n : Node) (field : String) :
    (n.retag f).byField? field = (n.byField? field).map (retag f) := by
  have hfield : (fun m : Node => m.label.field == some field) ∘ retag f =
      fun m => m.label.field == some field :=
    funext fun m => by rw [Function.comp_apply, label_retag]
  unfold byField?
  rw [children_retag, List.find?_map, hfield]

theorem child?_retag (n : Node) (i : Nat) :
    (n.retag f).child? i = (n.child? i).map (retag f) := by
  unfold child?
  rw [children_retag, List.getElem?_map]

/-- Texts stay as they are. -/
theorem map_text_map_retag (o : Option Node) : (o.map (retag f)).map text = o.map text := by
  cases o with
  | none => rfl
  | some n => exact congrArg some (text_retag f n)

theorem fieldText?_retag (n : Node) (field : String) :
    (n.retag f).fieldText? field = n.fieldText? field := by
  unfold fieldText?
  rw [byField?_retag, map_text_map_retag]

theorem kind_retag {f : String → String} (hf : ∀ t, Kind.ofTag (f t) = Kind.ofTag t) (n : Node) :
    (n.retag f).kind = n.kind := by
  unfold kind
  rw [label_retag, hf]

/-! ### Related trees -/

mutual

/-- Trees are related if they are given related tags. -/
theorem retagged_retag {R : String → String → Prop} (h : ∀ t, R (f t) (g t)) :
    ∀ n : Node, (n.retag f).Retagged R (n.retag g)
  | .mk l cs => @Retagged.mk R { l with tag := f l.tag } (g l.tag) _ _ (h l.tag)
      (forall₂_retagAll h cs)

theorem forall₂_retagAll {R : String → String → Prop} (h : ∀ t, R (f t) (g t)) :
    ∀ ns : List Node, List.Forall₂ (Retagged R) (retagAll f ns) (retagAll g ns)
  | [] => .nil
  | n :: ns => .cons (retagged_retag h n) (forall₂_retagAll h ns)

end

mutual

/-- More tags may be related. -/
theorem Retagged.mono {R R' : String → String → Prop} (hR : ∀ t t', R t t' → R' t t') :
    ∀ {n n' : Node}, n.Retagged R n' → n.Retagged R' n'
  | _, _, .mk htag hs => .mk (hR _ _ htag) (forall₂_mono hR hs)

theorem forall₂_mono {R R' : String → String → Prop} (hR : ∀ t t', R t t' → R' t t') :
    ∀ {ns ns' : List Node}, List.Forall₂ (Retagged R) ns ns' → List.Forall₂ (Retagged R') ns ns'
  | _, _, .nil => .nil
  | _, _, .cons h hs => .cons (h.mono hR) (forall₂_mono hR hs)

end

theorem canonical_mk (l : Label) (cs : List Node) :
    (mk l cs).canonical = mk { l with tag := (Kind.ofTag l.tag).tag } (cs.map canonical) :=
  congrArg (mk _) (retagAll_eq_map _ cs)

mutual

/-- **Trees of the same kinds have one canonical form.** -/
theorem SameKinds.canonical_eq : ∀ {n n' : Node}, n.SameKinds n' → n'.canonical = n.canonical
  | _, _, @Retagged.mk _ l t _ _ htag hs => by
      have htag : Kind.ofTag l.tag = Kind.ofTag t := htag
      rw [canonical_mk, canonical_mk, map_canonical_eq hs, htag]

theorem map_canonical_eq : ∀ {ns ns' : List Node}, List.Forall₂ SameKinds ns ns' →
    ns'.map canonical = ns.map canonical
  | _, _, .nil => rfl
  | _, _, .cons h hs => by
      rw [List.map_cons, List.map_cons, h.canonical_eq, map_canonical_eq hs]

end

end Node

end Walkthrough

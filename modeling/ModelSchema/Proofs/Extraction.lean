import Mathlib.Data.List.Forall2
import ModelSchema.Extraction

/-!
# Outermost declarations

A node of a tree is told by its address, and addresses have the order of the text. Extraction goes
down the tree as far as the first declaration on every way, so it meets the declarations that have
no other one above them, each once and in the order of the text, and no others: what is inside a
declaration is not looked at, whether that one gives a model or not.

## Main definitions

* `SyntaxNode.Address`, `SyntaxNode.nodeAt?` — addresses and the nodes at them.
* `SyntaxNode.IsOutermost` — a declaration below no other one.
* `SyntaxNode.siteAt?` — what stands before the node at an address, or before its export.
* `Site.HasProperties`, `Site.Declares`, `SyntaxNode.DeclaresAt` — the model that a declaration
  gives.

## Main statements

* `SyntaxNode.exists_lists_sitesAt`, `SyntaxNode.exists_lists_sitesIn` — the sites at and below a
  node and among siblings.
* `SyntaxNode.models_outermost` — the models of a tree.
-/

namespace ModelSchema

namespace SyntaxNode

/-! ## Addresses -/

/-- Where a node stands in a tree: the places among their siblings of the nodes on the way to it
from the root, and its own. Addresses compared place by place have the order of the text. -/
abbrev Address := List Nat

/-- The node at an address. -/
def nodeAt? (root : SyntaxNode) : Address → Option SyntaxNode
  | [] => some root
  | i :: p => root.children[i]?.bind fun child => child.nodeAt? p

/-- The nodes before the one at an address in the node above it, nearest first. -/
def nodesBefore (root : SyntaxNode) (p : Address) : List SyntaxNode :=
  (((root.nodeAt? p.dropLast).elim [] children).take (p.getLast?.getD 0)).reverse

/-- What the nodes directly below the one at an address are looked at from, if not from themselves.
The root is no export. -/
def anchorBelow (root : SyntaxNode) (p : Address) : Anchor :=
  if p = [] then none
  else (root.nodeAt? p).bind fun n =>
    if n.kind = .exportStatement then some (root.nodesBefore p, n.startLine) else none

/-- The node at an address with what stands before it, or before the export that it is in. -/
def siteAt? (root : SyntaxNode) (p : Address) : Option Site :=
  (root.nodeAt? p).map fun n =>
    let (before, line) := (root.anchorBelow p.dropLast).getD (root.nodesBefore p, n.startLine)
    ⟨n, before, line⟩

/-- The node at an address declares a type. -/
def IsDeclaration (root : SyntaxNode) (p : Address) : Prop :=
  ∃ n, root.nodeAt? p = some n ∧ n.kind.isDeclaration = true

/-- The node at an address below the root, which stands for the whole text, declares a type, and no
node between the root and it does. -/
structure IsOutermost (root : SyntaxNode) (p : Address) : Prop where
  below : p ≠ []
  declares : root.IsDeclaration p
  outermost : ∀ q, q <+: p → q ≠ [] → q ≠ p → ¬ root.IsDeclaration q

variable {root n parent : SyntaxNode} {p q : Address} {i : Nat}

theorem nodeAt?_append (root : SyntaxNode) (p q : Address) :
    root.nodeAt? (p ++ q) = (root.nodeAt? p).bind (·.nodeAt? q) := by
  induction p generalizing root with
  | nil => rfl
  | cons i p ih =>
    rw [List.cons_append, nodeAt?, nodeAt?]
    cases root.children[i]? with
    | none => rfl
    | some child => exact ih child

theorem nodeAt?_concat (h : root.nodeAt? p = some parent) (i : Nat) :
    root.nodeAt? (p ++ [i]) = parent.children[i]? := by
  rw [nodeAt?_append, h, Option.bind_some, nodeAt?]
  cases parent.children[i]? <;> rfl

theorem isSome_nodeAt?_of_isPrefix (h : p <+: q) (hq : (root.nodeAt? q).isSome) :
    (root.nodeAt? p).isSome := by
  obtain ⟨rest, rfl⟩ := h
  rw [nodeAt?_append] at hq
  exact Option.isSome_of_isSome_bind hq

theorem nodesBefore_concat (h : root.nodeAt? p = some parent) (i : Nat) :
    root.nodesBefore (p ++ [i]) = (parent.children.take i).reverse := by
  simp [nodesBefore, h]

theorem anchorBelow_of_ne_nil (h : root.nodeAt? p = some n) (hp : p ≠ []) :
    root.anchorBelow p =
      if n.kind = .exportStatement then some (root.nodesBefore p, n.startLine) else none := by
  rw [anchorBelow, if_neg hp, h, Option.bind_some]

theorem siteAt?_concat (h : root.nodeAt? (p ++ [i]) = some n) :
    root.siteAt? (p ++ [i]) =
      let (before, line) := (root.anchorBelow p).getD (root.nodesBefore (p ++ [i]), n.startLine)
      some ⟨n, before, line⟩ := by
  rw [siteAt?, h, Option.map_some, List.dropLast_concat]

theorem nodeAt?_of_siteAt? {s : Site} (h : root.siteAt? p = some s) :
    root.nodeAt? p = some s.node := by
  obtain ⟨n, hn, rfl⟩ := Option.map_eq_some_iff.1 h
  exact hn

theorem lt_of_isPrefix {j : Nat} {a b : Address} (h : i < j) (ha : q ++ [i] <+: a)
    (hb : q ++ [j] <+: b) : a < b := by
  obtain ⟨r, rfl⟩ := ha
  obtain ⟨s, rfl⟩ := hb
  rw [List.append_assoc, List.append_assoc]
  exact List.append_left_lt (List.cons_lt_cons_iff.2 (.inl h))

/-! ## Sites by their addresses -/

/-- Among the addresses `inside` those of the outermost declarations are `found`, in the order of
the text, and the sites there are `sites`. -/
structure Lists (root : SyntaxNode) (inside : Address → Prop) (sites : List Site)
    (found : List Address) : Prop where
  sites_eq : found.map root.siteAt? = sites.map some
  ordered : found.Pairwise (· < ·)
  mem_iff : ∀ p, p ∈ found ↔ inside p ∧ root.IsOutermost p

theorem Lists.nil {inside : Address → Prop} (none : ∀ p, inside p → ¬ root.IsOutermost p) :
    Lists root inside [] [] where
  sites_eq := rfl
  ordered := .nil
  mem_iff p := by simpa using none p

theorem Lists.append {inside inside' : Address → Prop} {sites sites' : List Site}
    {found found' : List Address} (h : Lists root inside sites found)
    (h' : Lists root inside' sites' found')
    (order : ∀ p q, inside p → inside' q → p < q) :
    Lists root (fun p => inside p ∨ inside' p) (sites ++ sites') (found ++ found') where
  sites_eq := by rw [List.map_append, List.map_append, h.sites_eq, h'.sites_eq]
  ordered := List.pairwise_append.2 ⟨h.ordered, h'.ordered, fun p hp q hq =>
    order p q ((h.mem_iff p).1 hp).1 ((h'.mem_iff q).1 hq).1⟩
  mem_iff p := by rw [List.mem_append, h.mem_iff, h'.mem_iff, or_and_right]

theorem Lists.congr {inside inside' : Address → Prop} {sites : List Site} {found : List Address}
    (h : Lists root inside sites found)
    (same : ∀ p, root.IsOutermost p → (inside p ↔ inside' p)) : Lists root inside' sites found where
  sites_eq := h.sites_eq
  ordered := h.ordered
  mem_iff p := by
    rw [h.mem_iff]
    exact and_congr_left (same p)

/-- No node on the way from the root to an address declares a type, nor does the one there. -/
def IsOpen (root : SyntaxNode) (p : Address) : Prop :=
  ∀ q, q <+: p → q ≠ [] → ¬ root.IsDeclaration q

theorem isOpen_concat (h : root.IsOpen p) (hn : root.nodeAt? (p ++ [i]) = some n)
    (other : n.kind.isDeclaration = false) : root.IsOpen (p ++ [i]) := by
  intro q hq ne
  rcases List.prefix_concat_iff.1 hq with rfl | hq
  · rintro ⟨m, hm, declares⟩
    rw [hn] at hm
    obtain rfl := Option.some.inj hm
    rw [other] at declares
    cases declares
  · exact h q hq ne

/-- A declaration in an open place is the only outermost one at and below its address. -/
theorem lists_declaration (h : root.IsOpen p) (hn : root.nodeAt? (p ++ [i]) = some n)
    (declares : n.kind.isDeclaration = true) {s : Site}
    (site : root.siteAt? (p ++ [i]) = some s) :
    Lists root (p ++ [i] <+: ·) [s] [p ++ [i]] where
  sites_eq := by simp [site]
  ordered := List.pairwise_singleton ..
  mem_iff q := by
    rw [List.mem_singleton]
    constructor
    · rintro rfl
      refine ⟨List.prefix_rfl, by simp, ⟨n, hn, declares⟩, fun q hq ne other => ?_⟩
      exact h q ((List.prefix_concat_iff.1 hq).resolve_left other) ne
    · rintro ⟨inside, outermost⟩
      by_contra other
      exact outermost.outermost _ inside (by simp) (Ne.symm other) ⟨n, hn, declares⟩

mutual

/-- The sites at and below a node are those of the outermost declarations there. -/
theorem exists_lists_sitesAt (root : SyntaxNode) (n : SyntaxNode) {p : Address} {i : Nat}
    (hopen : root.IsOpen p) (hn : root.nodeAt? (p ++ [i]) = some n) :
    ∃ found, Lists root (p ++ [i] <+: ·)
      (sitesAt (root.anchorBelow p) (root.nodesBefore (p ++ [i])) n) found := by
  match n with
  | mk kind field startLine endLine text children =>
    rw [sitesAt]
    cases declares : kind.isDeclaration with
    | true =>
      exact ⟨_, lists_declaration hopen hn declares (siteAt?_concat hn)⟩
    | false =>
      obtain ⟨found, inner⟩ := exists_lists_sitesIn root [] children
        (isOpen_concat hopen hn declares) hn rfl
      rw [anchorBelow_of_ne_nil hn (by simp)] at inner
      refine ⟨found, inner.congr fun q outermost => ⟨?_, ?_⟩⟩
      · rintro ⟨j, -, inside⟩
        exact (List.prefix_append _ _).trans inside
      · rintro ⟨_ | ⟨j, rest⟩, rfl⟩
        · rw [List.append_nil] at outermost
          have other := isOpen_concat hopen hn declares _ List.prefix_rfl outermost.below
          exact absurd outermost.declares other
        · exact ⟨j, Nat.zero_le j, rest, by simp⟩

/-- The sites among the last children of a node are those of the outermost declarations there. -/
theorem exists_lists_sitesIn (root : SyntaxNode) (before ns : List SyntaxNode) {p : Address}
    {parent : SyntaxNode} (hopen : root.IsOpen p) (hparent : root.nodeAt? p = some parent)
    (hchildren : parent.children = before.reverse ++ ns) :
    ∃ found, Lists root (fun q => ∃ i, before.length ≤ i ∧ p ++ [i] <+: q)
      (sitesIn (root.anchorBelow p) before ns) found := by
  match ns with
  | [] =>
    refine ⟨[], Lists.nil ?_⟩
    rintro q ⟨i, hi, inside⟩ outermost
    obtain ⟨m, hm, -⟩ := outermost.declares
    have stands := isSome_nodeAt?_of_isPrefix inside (Option.isSome_of_mem hm)
    simp only [nodeAt?_concat hparent, hchildren, List.append_nil, isSome_getElem?,
      List.length_reverse] at stands
    omega
  | n :: ns =>
    have hn : root.nodeAt? (p ++ [before.length]) = some n := by
      simp [nodeAt?_concat hparent, hchildren]
    have hbefore : root.nodesBefore (p ++ [before.length]) = before := by
      simp [nodesBefore_concat hparent, hchildren]
    obtain ⟨found, first⟩ := exists_lists_sitesAt root n hopen hn
    obtain ⟨found', others⟩ := exists_lists_sitesIn root (n :: before) ns hopen hparent
      (by simp [hchildren])
    rw [hbefore] at first
    refine ⟨found ++ found', (first.append others ?_).congr fun q _ => ⟨?_, ?_⟩⟩
    · rintro a b ha ⟨j, hj, hb⟩
      exact lt_of_isPrefix hj ha hb
    · rintro (inside | ⟨j, hj, inside⟩)
      · exact ⟨_, Nat.le_refl _, inside⟩
      · exact ⟨j, Nat.le_of_succ_le hj, inside⟩
    · rintro ⟨j, hj, inside⟩
      rcases Nat.eq_or_lt_of_le hj with rfl | later
      · exact .inl inside
      · exact .inr ⟨j, later, inside⟩

end

/-- The sites of a tree are those of its outermost declarations. -/
theorem exists_lists_sites (root : SyntaxNode) :
    ∃ found, Lists root (fun _ => True) root.sites found := by
  have hopen : root.IsOpen [] := fun q hq ne => absurd (List.prefix_nil.1 hq) ne
  obtain ⟨found, lists⟩ := exists_lists_sitesIn root [] root.children hopen rfl rfl
  refine ⟨found, lists.congr fun p outermost => ⟨fun _ => trivial, fun _ => ?_⟩⟩
  obtain ⟨i, rest, rfl⟩ := List.exists_cons_of_ne_nil outermost.below
  exact ⟨i, Nat.zero_le i, rest, rfl⟩

end SyntaxNode

/-! ## Models by their addresses -/

/-- A declaration has properties: those in the body of an interface or in the object type that an
alias is for, or a key in their place if the alias is for a bare name of a type. -/
def Site.HasProperties (s : Site) (properties : List Property) : Prop :=
  (s.node.kind = .interfaceDeclaration ∧
    ∃ body, s.node.child? .body = some body ∧ properties = propertiesOf body) ∨
  (s.node.kind = .typeAliasDeclaration ∧
    ∃ value, s.node.child? .value = some value ∧
      (value.kind = .objectType ∧ properties = propertiesOf value ∨
        value.kind = .typeIdentifier ∧ properties = [Property.placeholderKey]))

/-- A declaration gives a model: it has a name, which the rule for models accepts with the doc
comment before it, and it has properties. -/
structure Site.Declares (models : ModelSettings) (sourceFile : String) (s : Site) (m : Model) :
    Prop where
  name : ∃ name, s.node.child? .name = some name ∧ m.name = String.ofList name.text
  doc : m.doc = leadingDoc? s.before s.line
  accepted : models.isModel m.name m.doc = true
  sourceFile : m.sourceFile = sourceFile
  properties : s.HasProperties m.properties

theorem Site.properties?_eq_some_iff {s : Site} (h : s.node.kind.isDeclaration = true)
    {properties : List Property} :
    s.properties? = some properties ↔ s.HasProperties properties := by
  have kinds : s.node.kind = .interfaceDeclaration ∨ s.node.kind = .typeAliasDeclaration := by
    unfold SyntaxKind.isDeclaration at h
    split at h
    · exact .inl ‹_›
    · exact .inr ‹_›
    · cases h
  unfold HasProperties
  rcases kinds with kind | kind
  · simp only [properties?, kind, if_true, Option.map_eq_some_iff, true_and, reduceCtorEq,
      false_and, or_false]
    exact exists_congr fun body => and_congr_right fun _ => eq_comm
  · simp only [properties?, kind, reduceCtorEq, if_false, Option.bind_eq_some_iff, false_and,
      true_and, false_or]
    refine exists_congr fun value => and_congr_right fun _ => ?_
    cases value.kind <;> simp [eq_comm]

theorem Site.header?_eq_some_iff {models : ModelSettings} {s : Site} {name : String}
    {doc : Option String} :
    s.header? models = some (name, doc) ↔
      (∃ n, s.node.child? .name = some n ∧ name = String.ofList n.text) ∧
        doc = leadingDoc? s.before s.line ∧ models.isModel name doc = true := by
  unfold header?
  cases s.node.child? .name with
  | none => simp
  | some n =>
    simp only [Option.bind_eq_bind, Option.bind_some, Option.ite_none_right_eq_some,
      Option.some.injEq, Prod.mk.injEq, exists_eq_left']
    constructor
    · rintro ⟨accepted, rfl, rfl⟩
      exact ⟨rfl, rfl, accepted⟩
    · rintro ⟨rfl, rfl, accepted⟩
      exact ⟨accepted, rfl, rfl⟩

theorem Site.model?_eq_some_iff {models : ModelSettings} {sourceFile : String} {s : Site}
    (h : s.node.kind.isDeclaration = true) {m : Model} :
    s.model? models sourceFile = some m ↔ s.Declares models sourceFile m := by
  simp only [model?, Option.bind_eq_bind, Option.bind_eq_some_iff, Prod.exists,
    header?_eq_some_iff, properties?_eq_some_iff h, Option.pure_def, Option.some.injEq]
  constructor
  · rintro ⟨name, doc, ⟨named, hdoc, accepted⟩, properties, found, rfl⟩
    exact ⟨named, hdoc, accepted, rfl, found⟩
  · rintro ⟨named, hdoc, accepted, rfl, found⟩
    exact ⟨m.name, m.doc, ⟨named, hdoc, accepted⟩, m.properties, found, rfl⟩

namespace SyntaxNode

variable {root : SyntaxNode} {p : Address}

/-- The node at an address is a declaration that gives a model. -/
def DeclaresAt (root : SyntaxNode) (models : ModelSettings) (sourceFile : String) (p : Address)
    (m : Model) : Prop :=
  ∃ s, root.siteAt? p = some s ∧ s.Declares models sourceFile m

/-- The model that the node at an address gives if it is a declaration. -/
def modelAt? (root : SyntaxNode) (models : ModelSettings) (sourceFile : String) (p : Address) :
    Option Model :=
  (root.siteAt? p).bind (·.model? models sourceFile)

theorem modelAt?_eq_some_iff {models : ModelSettings} {sourceFile : String}
    (h : root.IsDeclaration p) {m : Model} :
    root.modelAt? models sourceFile p = some m ↔ root.DeclaresAt models sourceFile p m := by
  obtain ⟨n, hn, declares⟩ := h
  rw [modelAt?, Option.bind_eq_some_iff]
  refine exists_congr fun s => and_congr_right fun hs => Site.model?_eq_some_iff ?_
  rw [nodeAt?_of_siteAt? hs] at hn
  rwa [Option.some.inj hn]

theorem Lists.models_eq {inside : Address → Prop} {found : List Address}
    (h : Lists root inside root.sites found) (models : ModelSettings) (sourceFile : String) :
    root.models models sourceFile = found.filterMap (root.modelAt? models sourceFile) := by
  calc root.sites.filterMap (·.model? models sourceFile)
      = (root.sites.map some).filterMap (·.bind (·.model? models sourceFile)) := by
        rw [List.filterMap_map]
        rfl
    _ = found.filterMap (root.modelAt? models sourceFile) := by
        rw [← h.sites_eq, List.filterMap_map]
        rfl

/-- What is found for the entries of a list comes from those entries for which anything is found,
in their order. -/
theorem forall₂_filterMap {α β : Type} {R : α → β → Prop} {f : α → Option β} {as : List α}
    (found : ∀ a ∈ as, ∀ b, f a = some b → R a b) :
    List.Forall₂ R (as.filter fun a => (f a).isSome) (as.filterMap f) := by
  induction as with
  | nil => exact .nil
  | cons a as ih =>
    have rest := ih fun c hc => found c (List.mem_cons_of_mem a hc)
    cases h : f a with
    | none =>
      rw [List.filter_cons_of_neg (by simp [h]), List.filterMap_cons_none h]
      exact rest
    | some b =>
      rw [List.filter_cons_of_pos (by simp [h]), List.filterMap_cons_some h]
      exact .cons (found a List.mem_cons_self b h) rest

/-- The models of a tree are those that its outermost declarations give, one for each that gives
any, in the order of the text. Nothing comes from a declaration inside another one, whether that one
gives a model or not. -/
theorem models_outermost (root : SyntaxNode) (models : ModelSettings) (sourceFile : String) :
    ∃ found : List Address, found.Pairwise (· < ·) ∧
      (∀ p, p ∈ found ↔ root.IsOutermost p ∧ ∃ m, root.DeclaresAt models sourceFile p m) ∧
      List.Forall₂ (root.DeclaresAt models sourceFile) found (root.models models sourceFile) := by
  obtain ⟨found, lists⟩ := exists_lists_sites root
  refine ⟨found.filter fun p => (root.modelAt? models sourceFile p).isSome,
    lists.ordered.filter _, fun p => ?_, ?_⟩
  · rw [List.mem_filter, lists.mem_iff, Option.isSome_iff_exists, true_and]
    exact and_congr_right fun outermost => exists_congr fun m =>
      modelAt?_eq_some_iff outermost.declares
  · rw [lists.models_eq]
    exact forall₂_filterMap fun p hp m =>
      (modelAt?_eq_some_iff ((lists.mem_iff p).1 hp).2.declares).1

end SyntaxNode

end ModelSchema

import Mathlib.Data.Finite.Prod
import Mathlib.Logic.Relation
import Mathlib.Order.WellFoundedSet

/-!
# Cycles and leaves of a finite graph

A graph is a set of nodes and a parent relation between them.  On a finite one the
nodes from which the parent relation is well founded are those that are not on or below a
cycle (`acc_iff_not_belowCycle`).  Without cycles every node reaches a leaf
(`exists_leaf`), so a set that holds the leaves and is closed under parents holds the
whole graph (`subset_of_leaves`): the leaves identify it.  A new node put on top of them is
the only leaf afterwards, and below all others (`OnTop`).
-/

namespace Frontier

open Relation

variable {α : Type*} {node : α → Prop} {parent : α → α → Prop} {a c : α}

/-- Some cycle passes through the node or one of its ancestors. -/
def BelowCycle (parent : α → α → Prop) (a : α) : Prop :=
  ∃ c, TransGen parent c c ∧ ReflTransGen parent c a

/-- No node is its own ancestor. -/
def Acyclic (parent : α → α → Prop) : Prop := ∀ a, ¬TransGen parent a a

/-- A node that is nobody's parent. -/
def Leaf (node : α → Prop) (parent : α → α → Prop) (a : α) : Prop :=
  node a ∧ ∀ child, ¬parent a child

/-- Where parents rank below their children there are no cycles. -/
theorem acyclic_of_rank (rank : α → ℕ) (hrank : ∀ p a, parent p a → rank p < rank a) :
    Acyclic parent := by
  have hancestor : ∀ {p a}, TransGen parent p a → rank p < rank a := by
    intro p a hp
    induction hp with
    | single hstep => exact hrank _ _ hstep
    | tail _ hstep ih => exact ih.trans (hrank _ _ hstep)
  exact fun a hcycle => (hancestor hcycle).false

theorem acc_of_reflTransGen (hacc : Acc parent a) (hreach : ReflTransGen parent c a) :
    Acc parent c := by
  induction hreach using ReflTransGen.head_induction_on with
  | refl => exact hacc
  | head hstep _ ih => exact ih.inv hstep

theorem not_transGen_self (hacc : Acc parent a) : ¬TransGen parent a a := by
  have htrans : Acc (TransGen parent) a := hacc.transGen
  clear hacc
  induction htrans with
  | intro a _ ih => exact fun hcycle => ih a hcycle hcycle

/-! ## Cycles -/

section Cycles

variable (hfinite : {a | node a}.Finite) (hnode : ∀ p a, parent p a → node p)
include hfinite hnode

/-- Above a node that is on or below no cycle there is nothing infinite. -/
theorem acc_of_not_belowCycle (hnot : ¬BelowCycle parent a) : Acc parent a := by
  -- being an ancestor is a strict order on the ancestors of `a`
  let above : α → α → Prop := fun p b => TransGen parent p b ∧ ReflTransGen parent b a
  have : IsStrictOrder α above :=
    { irrefl := fun b hself => hnot ⟨b, hself⟩
      trans := fun _ _ _ hpb hbc => ⟨hpb.1.trans hbc.1, hbc.2⟩ }
  have hwf : {a | node a}.WellFoundedOn above := hfinite.wellFoundedOn
  have hancestor : ∀ b, node b → ReflTransGen parent b a → Acc parent b := by
    intro b hb
    refine hwf.induction (P := fun b => ReflTransGen parent b a → Acc parent b) hb ?_
    intro b _ ih hreach
    constructor
    intro p hp
    exact ih p (hnode p b hp) ⟨.single hp, hreach⟩ (.head hp hreach)
  constructor
  intro p hp
  exact hancestor p (hnode p a hp) (.single hp)

/-- **Accessible is off the cycles.** -/
theorem acc_iff_not_belowCycle : Acc parent a ↔ ¬BelowCycle parent a := by
  constructor
  · rintro hacc ⟨c, hcycle, hreach⟩
    exact not_transGen_self (acc_of_reflTransGen hacc hreach) hcycle
  · exact acc_of_not_belowCycle hfinite hnode

end Cycles

/-! ## Leaves -/

section Leaves

variable (hfinite : {a | node a}.Finite) (hparent : ∀ p a, parent p a → node p ∧ node a)
  (hacyclic : Acyclic parent)
include hfinite hparent hacyclic

/-- **Every node reaches a leaf.** -/
theorem exists_leaf (ha : node a) : ∃ leaf, Leaf node parent leaf ∧ ReflTransGen parent a leaf := by
  -- downwards there is nothing infinite either
  have hacc : Acc (Function.swap parent) a := by
    apply acc_of_not_belowCycle hfinite
    · exact fun child p hp => (hparent p child hp).2
    · rintro ⟨c, hcycle, -⟩
      exact hacyclic c (transGen_swap.mp hcycle)
  induction hacc with
  | intro a _ ih =>
      by_cases hchild : ∃ child, parent a child
      · obtain ⟨child, hstep⟩ := hchild
        obtain ⟨leaf, hleaf, hreach⟩ := ih child hstep (hparent a child hstep).2
        exact ⟨leaf, hleaf, .head hstep hreach⟩
      · exact ⟨a, ⟨ha, not_exists.mp hchild⟩, .refl⟩

/-- **The leaves identify the graph**: a set with all of them that is closed under parents
has every node. -/
theorem subset_of_leaves {held : α → Prop} (hleaves : ∀ leaf, Leaf node parent leaf → held leaf)
    (hclosed : ∀ p a, parent p a → held a → held p) (ha : node a) : held a := by
  obtain ⟨leaf, hleaf, hreach⟩ := exists_leaf hfinite hparent hacyclic ha
  induction hreach using ReflTransGen.head_induction_on with
  | refl => exact hleaves leaf hleaf
  | head hstep _ ih => exact hclosed _ _ hstep (ih (hparent _ _ hstep).2)

end Leaves

/-! ## A node on top of the leaves -/

/-- The graph of `node'` and `parent'` has one node more, and the leaves are its parents. -/
structure OnTop (node : α → Prop) (parent : α → α → Prop) (top : α) (node' : α → Prop)
    (parent' : α → α → Prop) : Prop where
  fresh : ¬node top
  node_iff : ∀ a, node' a ↔ node a ∨ a = top
  parent_iff : ∀ p a, parent' p a ↔ parent p a ∨ (a = top ∧ Leaf node parent p)

namespace OnTop

variable {top : α} {node' : α → Prop} {parent' : α → α → Prop}
  (htop : OnTop node parent top node' parent') (hfinite : {a | node a}.Finite)
  (hparent : ∀ p a, parent p a → node p ∧ node a) (hacyclic : Acyclic parent)
include htop hfinite hparent hacyclic

/-- **Every old node is an ancestor of the new one.** -/
theorem transGen_top (ha : node a) : TransGen parent' a top := by
  obtain ⟨leaf, hleaf, hreach⟩ := exists_leaf hfinite hparent hacyclic ha
  have hlast : parent' leaf top := (htop.parent_iff leaf top).mpr (Or.inr ⟨rfl, hleaf⟩)
  have hpath : ReflTransGen parent' a leaf :=
    ReflTransGen.mono (fun p b hp => (htop.parent_iff p b).mpr (Or.inl hp)) _ _ hreach
  exact .tail' hpath hlast

omit hfinite hacyclic in
/-- The new node has no children. -/
theorem not_parent_top (child : α) : ¬parent' top child := by
  intro hchild
  rcases (htop.parent_iff top child).mp hchild with hold | ⟨-, hleaf⟩
  · exact htop.fresh (hparent top child hold).1
  · exact htop.fresh hleaf.1

/-- **The new node is the only leaf.** -/
theorem leaf_iff : Leaf node' parent' a ↔ a = top := by
  constructor
  · rintro ⟨ha, hchildless⟩
    rcases (htop.node_iff a).mp ha with hold | hnew
    · obtain ⟨child, hchild, -⟩ :=
        TransGen.head'_iff.mp (htop.transGen_top hfinite hparent hacyclic hold)
      exact absurd hchild (hchildless child)
    · exact hnew
  · rintro rfl
    exact ⟨(htop.node_iff a).mpr (Or.inr rfl), htop.not_parent_top hparent⟩

/-- There are no cycles afterwards either. -/
theorem acc (ha : node' a) : Acc parent' a := by
  have hold : ∀ b, node b → Acc parent' b := by
    intro b hb
    have hacc : Acc parent b := by
      apply acc_of_not_belowCycle hfinite fun p b hp => (hparent p b hp).1
      rintro ⟨c, hcycle, -⟩
      exact hacyclic c hcycle
    induction hacc with
    | intro b _ ih =>
        constructor
        intro p hp
        rcases (htop.parent_iff p b).mp hp with hstep | ⟨rfl, -⟩
        · exact ih p hstep (hparent p b hstep).1
        · exact absurd hb htop.fresh
  rcases (htop.node_iff a).mp ha with hb | rfl
  · exact hold a hb
  · constructor
    intro p hp
    rcases (htop.parent_iff p a).mp hp with hstep | ⟨-, hleaf⟩
    · exact hold p (hparent p a hstep).1
    · exact hold p hleaf.1

end OnTop

end Frontier

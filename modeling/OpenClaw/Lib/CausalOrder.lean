import OpenClaw.Lib.Frontier
import OpenClaw.Lib.Kahn

/-!
# The causal order of a graph

Kahn's worklist emits what is not on or below a cycle; the programs append the
nodes it leaves over, sorted by the same comparator.  `CausalOrder` says this of
a list without saying how the list came about, so that two programs that keep
their worklists differently are compared through it: the list is unique
(`CausalOrder.unique`), and it is carried along when the nodes are renamed
(`CausalOrder.map`).
-/

namespace Kahn

open StableSort

variable {α β : Type*} {node : α → Prop} {parent : α → α → Prop} {cmp : α → α → Ordering}
  {list left right emitted : List α}

/-- What can be emitted, least first, and then the other nodes in order. -/
structure CausalOrder (node : α → Prop) (parent : α → α → Prop) (cmp : α → α → Ordering)
    (list : List α) : Prop where
  split : ∃ emitted rest, list = emitted ++ rest ∧ Emission node parent cmp emitted ∧
    Complete node parent emitted ∧ rest.Nodup ∧ (∀ a, a ∈ rest ↔ node a ∧ a ∉ emitted) ∧
    rest.Pairwise (Below cmp)

namespace CausalOrder

theorem nodup (h : CausalOrder node parent cmp list) : list.Nodup := by
  obtain ⟨emitted, rest, rfl, hemission, -, hrest, hmem, -⟩ := h.split
  refine List.nodup_append.mpr ⟨hemission.nodup, hrest, ?_⟩
  intro a ha b hb heq
  exact ((hmem b).mp hb).2 (heq ▸ ha)

theorem mem_iff (h : CausalOrder node parent cmp list) {a : α} : a ∈ list ↔ node a := by
  obtain ⟨emitted, rest, rfl, hemission, -, -, hmem, -⟩ := h.split
  rw [List.mem_append, hmem]
  constructor
  · intro ha
    rcases ha with ha | ha
    · exact hemission.node_of_mem ha
    · exact ha.1
  · intro ha
    by_cases hemitted : a ∈ emitted
    · exact Or.inl hemitted
    · exact Or.inr ⟨ha, hemitted⟩

/-- What is off the cycles comes first, and the rest is in order. -/
theorem split_acc (h : CausalOrder node parent cmp list) (hnode : ∀ p a, parent p a → node p) :
    ∃ emitted rest, list = emitted ++ rest ∧ Emission node parent cmp emitted ∧
      (∀ a ∈ emitted, Acc parent a) ∧ (∀ a ∈ rest, ¬Acc parent a) ∧ rest.Pairwise (Below cmp) := by
  obtain ⟨emitted, rest, rfl, hemission, hcomplete, -, hmem, hsorted⟩ := h.split
  refine ⟨emitted, rest, rfl, hemission, fun a => hemission.acc_of_mem, ?_, hsorted⟩
  intro a ha hacc
  obtain ⟨hanode, hfresh⟩ := (hmem a).mp ha
  exact hfresh ((hemission.complete_mem_iff hcomplete hnode).mpr ⟨hanode, hacc⟩)

/-- **A node off the cycles** is the least available one at its place. -/
theorem step_at (h : CausalOrder node parent cmp list) (hnode : ∀ p a, parent p a → node p)
    {before after : List α} {a : α} (hsplit : list = before ++ a :: after) (hacc : Acc parent a) :
    Available node parent before a ∧ ∀ b, Available node parent before b → Below cmp a b := by
  obtain ⟨emitted, rest, rfl, hemission, -, hrest, -⟩ := h.split_acc hnode
  rcases List.append_eq_append_iff.mp hsplit with ⟨extra, rfl, hafter⟩ | ⟨extra, rfl, hafter⟩
  · -- then the node would be one of the rest
    have hmem : a ∈ rest := by
      rw [hafter]
      exact List.mem_append_right _ List.mem_cons_self
    exact absurd hacc (hrest a hmem)
  · cases extra with
    | nil =>
        have hmem : a ∈ rest := by
          rw [← List.nil_append rest, ← hafter]
          exact List.mem_cons_self
        exact absurd hacc (hrest a hmem)
    | cons head extra =>
        obtain ⟨rfl, -⟩ := List.cons.inj hafter
        exact hemission.step_at rfl

/-- The ancestors of a node off the cycles come before it. -/
theorem ancestor_mem_before (h : CausalOrder node parent cmp list)
    (hnode : ∀ p a, parent p a → node p) {before after : List α} {a b : α}
    (hsplit : list = before ++ a :: after) (hacc : Acc parent a)
    (hancestor : Relation.TransGen parent b a) : b ∈ before := by
  induction hancestor generalizing before after with
  | single hparent => exact (h.step_at hnode hsplit hacc).1.2.2 b hparent
  | @tail middle last _ hparent ih =>
      have hmiddle : middle ∈ before := (h.step_at hnode hsplit hacc).1.2.2 middle hparent
      obtain ⟨front, back, rfl⟩ := List.append_of_mem hmiddle
      have hsplit' : list = front ++ middle :: (back ++ last :: after) := by
        rw [hsplit, List.append_assoc, List.cons_append]
      exact List.mem_append_left _ (ih hsplit' (hacc.inv hparent))

/-- **A node with all others for ancestors comes last.** -/
theorem eq_concat (h : CausalOrder node parent cmp list) (hnode : ∀ p a, parent p a → node p)
    {top : α} (htop : node top) (hacc : Acc parent top)
    (hall : ∀ a, node a → a ≠ top → Relation.TransGen parent a top) :
    ∃ before, list = before ++ [top] := by
  obtain ⟨before, after, hsplit⟩ := List.append_of_mem (h.mem_iff.mpr htop)
  refine ⟨before, ?_⟩
  cases after with
  | nil => exact hsplit
  | cons next after =>
      have hnodup := h.nodup
      rw [hsplit, List.nodup_append] at hnodup
      obtain ⟨-, hafter, hdisjoint⟩ := hnodup
      have hne : next ≠ top := fun heq =>
        (List.nodup_cons.mp hafter).1 (heq ▸ List.mem_cons_self)
      have hmem : next ∈ top :: next :: after := List.mem_cons_of_mem _ List.mem_cons_self
      have hnext : node next := h.mem_iff.mp (hsplit ▸ List.mem_append_right _ hmem)
      -- what comes after the node would come before it, too
      have hbefore := h.ancestor_mem_before hnode hsplit hacc (hall next hnext hne)
      exact absurd rfl (hdisjoint next hbefore next hmem)

/-- The order without the comparator: parents first. -/
theorem forget (h : CausalOrder node parent cmp list) :
    CausalOrder node parent (fun _ _ => .eq) list := by
  have hemit : ∀ {emitted : List α}, Emission node parent cmp emitted →
      Emission node parent (fun _ _ => .eq) emitted := by
    intro emitted hemission
    induction hemission with
    | nil => exact .nil
    | snoc earlier available least ih => exact ih.snoc available fun b _ => rfl
  obtain ⟨emitted, rest, rfl, hemission, hcomplete, hrest, hmem, hsorted⟩ := h.split
  exact ⟨emitted, rest, rfl, hemit hemission, hcomplete, hrest, hmem, hsorted.imp fun _ => rfl⟩

/-- **A node on top of the leaves comes last.** -/
theorem eq_concat_of_onTop {node' : α → Prop} {parent' : α → α → Prop} {top : α}
    (h : CausalOrder node' parent' cmp list) (htop : Frontier.OnTop node parent top node' parent')
    (hfinite : {a | node a}.Finite) (hparent : ∀ p a, parent p a → node p ∧ node a)
    (hacyclic : Frontier.Acyclic parent) : ∃ before, list = before ++ [top] := by
  have hnode : ∀ p a, parent' p a → node' p := by
    intro p a hp
    apply (htop.node_iff p).mpr
    rcases (htop.parent_iff p a).mp hp with hold | ⟨-, hleaf⟩
    · exact Or.inl (hparent p a hold).1
    · exact Or.inl hleaf.1
  have hnew : node' top := (htop.node_iff top).mpr (Or.inr rfl)
  refine h.eq_concat hnode hnew (htop.acc hfinite hparent hacyclic hnew) fun a ha hne => ?_
  rcases (htop.node_iff a).mp ha with hold | heq
  · exact htop.transGen_top hfinite hparent hacyclic hold
  · exact absurd heq hne

/-- **A graph has one causal order.** -/
theorem unique (hleft : CausalOrder node parent cmp left)
    (hright : CausalOrder node parent cmp right)
    (hseparates : ∀ a b, node a → node b → Below cmp a b → Below cmp b a → a = b) :
    left = right := by
  obtain ⟨emitted, rest, rfl, hemission, hcomplete, hrest, hmem, hsorted⟩ := hleft.split
  obtain ⟨emitted', rest', rfl, hemission', hcomplete', hrest', hmem', hsorted'⟩ := hright.split
  obtain rfl := hemission.unique hemission' hseparates hcomplete hcomplete'
  have hperm : rest.Perm rest' := by
    refine (List.perm_ext_iff_of_nodup hrest hrest').mpr fun a => ?_
    rw [hmem, hmem']
  rw [hperm.eq_of_pairwise (fun a b ha hb hab hba => hseparates a b ((hmem a).mp ha).1
    ((hmem' b).mp hb).1 hab hba) hsorted hsorted']

/-- The same graph, described differently. -/
theorem congr {node' : α → Prop} {parent' : α → α → Prop}
    (h : CausalOrder node parent cmp list) (hnode : ∀ a, node a ↔ node' a)
    (hparent : ∀ p a, parent p a ↔ parent' p a) : CausalOrder node' parent' cmp list := by
  obtain rfl : node = node' := funext fun a => propext (hnode a)
  obtain rfl : parent = parent' := funext fun p => funext fun a => propext (hparent p a)
  exact h

/-- Only the comparator on the nodes matters. -/
theorem congr_cmp (h : CausalOrder node parent cmp list) {cmp' : α → α → Ordering}
    (hagree : ∀ a b, node a → node b → cmp a b = cmp' a b) :
    CausalOrder node parent cmp' list := by
  have hemit : ∀ {emitted : List α}, Emission node parent cmp emitted →
      Emission node parent cmp' emitted := by
    intro emitted hemission
    induction hemission with
    | nil => exact .nil
    | snoc earlier available least ih =>
        refine ih.snoc available fun b hb => ?_
        rw [Below, ← hagree _ _ available.1 hb.1]
        exact least b hb
  obtain ⟨emitted, rest, rfl, hemission, hcomplete, hrest, hmem, hsorted⟩ := h.split
  refine ⟨emitted, rest, rfl, hemit hemission, hcomplete, hrest, hmem, ?_⟩
  refine hsorted.imp_of_mem fun {a b} ha hb hbelow => ?_
  rw [Below, ← hagree a b ((hmem a).mp ha).1 ((hmem b).mp hb).1]
  exact hbelow

/-! ## Renaming the nodes -/

section Map

variable {f : α → β} {node' : β → Prop} {parent' : β → β → Prop} {cmp' : β → β → Ordering}

theorem available_map (hinj : ∀ a b, node a → node b → f a = f b → a = b)
    (hsub : ∀ a ∈ emitted, node a)
    (hnode : ∀ b, node' b ↔ ∃ a, node a ∧ f a = b)
    (hparent : ∀ a, node a → ∀ q, parent' q (f a) ↔ ∃ p, node p ∧ parent p a ∧ f p = q)
    (hknown : ∀ p a, parent p a → node p) {b : β} :
    Available node' parent' (emitted.map f) b ↔
      ∃ a, Available node parent emitted a ∧ f a = b := by
  have hmem : ∀ a, node a → (f a ∈ emitted.map f ↔ a ∈ emitted) := by
    intro a ha
    rw [List.mem_map]
    constructor
    · rintro ⟨other, hother, heq⟩
      exact hinj other a (hsub other hother) ha heq ▸ hother
    · exact fun h => ⟨a, h, rfl⟩
  constructor
  · rintro ⟨hb, hfresh, hall⟩
    obtain ⟨a, ha, rfl⟩ := (hnode b).mp hb
    refine ⟨a, ⟨ha, fun h => hfresh ((hmem a ha).mpr h), fun p hp => ?_⟩, rfl⟩
    have hpnode := hknown p a hp
    exact (hmem p hpnode).mp (hall (f p) ((hparent a ha (f p)).mpr ⟨p, hpnode, hp, rfl⟩))
  · rintro ⟨a, ⟨ha, hfresh, hall⟩, heq⟩
    subst heq
    refine ⟨(hnode _).mpr ⟨a, ha, rfl⟩, fun h => hfresh ((hmem a ha).mp h), fun q hq => ?_⟩
    obtain ⟨p, -, hp, rfl⟩ := (hparent a ha q).mp hq
    exact List.mem_map_of_mem (hall p hp)

/-- The causal order of a graph whose nodes are renamed. -/
theorem map (h : CausalOrder node parent cmp list)
    (hinj : ∀ a b, node a → node b → f a = f b → a = b)
    (hnode : ∀ b, node' b ↔ ∃ a, node a ∧ f a = b)
    (hparent : ∀ a, node a → ∀ q, parent' q (f a) ↔ ∃ p, node p ∧ parent p a ∧ f p = q)
    (hknown : ∀ p a, parent p a → node p)
    (hcmp : ∀ a b, node a → node b → cmp' (f a) (f b) = cmp a b) :
    CausalOrder node' parent' cmp' (list.map f) := by
  have hemit : ∀ {emitted : List α}, Emission node parent cmp emitted →
      Emission node' parent' cmp' (emitted.map f) := by
    intro emitted hemission
    induction hemission with
    | nil => exact .nil
    | @snoc earlier a hearlier available least ih =>
        rw [List.map_append, List.map_singleton]
        have hiff : ∀ {b : β}, Available node' parent' (earlier.map f) b ↔
            ∃ a, Available node parent earlier a ∧ f a = b :=
          available_map hinj (fun _ => hearlier.node_of_mem) hnode hparent hknown
        refine ih.snoc (hiff.mpr ⟨a, available, rfl⟩) fun b hb => ?_
        obtain ⟨other, hother, rfl⟩ := hiff.mp hb
        rw [Below, hcmp a other available.1 hother.1]
        exact least other hother
  obtain ⟨emitted, rest, rfl, hemission, hcomplete, hrest, hmem, hsorted⟩ := h.split
  have hsub : ∀ a ∈ emitted, node a := fun _ => hemission.node_of_mem
  rw [List.map_append]
  refine ⟨_, _, rfl, hemit hemission, fun b hb => ?_, ?_, fun b => ?_, ?_⟩
  · obtain ⟨a, ha, -⟩ := (available_map hinj hsub hnode hparent hknown).mp hb
    exact hcomplete a ha
  · exact hrest.map_on fun a ha b hb => hinj a b ((hmem a).mp ha).1 ((hmem b).mp hb).1
  · rw [List.mem_map, hnode]
    constructor
    · rintro ⟨a, ha, heq⟩
      obtain ⟨hanode, hfresh⟩ := (hmem a).mp ha
      refine ⟨⟨a, hanode, heq⟩, fun hb => ?_⟩
      obtain ⟨other, hother, hsame⟩ := List.mem_map.mp hb
      exact hfresh (hinj other a (hsub other hother) hanode (hsame.trans heq.symm) ▸ hother)
    · rintro ⟨⟨a, ha, heq⟩, hfresh⟩
      exact ⟨a, (hmem a).mpr ⟨ha, fun h => hfresh (heq ▸ List.mem_map_of_mem h)⟩, heq⟩
  · rw [List.pairwise_map]
    refine hsorted.imp_of_mem fun {a b} ha hb hbelow => ?_
    rw [Below, hcmp a b ((hmem a).mp ha).1 ((hmem b).mp hb).1]
    exact hbelow

end Map

end CausalOrder

/-! ## The worklist computes it -/

variable {κ : Type*} [DecidableEq κ] {graph : Graph α κ}

/-- The worklist and what it leaves over. -/
def Graph.ordered (graph : Graph α κ) : List α :=
  graph.kahn ++ sortBy graph.cmp
    (graph.nodes.filter fun node => decide (graph.key node ∉ graph.kahn.map graph.key))

/-- What is left over of the nodes after a list of them. -/
theorem mem_leftover_iff (hwf : graph.WellFormed) (hsub : ∀ a ∈ emitted, a ∈ graph.nodes) {a : α} :
    a ∈ (graph.nodes.filter fun node => decide (graph.key node ∉ emitted.map graph.key)) ↔
      graph.Node a ∧ a ∉ emitted := by
  rw [List.mem_filter, decide_eq_true_eq]
  refine and_congr_right fun ha => not_congr ?_
  constructor
  · intro hkey
    exact mem_of_key_mem hwf hsub ha hkey
  · exact fun h => List.mem_map_of_mem h

theorem causalOrder_ordered [Std.TransCmp graph.cmp] (hwf : graph.WellFormed) :
    CausalOrder graph.Node graph.Parent graph.cmp graph.ordered := by
  have hemission := emission_kahn hwf
  refine ⟨_, _, rfl, hemission, complete_kahn hwf, ?_, fun a => ?_, pairwise_sortBy _⟩
  · exact nodup_sortBy ((List.Nodup.of_map _ hwf.nodup_keys).filter _)
  · rw [mem_sortBy]
    exact mem_leftover_iff hwf fun _ ha => hemission.node_of_mem ha

end Kahn

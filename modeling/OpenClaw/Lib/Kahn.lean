import OpenClaw.Lib.OrderedMap
import OpenClaw.Lib.StableSort
import Mathlib.Data.Finset.Card

/-!
# Kahn's algorithm with a priority

Nodes are emitted one at a time: among the nodes whose parents have all been
emitted, the least one under a comparator goes next.

The first half states this without an algorithm.  `Available` is what may be
emitted after a list, `Emission` the lists that always took the least available
node, and `Emission.unique` says that two complete emissions of the same graph
are equal, whatever produced them: order and repetition of an input can only
matter through the graph.  `Emission.complete_mem_iff` says which nodes are
emitted at all, namely those that are not on or below a cycle.

The second half is the worklist that computes it (`kahn`): in-degrees, a map of
children, and a ready list that is sorted again after every emission.
`emission_kahn` and `complete_kahn` connect the two halves.
-/

namespace Kahn

open StableSort

variable {α κ : Type*}

section Emission

variable (node : α → Prop) (parent : α → α → Prop) (cmp : α → α → Ordering)

/-- `a` is a node that has not been emitted and whose parents all have. -/
def Available (emitted : List α) (a : α) : Prop :=
  node a ∧ a ∉ emitted ∧ ∀ p, parent p a → p ∈ emitted

/-- The list was emitted node by node, each time the least available one. -/
inductive Emission : List α → Prop
  | nil : Emission []
  | snoc {emitted : List α} {a : α} (earlier : Emission emitted)
      (available : Available node parent emitted a)
      (least : ∀ b, Available node parent emitted b → Below cmp a b) :
      Emission (emitted ++ [a])

/-- Nothing is left to emit. -/
def Complete (emitted : List α) : Prop := ∀ a, ¬ Available node parent emitted a

variable {node parent cmp} {emitted left right : List α}

namespace Emission

theorem node_of_mem (h : Emission node parent cmp emitted) {a : α} (ha : a ∈ emitted) :
    node a := by
  induction h with
  | nil => simp at ha
  | snoc _ available _ ih =>
      rcases List.mem_append.mp ha with ha | ha
      · exact ih ha
      · obtain rfl := List.mem_singleton.mp ha
        exact available.1

theorem nodup (h : Emission node parent cmp emitted) : emitted.Nodup := by
  induction h with
  | nil => exact List.nodup_nil
  | snoc _ available _ ih => exact List.nodup_append.mpr ⟨ih, List.nodup_singleton _, by
      rintro x hx y hy rfl
      exact available.2.1 (List.mem_singleton.mp hy ▸ hx)⟩

/-- Each node was the least available one when it was emitted. -/
theorem step_at (h : Emission node parent cmp emitted) {before after : List α} {a : α}
    (hsplit : emitted = before ++ a :: after) :
    Available node parent before a ∧ ∀ b, Available node parent before b → Below cmp a b := by
  induction h generalizing after with
  | nil => simp at hsplit
  | @snoc earlier last _ available least ih =>
      rcases List.eq_nil_or_concat after with rfl | ⟨init, final, rfl⟩
      · obtain ⟨rfl, hlast⟩ := List.append_inj' hsplit rfl
        obtain rfl : last = a := by simpa using hlast
        exact ⟨available, least⟩
      · have : earlier ++ [last] = (before ++ a :: init) ++ [final] := by simpa using hsplit
        exact ih (List.append_inj' this rfl).1

/-- The parents of an emitted node were emitted before it. -/
theorem parent_mem_before (h : Emission node parent cmp emitted) {before after : List α} {a p : α}
    (hsplit : emitted = before ++ a :: after) (hp : parent p a) : p ∈ before :=
  (h.step_at hsplit).1.2.2 p hp

theorem parent_mem (h : Emission node parent cmp emitted) {a p : α} (ha : a ∈ emitted)
    (hp : parent p a) : p ∈ emitted := by
  obtain ⟨before, after, hsplit⟩ := List.append_of_mem ha
  rw [hsplit]
  exact List.mem_append_left _ (h.parent_mem_before hsplit hp)

theorem prefix_of_length_le (h₁ : Emission node parent cmp left)
    (h₂ : Emission node parent cmp right)
    (hseparates : ∀ a b, node a → node b → Below cmp a b → Below cmp b a → a = b)
    (hlength : left.length ≤ right.length) : left <+: right := by
  induction h₂ generalizing left with
  | nil =>
      obtain rfl := List.length_eq_zero_iff.mp (Nat.le_zero.mp hlength)
      exact List.prefix_rfl
  | @snoc earlier last hearlier available least ih =>
      rcases Nat.lt_or_ge earlier.length left.length with hlt | hle
      · -- Both lists take their last step from the same prefix.
        cases h₁ with
        | nil => simp at hlt
        | @snoc earlier' last' hearlier' available' least' =>
            simp only [List.length_append, List.length_singleton] at hlength hlt
            obtain ⟨tail, htail⟩ := ih hearlier' (by omega)
            have htail_nil : tail = [] := by
              have := congrArg List.length htail
              rw [List.length_append] at this
              exact List.length_eq_zero_iff.mp (by omega)
            obtain rfl : earlier' = earlier := by simpa [htail_nil] using htail
            obtain rfl : last' = last := hseparates _ _ available'.1 available.1
              (least' _ available) (least _ available')
            exact List.prefix_rfl
      · exact (ih h₁ hle).trans (List.prefix_append _ _)

/-- A complete emission is as long as any other. -/
theorem length_le_of_complete (h₁ : Emission node parent cmp left)
    (h₂ : Emission node parent cmp right)
    (hseparates : ∀ a b, node a → node b → Below cmp a b → Below cmp b a → a = b)
    (hcomplete : Complete node parent left) : right.length ≤ left.length := by
  induction h₂ with
  | nil => exact Nat.zero_le _
  | @snoc earlier last hearlier available least ih =>
      have hne : earlier.length ≠ left.length := fun heq => by
        have hinit := hearlier.prefix_of_length_le h₁ hseparates heq.le
        exact hcomplete last (hinit.eq_of_length heq ▸ available)
      rw [List.length_append, List.length_singleton]
      omega

/-- **A graph has one complete emission.** -/
theorem unique (h₁ : Emission node parent cmp left) (h₂ : Emission node parent cmp right)
    (hseparates : ∀ a b, node a → node b → Below cmp a b → Below cmp b a → a = b)
    (hleft : Complete node parent left) (hright : Complete node parent right) : left = right := by
  have hle := h₁.length_le_of_complete h₂ hseparates hleft
  have hge := h₂.length_le_of_complete h₁ hseparates hright
  exact (h₁.prefix_of_length_le h₂ hseparates hge).eq_of_length (le_antisymm hge hle)

/-- An emitted node has no infinite chain of ancestors. -/
theorem acc_of_mem (h : Emission node parent cmp emitted) {a : α} (ha : a ∈ emitted) :
    Acc parent a := by
  induction h generalizing a with
  | nil => simp at ha
  | snoc _ available _ ih =>
      rcases List.mem_append.mp ha with ha | ha
      · exact ih ha
      · obtain rfl := List.mem_singleton.mp ha
        exact ⟨_, fun p hp => ih (available.2.2 p hp)⟩

/-- A complete emission holds exactly the nodes that are not on or below a
cycle: those from which the parent relation is well founded. -/
theorem complete_mem_iff (h : Emission node parent cmp emitted)
    (hcomplete : Complete node parent emitted) (hnode : ∀ p a, parent p a → node p) {a : α} :
    a ∈ emitted ↔ node a ∧ Acc parent a := by
  constructor
  · intro ha
    exact ⟨h.node_of_mem ha, h.acc_of_mem ha⟩
  · rintro ⟨ha, hacc⟩
    induction hacc with
    | intro a _ ih =>
        by_contra hnot
        exact hcomplete a ⟨ha, hnot, fun p hp => ih p hp (hnode p a hp)⟩

end Emission

end Emission

/-! ## The worklist -/

section Worklist

/-- A graph as the worklist reads it: the nodes, their keys, and for every node
the keys of its parents among the nodes. -/
structure Graph (α κ : Type*) where
  nodes : List α
  key : α → κ
  parents : α → List κ
  cmp : α → α → Ordering

variable [DecidableEq κ] (graph : Graph α κ)

/-- `children.get(parent) || new Set()` with `child` added, stored again. -/
def addChild (child : κ) (children : OrderedMap κ (List κ)) (parent : κ) :
    OrderedMap κ (List κ) :=
  children.set parent (OrderedSet.insert child ((children.get parent).getD []))

namespace Graph

/-- The children of every node that has one. -/
def children : OrderedMap κ (List κ) :=
  graph.nodes.foldl
    (fun children node => (graph.parents node).foldl (addChild (graph.key node)) children) ∅

/-- The number of parents every node is still waiting for. -/
def inDegree : OrderedMap κ ℕ :=
  graph.nodes.foldl
    (fun inDegree node => inDegree.set (graph.key node) (graph.parents node).length) ∅

/-- One child of an emitted node: it waits for one parent less, and joins the
ready list when it waits for none. -/
def release (state : List α × OrderedMap κ ℕ) (child : κ) : List α × OrderedMap κ ℕ :=
  let nextDegree := (state.2.get child).getD 0 - 1
  let inDegree := state.2.set child nextDegree
  if nextDegree = 0 then
    match graph.nodes.find? fun node => decide (graph.key node = child) with
    | some node => (state.1 ++ [node], inDegree)
    | none => (state.1, inDegree)
  else (state.1, inDegree)

/-- Emit the head of the ready list, release its children, sort the ready list
again.  The fuel only bounds the number of rounds. -/
def loop : ℕ → List α → OrderedMap κ ℕ → List α → List α
  | 0, _, _, ordered => ordered
  | _ + 1, [], _, ordered => ordered
  | fuel + 1, current :: ready, inDegree, ordered =>
      let released :=
        ((graph.children.get (graph.key current)).getD []).foldl graph.release (ready, inDegree)
      loop fuel (sortBy graph.cmp released.1) released.2 (ordered ++ [current])

/-- The rounds by themselves: from this ready list they come to an end, and this list has
been emitted then. -/
inductive Halts : List α → OrderedMap κ ℕ → List α → List α → Prop
  | done (inDegree : OrderedMap κ ℕ) (ordered : List α) : Halts [] inDegree ordered ordered
  | round {current : α} {ready ordered result : List α} {inDegree : OrderedMap κ ℕ}
      (rest :
        let released :=
          ((graph.children.get (graph.key current)).getD []).foldl graph.release (ready, inDegree)
        Halts (sortBy graph.cmp released.1) released.2 (ordered ++ [current]) result) :
      Halts (current :: ready) inDegree ordered result

/-- The nodes that are ready at the start. -/
def initialReady : List α :=
  sortBy graph.cmp
    (graph.nodes.filter fun node => decide ((graph.inDegree.get (graph.key node)).getD 0 = 0))

/-- The emitted nodes, in order. -/
def kahn : List α := graph.loop graph.nodes.length graph.initialReady graph.inDegree []

/-- What makes a graph one: distinct keys, and parents that are distinct keys of
nodes. -/
structure WellFormed : Prop where
  nodup_keys : (graph.nodes.map graph.key).Nodup
  nodup_parents : ∀ node ∈ graph.nodes, (graph.parents node).Nodup
  parent_known : ∀ node ∈ graph.nodes, ∀ p ∈ graph.parents node, p ∈ graph.nodes.map graph.key

/-- Membership and parenthood as the abstract half reads them. -/
def Node (a : α) : Prop := a ∈ graph.nodes

def Parent (p a : α) : Prop :=
  p ∈ graph.nodes ∧ a ∈ graph.nodes ∧ graph.key p ∈ graph.parents a

end Graph

variable {graph} {ready ordered : List α} {inDegree : OrderedMap κ ℕ}

/-! ### The tables built before the loop -/

theorem mem_addChild {child parent p c : κ} {children : OrderedMap κ (List κ)} :
    c ∈ ((addChild child children parent).get p).getD [] ↔
      (p = parent ∧ c = child) ∨ c ∈ (children.get p).getD [] := by
  unfold addChild
  rw [OrderedMap.get_set]
  split
  · next heq => subst heq; simp
  · next hne => simp [hne]

theorem mem_foldl_addChild {child p c : κ} {children : OrderedMap κ (List κ)} (parents : List κ) :
    c ∈ ((parents.foldl (addChild child) children).get p).getD [] ↔
      (p ∈ parents ∧ c = child) ∨ c ∈ (children.get p).getD [] := by
  induction parents generalizing children with
  | nil => simp
  | cons parent rest ih =>
      rw [List.foldl_cons, ih, mem_addChild, List.mem_cons]
      tauto

private theorem mem_foldl_children {nodes : List α} {p c : κ} {children : OrderedMap κ (List κ)} :
    c ∈ ((nodes.foldl (fun children node =>
        (graph.parents node).foldl (addChild (graph.key node)) children) children).get p).getD [] ↔
      (∃ node ∈ nodes, graph.key node = c ∧ p ∈ graph.parents node) ∨
        c ∈ (children.get p).getD [] := by
  induction nodes generalizing children with
  | nil => simp
  | cons node rest ih =>
      rw [List.foldl_cons, ih, mem_foldl_addChild]
      simp only [List.mem_cons, exists_eq_or_imp]
      constructor
      · rintro (h | ⟨hp, rfl⟩ | h)
        · exact Or.inl (Or.inr h)
        · exact Or.inl (Or.inl ⟨rfl, hp⟩)
        · exact Or.inr h
      · rintro ((⟨rfl, hp⟩ | h) | h)
        · exact Or.inr (Or.inl ⟨hp, rfl⟩)
        · exact Or.inl h
        · exact Or.inr (Or.inr h)

/-- The children of `p` are the keys of the nodes that name it as a parent. -/
theorem mem_children {p c : κ} :
    c ∈ (graph.children.get p).getD [] ↔
      ∃ node ∈ graph.nodes, graph.key node = c ∧ p ∈ graph.parents node := by
  unfold Graph.children
  rw [mem_foldl_children]
  simp

/-- Every list of children is without repetition, and is not empty. -/
def ProperChildren (children : OrderedMap κ (List κ)) : Prop :=
  ∀ p cs, children.get p = some cs → cs.Nodup ∧ cs ≠ []

theorem properChildren_addChild {children : OrderedMap κ (List κ)} (child parent : κ)
    (hproper : ProperChildren children) : ProperChildren (addChild child children parent) := by
  intro p cs hget
  unfold addChild at hget
  rw [OrderedMap.get_set] at hget
  split at hget
  · obtain rfl := Option.some.inj hget
    constructor
    · apply OrderedSet.nodup_insert
      cases hold : children.get parent with
      | none => exact List.nodup_nil
      | some old => exact (hproper parent old hold).1
    · exact List.ne_nil_of_mem (OrderedSet.mem_insert.mpr (Or.inl rfl))
  · exact hproper p cs hget

theorem properChildren_foldl {children : OrderedMap κ (List κ)} (child : κ) (parents : List κ)
    (hproper : ProperChildren children) :
    ProperChildren (parents.foldl (addChild child) children) := by
  induction parents generalizing children with
  | nil => exact hproper
  | cons parent rest ih => exact ih (properChildren_addChild child parent hproper)

theorem properChildren_children : ProperChildren graph.children := by
  unfold Graph.children
  suffices ∀ (nodes : List α) (children : OrderedMap κ (List κ)), ProperChildren children →
      ProperChildren (nodes.foldl (fun children node =>
        (graph.parents node).foldl (addChild (graph.key node)) children) children) from
    this graph.nodes ∅ (by intro p cs hget; simp at hget)
  intro nodes
  induction nodes with
  | nil => exact fun _ hproper => hproper
  | cons node rest ih =>
      intro children hproper
      exact ih _ (properChildren_foldl (graph.key node) (graph.parents node) hproper)

theorem nodup_children (p : κ) : ((graph.children.get p).getD []).Nodup := by
  cases hget : graph.children.get p with
  | none => exact List.nodup_nil
  | some cs => exact (properChildren_children p cs hget).1

private theorem get_foldl_inDegree_of_not_mem {nodes : List α} {k : κ} (inDegree : OrderedMap κ ℕ)
    (hfresh : k ∉ nodes.map graph.key) :
    (nodes.foldl (fun inDegree node =>
      inDegree.set (graph.key node) (graph.parents node).length) inDegree).get k =
      inDegree.get k := by
  induction nodes generalizing inDegree with
  | nil => rfl
  | cons node rest ih =>
      rw [List.map_cons, List.mem_cons, not_or] at hfresh
      rw [List.foldl_cons, ih _ hfresh.2, OrderedMap.get_set_of_ne _ _ hfresh.1]

private theorem get_foldl_inDegree {nodes : List α} (hnodup : (nodes.map graph.key).Nodup)
    (inDegree : OrderedMap κ ℕ) {node : α} (hnode : node ∈ nodes) :
    (nodes.foldl (fun inDegree node =>
      inDegree.set (graph.key node) (graph.parents node).length) inDegree).get (graph.key node) =
      some (graph.parents node).length := by
  induction nodes generalizing inDegree with
  | nil => simp at hnode
  | cons first rest ih =>
      rw [List.map_cons, List.nodup_cons] at hnodup
      rcases List.mem_cons.mp hnode with rfl | hrest
      · rw [List.foldl_cons, get_foldl_inDegree_of_not_mem _ hnodup.1, OrderedMap.get_set_self]
      · exact ih hnodup.2 _ hrest

theorem get_inDegree (hwf : graph.WellFormed) {node : α} (hnode : node ∈ graph.nodes) :
    graph.inDegree.get (graph.key node) = some (graph.parents node).length :=
  get_foldl_inDegree hwf.nodup_keys ∅ hnode

/-! ### One round -/

/-- How many parents the key is still waiting for. -/
def degree (inDegree : OrderedMap κ ℕ) (k : κ) : ℕ := (inDegree.get k).getD 0

/-- The node a released child contributes to the ready list. -/
def released (graph : Graph α κ) (inDegree : OrderedMap κ ℕ) (child : κ) : Option α :=
  if degree inDegree child - 1 = 0 then
    graph.nodes.find? fun node => decide (graph.key node = child)
  else none

theorem release_eq (ready : List α) (inDegree : OrderedMap κ ℕ) (child : κ) :
    graph.release (ready, inDegree) child =
      (ready ++ (released graph inDegree child).toList,
        inDegree.set child (degree inDegree child - 1)) := by
  unfold Graph.release released degree
  dsimp only
  split
  · cases graph.nodes.find? fun node => decide (graph.key node = child) <;> simp
  · simp

theorem degree_set_of_ne {inDegree : OrderedMap κ ℕ} {k child : κ} {n : ℕ} (hne : k ≠ child) :
    degree (inDegree.set child n) k = degree inDegree k := by
  rw [degree, OrderedMap.get_set_of_ne _ _ hne, degree]

/-- Releasing distinct children lowers each of their degrees by one, and the
children that now wait for nothing join the ready list. -/
theorem foldl_release {children : List κ} (hnodup : children.Nodup) (ready : List α)
    (inDegree : OrderedMap κ ℕ) :
    (children.foldl graph.release (ready, inDegree)).1 =
        ready ++ children.filterMap (released graph inDegree) ∧
      ∀ k, degree (children.foldl graph.release (ready, inDegree)).2 k =
        if k ∈ children then degree inDegree k - 1 else degree inDegree k := by
  induction children generalizing ready inDegree with
  | nil => simp
  | cons child rest ih =>
      obtain ⟨hchild, hrest⟩ := List.nodup_cons.mp hnodup
      rw [List.foldl_cons, release_eq]
      obtain ⟨hready, hdegree⟩ := ih hrest (ready ++ (released graph inDegree child).toList)
        (inDegree.set child (degree inDegree child - 1))
      constructor
      · have hsame : rest.filterMap
            (released graph (inDegree.set child (degree inDegree child - 1))) =
            rest.filterMap (released graph inDegree) := by
          apply List.filterMap_congr
          intro other hother
          unfold released
          have hne : other ≠ child := by rintro rfl; exact hchild hother
          rw [degree_set_of_ne hne]
        rw [hready, hsame, List.filterMap_cons, List.append_assoc]
        cases released graph inDegree child <;> rfl
      · intro k
        rw [hdegree k]
        by_cases hk : k = child
        · subst hk
          simp [hchild, degree]
        · simp [hk, degree_set_of_ne hk]

theorem find?_key_eq_some_iff (hwf : graph.WellFormed) {node : α} {k : κ} :
    (graph.nodes.find? fun node => decide (graph.key node = k)) = some node ↔
      node ∈ graph.nodes ∧ graph.key node = k := by
  constructor
  · intro hfind
    exact ⟨List.mem_of_find?_eq_some hfind, by simpa using List.find?_some hfind⟩
  · rintro ⟨hnode, rfl⟩
    cases hfind : graph.nodes.find? fun other => decide (graph.key other = graph.key node) with
    | none => simpa using List.find?_eq_none.mp hfind node hnode
    | some other =>
        have hkey : graph.key other = graph.key node := by simpa using List.find?_some hfind
        rw [List.inj_on_of_nodup_map hwf.nodup_keys (List.mem_of_find?_eq_some hfind) hnode hkey]

/-- The parents of `node` that have not been emitted. -/
def waiting (graph : Graph α κ) (ordered : List α) (node : α) : List κ :=
  (graph.parents node).filter fun p => decide (p ∉ ordered.map graph.key)

theorem mem_of_mem_release {state : List α × OrderedMap κ ℕ} {child : κ} {a : α}
    (ha : a ∈ (graph.release state child).1) : a ∈ state.1 ∨ a ∈ graph.nodes := by
  unfold Graph.release at ha
  dsimp only at ha
  split at ha
  · split at ha
    · next node hfind =>
        rcases List.mem_append.mp ha with ha | ha
        · exact .inl ha
        · obtain rfl := List.mem_singleton.mp ha
          exact .inr (List.mem_of_find?_eq_some hfind)
    · exact .inl ha
  · exact .inl ha

theorem mem_of_mem_foldl_release {children : List κ} {state : List α × OrderedMap κ ℕ} {a : α}
    (ha : a ∈ (children.foldl graph.release state).1) : a ∈ state.1 ∨ a ∈ graph.nodes := by
  induction children generalizing state with
  | nil => exact .inl ha
  | cons child rest ih =>
      rcases ih ha with hreleased | hnode
      · exact mem_of_mem_release hreleased
      · exact .inr hnode

theorem node_of_mem_loop {fuel : ℕ} (hready : ∀ a ∈ ready, a ∈ graph.nodes)
    (hordered : ∀ a ∈ ordered, a ∈ graph.nodes) :
    ∀ a ∈ graph.loop fuel ready inDegree ordered, a ∈ graph.nodes := by
  induction fuel generalizing ready inDegree ordered with
  | zero => exact hordered
  | succ fuel ih =>
      cases ready with
      | nil => exact hordered
      | cons current ready =>
          obtain ⟨hcurrent, hrest⟩ := List.forall_mem_cons.mp hready
          rw [Graph.loop]
          apply ih
          · intro a ha
            exact (mem_of_mem_foldl_release (mem_sortBy.mp ha)).elim (hrest a) id
          · intro a ha
            rcases List.mem_append.mp ha with ha | ha
            · exact hordered a ha
            · exact List.mem_singleton.mp ha ▸ hcurrent

/-- Whatever the comparator is, nodes are emitted. -/
theorem node_of_mem_kahn {a : α} (ha : a ∈ graph.kahn) : a ∈ graph.nodes := by
  refine node_of_mem_loop (fun b hb => ?_) (fun b hb => absurd hb List.not_mem_nil) a ha
  exact (List.mem_filter.mp (mem_sortBy.mp hb)).1

/-- What the loop keeps true between two rounds. -/
structure RoundInv (graph : Graph α κ) (ready : List α) (inDegree : OrderedMap κ ℕ)
    (ordered : List α) : Prop where
  emission : Emission graph.Node graph.Parent graph.cmp ordered
  degree_eq : ∀ node ∈ graph.nodes,
    degree inDegree (graph.key node) = (waiting graph ordered node).length
  mem_ready : ∀ node, node ∈ ready ↔ Available graph.Node graph.Parent ordered node
  nodup_ready : ready.Nodup
  sorted_ready : ready.Pairwise (Below graph.cmp)

omit [DecidableEq κ] in
theorem mem_of_key_mem (hwf : graph.WellFormed) {ordered : List α}
    (hsub : ∀ a ∈ ordered, a ∈ graph.nodes) {p : α} (hp : p ∈ graph.nodes)
    (hkey : graph.key p ∈ ordered.map graph.key) : p ∈ ordered := by
  obtain ⟨other, hother, heq⟩ := List.mem_map.mp hkey
  rwa [← List.inj_on_of_nodup_map hwf.nodup_keys (hsub other hother) hp heq]

theorem available_iff (hwf : graph.WellFormed) {ordered : List α}
    (hsub : ∀ a ∈ ordered, a ∈ graph.nodes) {node : α} :
    Available graph.Node graph.Parent ordered node ↔
      node ∈ graph.nodes ∧ node ∉ ordered ∧ waiting graph ordered node = [] := by
  unfold Available Graph.Node
  refine and_congr_right fun hnode => and_congr_right fun _ => ?_
  unfold waiting
  rw [List.filter_eq_nil_iff]
  constructor
  · intro hall p hp
    obtain ⟨parent, hparent, rfl⟩ := List.mem_map.mp (hwf.parent_known node hnode p hp)
    simpa using ⟨parent, hall parent ⟨hparent, hnode, hp⟩, rfl⟩
  · rintro hall p ⟨hp, _, hkey⟩
    exact mem_of_key_mem hwf hsub hp (by simpa using hall _ hkey)

/-- Emitting `current` takes its key off the waiting list of each child, and of
nothing else. -/
theorem length_waiting_concat (hwf : graph.WellFormed) {ordered : List α} {current node : α}
    (hcurrent : graph.key current ∉ ordered.map graph.key) (hnode : node ∈ graph.nodes) :
    (waiting graph (ordered ++ [current]) node).length =
      if graph.key current ∈ graph.parents node then (waiting graph ordered node).length - 1
      else (waiting graph ordered node).length := by
  have hsplit : waiting graph (ordered ++ [current]) node =
      (waiting graph ordered node).filter fun p => p != graph.key current := by
    unfold waiting
    rw [List.filter_filter]
    congr 1
    funext p
    rw [Bool.eq_iff_iff]
    simp [not_or, and_comm]
  have hnodup : (waiting graph ordered node).Nodup :=
    (hwf.nodup_parents node hnode).filter _
  have herase : waiting graph (ordered ++ [current]) node =
      (waiting graph ordered node).erase (graph.key current) := by
    rw [hsplit, hnodup.erase_eq_filter]
  rw [herase]
  split
  · next hmem =>
      exact List.length_erase_of_mem (List.mem_filter.mpr ⟨hmem, by simpa using hcurrent⟩)
  · next hnot =>
      rw [List.erase_of_not_mem]
      exact fun hmem => hnot (List.mem_filter.mp hmem).1

theorem RoundInv.sub (hinv : RoundInv graph ready inDegree ordered) {a : α} (ha : a ∈ ordered) :
    a ∈ graph.nodes := hinv.emission.node_of_mem ha

/-- The ready list may be kept in any order that the comparator allows. -/
theorem RoundInv.perm (hinv : RoundInv graph ready inDegree ordered) {ready' : List α}
    (hperm : ready'.Perm ready) (hsorted : ready'.Pairwise (Below graph.cmp)) :
    RoundInv graph ready' inDegree ordered where
  emission := hinv.emission
  degree_eq := hinv.degree_eq
  mem_ready node := hperm.mem_iff.trans (hinv.mem_ready node)
  nodup_ready := hperm.nodup_iff.mpr hinv.nodup_ready
  sorted_ready := hsorted

/-- Which nodes the children of `current` contribute to the ready list. -/
theorem mem_filterMap_released (hwf : graph.WellFormed)
    (hinv : RoundInv graph ready inDegree ordered) {current node : α} :
    node ∈ ((graph.children.get (graph.key current)).getD []).filterMap
        (released graph inDegree) ↔
      node ∈ graph.nodes ∧ graph.key current ∈ graph.parents node ∧
        (waiting graph ordered node).length - 1 = 0 := by
  rw [List.mem_filterMap]
  constructor
  · rintro ⟨child, hchild, hreleased⟩
    unfold released at hreleased
    split at hreleased
    · next hzero =>
        obtain ⟨hnode, rfl⟩ := (find?_key_eq_some_iff hwf).mp hreleased
        obtain ⟨other, hother, hkey, hparent⟩ := mem_children.mp hchild
        obtain rfl := List.inj_on_of_nodup_map hwf.nodup_keys hother hnode hkey
        rw [hinv.degree_eq other hnode] at hzero
        exact ⟨hnode, hparent, hzero⟩
    · cases hreleased
  · rintro ⟨hnode, hparent, hzero⟩
    refine ⟨graph.key node, mem_children.mpr ⟨node, hnode, rfl, hparent⟩, ?_⟩
    rw [released, hinv.degree_eq node hnode, if_pos hzero]
    exact (find?_key_eq_some_iff hwf).mpr ⟨hnode, rfl⟩

theorem nodup_filterMap_released (hwf : graph.WellFormed) (inDegree : OrderedMap κ ℕ) (k : κ) :
    (((graph.children.get k).getD []).filterMap (released graph inDegree)).Nodup := by
  refine (nodup_children k).filterMap fun child other node hchild hother => ?_
  have hkey : ∀ c, node ∈ released graph inDegree c → graph.key node = c := by
    intro c hc
    unfold released at hc
    split at hc
    · exact ((find?_key_eq_some_iff hwf).mp hc).2
    · cases hc
  rw [← hkey child hchild, ← hkey other hother]

/-- One round keeps the invariant. -/
theorem RoundInv.round [Std.TransCmp graph.cmp] (hwf : graph.WellFormed) {current : α}
    (hinv : RoundInv graph (current :: ready) inDegree ordered) :
    RoundInv graph
      (sortBy graph.cmp (((graph.children.get (graph.key current)).getD []).foldl graph.release
        (ready, inDegree)).1)
      (((graph.children.get (graph.key current)).getD []).foldl graph.release (ready, inDegree)).2
      (ordered ++ [current]) := by
  have hcurrent := (hinv.mem_ready current).mp List.mem_cons_self
  have hfresh : graph.key current ∉ ordered.map graph.key := fun hkey =>
    hcurrent.2.1 (mem_of_key_mem hwf (fun _ => hinv.sub) hcurrent.1 hkey)
  have hsub : ∀ a ∈ ordered ++ [current], a ∈ graph.nodes := by
    intro a ha
    rcases List.mem_append.mp ha with ha | ha
    · exact hinv.sub ha
    · exact List.mem_singleton.mp ha ▸ hcurrent.1
  have hchildren : ((graph.children.get (graph.key current)).getD []).Nodup :=
    nodup_children (graph.key current)
  obtain ⟨hready, hdegree⟩ := foldl_release hchildren ready inDegree
  -- A child of `current` was neither emitted nor ready: it still waits for `current`.
  have hwaits : ∀ node, graph.key current ∈ graph.parents node →
      graph.key current ∈ waiting graph ordered node := fun node hparent =>
    List.mem_filter.mpr ⟨hparent, by simpa using hfresh⟩
  have hchild_new : ∀ node ∈ graph.nodes, graph.key current ∈ graph.parents node →
      node ∉ ordered ++ [current] := by
    intro node hnode hparent hmem
    have hedge : graph.Parent current node := ⟨hcurrent.1, hnode, hparent⟩
    rcases List.mem_append.mp hmem with hmem | hmem
    · exact hcurrent.2.1 (hinv.emission.parent_mem hmem hedge)
    · obtain rfl := List.mem_singleton.mp hmem
      exact hcurrent.2.1 (hcurrent.2.2 _ hedge)
  have hnot_ready : ∀ node, graph.key current ∈ graph.parents node → node ∉ current :: ready := by
    intro node hparent hmem
    have := ((available_iff hwf fun _ => hinv.sub).mp ((hinv.mem_ready node).mp hmem)).2.2
    exact List.ne_nil_of_mem (hwaits node hparent) this
  have hmem_ready : ∀ node, node ∈ ready ++
      ((graph.children.get (graph.key current)).getD []).filterMap (released graph inDegree) ↔
        Available graph.Node graph.Parent (ordered ++ [current]) node := by
    intro node
    rw [List.mem_append, mem_filterMap_released hwf hinv, available_iff hwf hsub]
    constructor
    · rintro (hold | ⟨hnode, hparent, hzero⟩)
      · obtain ⟨hnode, hnot, hnone⟩ := (available_iff hwf fun _ => hinv.sub).mp
          ((hinv.mem_ready node).mp (List.mem_cons_of_mem _ hold))
        have hne : node ≠ current := fun heq =>
          (List.nodup_cons.mp hinv.nodup_ready).1 (heq ▸ hold)
        refine ⟨hnode, by simp [hnot, hne], List.eq_nil_of_length_eq_zero ?_⟩
        rw [length_waiting_concat hwf hfresh hnode, hnone]
        simp
      · refine ⟨hnode, hchild_new node hnode hparent, List.eq_nil_of_length_eq_zero ?_⟩
        rw [length_waiting_concat hwf hfresh hnode, if_pos hparent, hzero]
    · rintro ⟨hnode, hnot, hnone⟩
      have hlength := length_waiting_concat hwf hfresh hnode
      rw [hnone] at hlength
      by_cases hparent : graph.key current ∈ graph.parents node
      · rw [if_pos hparent] at hlength
        exact Or.inr ⟨hnode, hparent, hlength.symm⟩
      · rw [if_neg hparent] at hlength
        have hmem : node ∈ current :: ready := (hinv.mem_ready node).mpr
          ((available_iff hwf fun _ => hinv.sub).mpr
            ⟨hnode, fun h => hnot (List.mem_append_left _ h),
              List.eq_nil_of_length_eq_zero hlength.symm⟩)
        rcases List.mem_cons.mp hmem with rfl | hmem
        · exact absurd (by simp) hnot
        · exact Or.inl hmem
  refine ⟨hinv.emission.snoc hcurrent fun b hb => ?_, fun node hnode => ?_, fun node => ?_, ?_,
    pairwise_sortBy _⟩
  · rcases List.mem_cons.mp ((hinv.mem_ready b).mpr hb) with rfl | hb
    · exact Std.ReflCmp.isLE_rfl
    · exact (List.pairwise_cons.mp hinv.sorted_ready).1 b hb
  · rw [hdegree, length_waiting_concat hwf hfresh hnode, hinv.degree_eq node hnode]
    refine if_congr ?_ rfl rfl
    rw [mem_children]
    constructor
    · rintro ⟨other, hother, hkey, hparent⟩
      rwa [← List.inj_on_of_nodup_map hwf.nodup_keys hother hnode hkey]
    · exact fun hparent => ⟨node, hnode, rfl, hparent⟩
  · rw [mem_sortBy, hready]
    exact hmem_ready node
  · apply nodup_sortBy
    rw [hready, List.nodup_append]
    refine ⟨(List.nodup_cons.mp hinv.nodup_ready).2, nodup_filterMap_released hwf _ _, ?_⟩
    rintro a ha b hb rfl
    exact hnot_ready a ((mem_filterMap_released hwf hinv).mp hb).2.1 (List.mem_cons_of_mem _ ha)

/-! ### The whole loop -/

theorem roundInv_initial [Std.TransCmp graph.cmp] (hwf : graph.WellFormed) :
    RoundInv graph graph.initialReady graph.inDegree [] := by
  have hwaiting : ∀ node, waiting graph [] node = graph.parents node := fun node => by
    simp [waiting]
  refine ⟨.nil, fun node hnode => ?_, fun node => ?_, ?_, pairwise_sortBy _⟩
  · rw [degree, get_inDegree hwf hnode, hwaiting, Option.getD_some]
  · rw [available_iff hwf (by simp), hwaiting, Graph.initialReady, mem_sortBy, List.mem_filter]
    refine and_congr_right fun hnode => ?_
    simp [get_inDegree hwf hnode]
  · exact nodup_sortBy ((List.Nodup.of_map _ hwf.nodup_keys).filter _)

/-- An emission as long as the graph has no room for another node. -/
theorem RoundInv.complete_of_length (hinv : RoundInv graph ready inDegree ordered)
    (hlength : graph.nodes.length ≤ ordered.length) :
    Complete graph.Node graph.Parent ordered := by
  intro a ha
  have hsub : (ordered ++ [a]).Subperm graph.nodes := by
    refine List.Nodup.subperm ?_ fun b hb => ?_
    · exact List.nodup_append.mpr ⟨hinv.emission.nodup, List.nodup_singleton a, by
        rintro b hb _ hc rfl
        exact ha.2.1 (List.mem_singleton.mp hc ▸ hb)⟩
    · rcases List.mem_append.mp hb with hb | hb
      · exact hinv.sub hb
      · exact List.mem_singleton.mp hb ▸ ha.1
  have hle := hsub.length_le
  rw [List.length_append, List.length_singleton] at hle
  omega

theorem RoundInv.loop [Std.TransCmp graph.cmp] (hwf : graph.WellFormed) (fuel : ℕ)
    (hinv : RoundInv graph ready inDegree ordered)
    (hfuel : graph.nodes.length ≤ ordered.length + fuel) :
    Emission graph.Node graph.Parent graph.cmp (graph.loop fuel ready inDegree ordered) ∧
      Complete graph.Node graph.Parent (graph.loop fuel ready inDegree ordered) := by
  induction fuel generalizing ready inDegree ordered with
  | zero => exact ⟨hinv.emission, hinv.complete_of_length hfuel⟩
  | succ fuel ih =>
      cases ready with
      | nil =>
          rw [Graph.loop]
          exact ⟨hinv.emission, fun a ha => by simpa using (hinv.mem_ready a).mpr ha⟩
      | cons current ready =>
          rw [Graph.loop]
          refine ih (hinv.round hwf) ?_
          rw [List.length_append, List.length_singleton]
          omega

/-- With as much fuel the loop ends because the ready list is empty. -/
theorem RoundInv.halts [Std.TransCmp graph.cmp] (hwf : graph.WellFormed) (fuel : ℕ)
    (hinv : RoundInv graph ready inDegree ordered)
    (hfuel : graph.nodes.length ≤ ordered.length + fuel) :
    graph.Halts ready inDegree ordered (graph.loop fuel ready inDegree ordered) := by
  induction fuel generalizing ready inDegree ordered with
  | zero =>
      have hready : ready = [] := by
        apply List.eq_nil_iff_forall_not_mem.mpr
        intro a ha
        exact hinv.complete_of_length hfuel a ((hinv.mem_ready a).mp ha)
      subst hready
      exact .done _ _
  | succ fuel ih =>
      cases ready with
      | nil => exact .done _ _
      | cons current ready =>
          rw [Graph.loop]
          apply Graph.Halts.round
          apply ih (hinv.round hwf)
          rw [List.length_append, List.length_singleton]
          omega

/-- **The worklist is finished at some time**, with the list that is computed. -/
theorem halts_kahn [Std.TransCmp graph.cmp] (hwf : graph.WellFormed) :
    graph.Halts graph.initialReady graph.inDegree [] graph.kahn :=
  (roundInv_initial hwf).halts hwf _ (by simp)

/-- The worklist emits the least available node each time. -/
theorem emission_kahn [Std.TransCmp graph.cmp] (hwf : graph.WellFormed) :
    Emission graph.Node graph.Parent graph.cmp graph.kahn :=
  ((roundInv_initial hwf).loop hwf _ (by simp)).1

/-- The worklist stops only when nothing is available. -/
theorem complete_kahn [Std.TransCmp graph.cmp] (hwf : graph.WellFormed) :
    Complete graph.Node graph.Parent graph.kahn :=
  ((roundInv_initial hwf).loop hwf _ (by simp)).2

/-- The worklist computes the same list for every presentation of a graph, when
its comparator separates the nodes. -/
theorem kahn_congr {left right : Graph α κ} [Std.TransCmp left.cmp] (hleft : left.WellFormed)
    (hright : right.WellFormed) (hcmp : left.cmp = right.cmp)
    (hnodes : ∀ a, a ∈ left.nodes ↔ a ∈ right.nodes)
    (hparents : ∀ p a, left.Parent p a ↔ right.Parent p a)
    (hseparates : ∀ a ∈ left.nodes, ∀ b ∈ left.nodes, left.cmp a b = .eq → a = b) :
    left.kahn = right.kahn := by
  have hnode_eq : left.Node = right.Node := funext fun a => propext (hnodes a)
  have hparent_eq : left.Parent = right.Parent :=
    funext fun p => funext fun a => propext (hparents p a)
  have : Std.TransCmp right.cmp := hcmp ▸ inferInstance
  have hemission := emission_kahn hright
  have hcomplete := complete_kahn hright
  rw [← hnode_eq, ← hparent_eq, ← hcmp] at hemission
  rw [← hnode_eq, ← hparent_eq] at hcomplete
  exact (emission_kahn hleft).unique hemission
    (fun a b ha hb hab hba => hseparates a ha b hb (below_antisymm hab hba))
    (complete_kahn hleft) hcomplete

end Worklist

end Kahn

import OpenClaw.Lib.CausalOrder

/-!
# Causal orders that leave no choice

A worklist sorts what is available by a comparator, and a sort has to keep to the comparator
only where it is an order.  An emission is forced if the comparator is one on what is
available at every place, and a causal order is if it is one on what is left over as well:
then every way of sorting emits this list, and no other.
-/

namespace Kahn

open StableSort

variable {α : Type*} {node : α → Prop} {parent : α → α → Prop} {cmp : α → α → Ordering}
  {list emitted ordered : List α}

/-- The comparator is transitive among these elements. -/
def TransAmong (cmp : α → α → Ordering) (among : α → Prop) : Prop :=
  ∀ a b c, among a → among b → among c → Below cmp a b → Below cmp b c → Below cmp a c

/-- An emission at whose places the comparator orders what is available. -/
structure ForcedEmission (node : α → Prop) (parent : α → α → Prop) (cmp : α → α → Ordering)
    (emitted : List α) : Prop where
  emission : Emission node parent cmp emitted
  transitive : ∀ before, before <+: emitted → TransAmong cmp (Available node parent before)

/-- A causal order at whose places the comparator orders what is available, and what is left
over. -/
structure ForcedOrder (node : α → Prop) (parent : α → α → Prop) (cmp : α → α → Ordering)
    (list : List α) : Prop where
  split : ∃ emitted rest, list = emitted ++ rest ∧ ForcedEmission node parent cmp emitted ∧
    Complete node parent emitted ∧ rest.Nodup ∧ (∀ a, a ∈ rest ↔ node a ∧ a ∉ emitted) ∧
    rest.Pairwise (Below cmp) ∧ TransAmong cmp (· ∈ rest)

theorem TransAmong.mono {among fewer : α → Prop} (htrans : TransAmong cmp among)
    (hfewer : ∀ a, fewer a → among a) : TransAmong cmp fewer :=
  fun a b c ha hb hc => htrans a b c (hfewer a ha) (hfewer b hb) (hfewer c hc)

theorem orderOn_iff_transAmong [Std.OrientedCmp cmp] :
    OrderOn cmp list ↔ TransAmong cmp (· ∈ list) :=
  ⟨fun horder a b c ha hb hc => horder.trans a ha b hb c hc,
    fun htrans => ⟨fun _ _ _ _ => Std.OrientedCmp.eq_swap,
      fun a ha b hb c hc => htrans a b c ha hb hc⟩⟩

/-- The same graph, described differently. -/
theorem ForcedOrder.congr {node' : α → Prop} {parent' : α → α → Prop}
    (h : ForcedOrder node parent cmp list) (hnode : ∀ a, node a ↔ node' a)
    (hparent : ∀ p a, parent p a ↔ parent' p a) : ForcedOrder node' parent' cmp list := by
  obtain rfl : node = node' := funext fun a => propext (hnode a)
  obtain rfl : parent = parent' := funext fun p => funext fun a => propext (hparent p a)
  exact h

namespace ForcedEmission

theorem nil (htrans : TransAmong cmp (Available node parent [])) :
    ForcedEmission node parent cmp [] where
  emission := .nil
  transitive before hbefore := by
    rw [List.prefix_nil.mp hbefore]
    exact htrans

theorem snoc (h : ForcedEmission node parent cmp emitted) {a : α}
    (available : Available node parent emitted a)
    (least : ∀ b, Available node parent emitted b → Below cmp a b)
    (htrans : TransAmong cmp (Available node parent (emitted ++ [a]))) :
    ForcedEmission node parent cmp (emitted ++ [a]) where
  emission := h.emission.snoc available least
  transitive before hbefore := by
    rcases List.prefix_concat_iff.mp hbefore with rfl | hearlier
    · exact htrans
    · exact h.transitive before hearlier

/-- The next one of a forced emission is the one that a sort puts first. -/
theorem eq_next [Std.OrientedCmp cmp] {ready todo : List α} {current next : α}
    (h : ForcedEmission node parent cmp (ordered ++ next :: todo))
    (hseparates : ∀ a b, node a → node b → cmp a b = .eq → a = b)
    (hready : ∀ a, a ∈ current :: ready ↔ Available node parent ordered a)
    (hsorted : (current :: ready).Pairwise (Below cmp)) : current = next := by
  obtain ⟨havailable, hleast⟩ := h.emission.step_at rfl
  have hcurrent := (hready current).mp List.mem_cons_self
  rcases List.mem_cons.mp ((hready next).mpr havailable) with heq | hlater
  · exact heq.symm
  · have hbelow : Below cmp current next := (List.pairwise_cons.mp hsorted).1 next hlater
    refine hseparates current next hcurrent.1 havailable.1 ?_
    have hback : Below cmp next current := hleast current hcurrent
    have hswap : cmp next current = (cmp current next).swap := Std.OrientedCmp.eq_swap
    unfold Below at hbelow hback
    rw [hswap] at hback
    cases hcmp : cmp current next with
    | eq => rfl
    | lt => rw [hcmp] at hback; cases hback
    | gt => rw [hcmp] at hbelow; cases hbelow

/-- When nothing is available, the emission has come to its end. -/
theorem eq_of_complete {todo : List α} (h : ForcedEmission node parent cmp (ordered ++ todo))
    (hcomplete : Complete node parent ordered) : todo = [] := by
  cases todo with
  | nil => rfl
  | cons next rest => exact absurd (h.emission.step_at rfl).1 (hcomplete next)

end ForcedEmission

end Kahn

import OpenClaw.Lib.CausalOrder

/-!
# Ordering a graph again

The comparator of a graph may take two nodes for equal; then the order depends on how the
nodes were listed.  Listing them in the order they came out in does no harm, though:
ordering again gives the same list (`ordered_again`).  Both worklists hold the same ready
list in every round, since equal nodes join it in the order in which they left it the
first time (`readyAgain_eq`).
-/

namespace Kahn

open StableSort

variable {α κ : Type*} [DecidableEq κ] {graph : Graph α κ} {ready ordered result list : List α}
  {inDegree inDegree' : OrderedMap κ ℕ} {k : κ}

/-! ## The children of a node -/

theorem insert_insert {β : Type*} [DecidableEq β] (b : β) (set : List β) :
    OrderedSet.insert b (OrderedSet.insert b set) = OrderedSet.insert b set := by
  have hmem : b ∈ OrderedSet.insert b set := OrderedSet.mem_insert.mpr (Or.inl rfl)
  rw [OrderedSet.insert, if_pos hmem]

/-- Adding a child to several parents adds it to each of them. -/
theorem getD_foldl_addChild (child : κ) (parents : List κ) (children : OrderedMap κ (List κ)) :
    ((parents.foldl (addChild child) children).get k).getD [] =
      if k ∈ parents then OrderedSet.insert child ((children.get k).getD [])
      else (children.get k).getD [] := by
  induction parents generalizing children with
  | nil => rfl
  | cons parent rest ih =>
      have hadd : ((addChild child children parent).get k).getD [] =
          if parent = k then OrderedSet.insert child ((children.get k).getD [])
          else (children.get k).getD [] := by
        by_cases hk : parent = k
        · rw [if_pos hk, ← hk, addChild, OrderedMap.get_set_self, Option.getD_some]
        · rw [if_neg hk, addChild, OrderedMap.get_set_of_ne _ _ (Ne.symm hk)]
      rw [List.foldl_cons, ih, hadd]
      by_cases hk : parent = k
      · rw [if_pos hk, insert_insert, ite_self, if_pos (hk ▸ List.mem_cons_self)]
      · rw [if_neg hk]
        refine if_congr ?_ rfl rfl
        rw [List.mem_cons]
        exact (or_iff_right (Ne.symm hk)).symm

/-- The children of a node, in the order of the nodes. -/
theorem children_eq (hnodup : (graph.nodes.map graph.key).Nodup) :
    (graph.children.get k).getD [] =
      (graph.nodes.filter fun node => decide (k ∈ graph.parents node)).map graph.key := by
  have hfold : ∀ (nodes : List α) (children : OrderedMap κ (List κ)),
      (nodes.map graph.key).Nodup →
      (∀ node ∈ nodes, graph.key node ∉ (children.get k).getD []) →
      ((nodes.foldl (fun children node =>
        (graph.parents node).foldl (addChild (graph.key node)) children) children).get k).getD [] =
          (children.get k).getD [] ++
            (nodes.filter fun node => decide (k ∈ graph.parents node)).map graph.key := by
    intro nodes
    induction nodes with
    | nil => exact fun children _ _ => (List.append_nil _).symm
    | cons node rest ih =>
        intro children hnodup hfresh
        obtain ⟨hnode, hrest⟩ := List.nodup_cons.mp hnodup
        have hstep : (((graph.parents node).foldl (addChild (graph.key node)) children).get
            k).getD [] = (children.get k).getD [] ++
              ([node].filter fun node => decide (k ∈ graph.parents node)).map graph.key := by
          rw [getD_foldl_addChild, List.filter_singleton]
          by_cases hk : k ∈ graph.parents node
          · rw [if_pos hk, decide_eq_true hk, OrderedSet.insert,
              if_neg (hfresh node List.mem_cons_self)]
            rfl
          · rw [if_neg hk, decide_eq_false hk]
            exact (List.append_nil _).symm
        have hsplit : node :: rest = [node] ++ rest := rfl
        rw [List.foldl_cons, ih _ hrest, hstep, List.append_assoc, ← List.map_append,
          ← List.filter_append, hsplit]
        intro other hother hmem
        rw [hstep, List.mem_append] at hmem
        rcases hmem with hold | hnew
        · exact hfresh other (List.mem_cons_of_mem _ hother) hold
        · obtain ⟨found, hfound, heq⟩ := List.mem_map.mp hnew
          have hsame : found = node := List.mem_singleton.mp (List.mem_of_mem_filter hfound)
          exact hnode (List.mem_map.mpr ⟨other, hother, heq.symm.trans (hsame ▸ rfl)⟩)
  have hchildren := hfold graph.nodes ∅ hnodup fun node _ hmem => by
    rw [OrderedMap.get_empty, Option.getD_none] at hmem
    exact List.not_mem_nil hmem
  rw [OrderedMap.get_empty, Option.getD_none, List.nil_append] at hchildren
  exact hchildren

/-- The nodes that join the ready list after `current`. -/
def joining (graph : Graph α κ) (ordered : List α) (current : α) : List α :=
  graph.nodes.filter fun node =>
    decide (graph.key current ∈ graph.parents node ∧ (waiting graph ordered node).length - 1 = 0)

/-- **They join in the order of the nodes.** -/
theorem filterMap_released_eq (hwf : graph.WellFormed)
    (hinv : RoundInv graph ready inDegree ordered) (current : α) :
    ((graph.children.get (graph.key current)).getD []).filterMap (released graph inDegree) =
      joining graph ordered current := by
  have hguard : ∀ node ∈ graph.nodes, released graph inDegree (graph.key node) =
      Option.guard (fun node => decide ((waiting graph ordered node).length - 1 = 0)) node := by
    intro node hnode
    rw [released, hinv.degree_eq node hnode, (find?_key_eq_some_iff hwf).mpr ⟨hnode, rfl⟩]
    exact if_congr decide_eq_true_iff.symm rfl rfl
  rw [children_eq hwf.nodup_keys, List.filterMap_map, joining]
  calc (graph.nodes.filter fun node => decide (graph.key current ∈ graph.parents node)).filterMap
        (released graph inDegree ∘ graph.key)
      = (graph.nodes.filter fun node => decide (graph.key current ∈ graph.parents node)).filterMap
          (Option.guard fun node => decide ((waiting graph ordered node).length - 1 = 0)) :=
        List.filterMap_congr fun node hnode => hguard node (List.mem_of_mem_filter hnode)
    _ = (graph.nodes.filter fun node => decide (graph.key current ∈ graph.parents node)).filter
          fun node => decide ((waiting graph ordered node).length - 1 = 0) := by
        rw [List.filterMap_eq_filter]
    _ = _ := by
        rw [List.filter_filter]
        refine List.filter_congr fun node _ => ?_
        rw [Bool.decide_and, Bool.and_comm]

/-! ## A ready list and what comes of it -/

/-- The nodes of a ready list are emitted in the order in which they stand. -/
theorem Graph.Halts.exists_future [Std.TransCmp graph.cmp]
    (hhalts : graph.Halts ready inDegree ordered result)
    (hsorted : ready.Pairwise (Below graph.cmp)) :
    ∃ future, result = ordered ++ future ∧ ready.Sublist future := by
  induction hhalts with
  | done inDegree ordered => exact ⟨[], (List.append_nil _).symm, .slnil⟩
  | @round current ready ordered result inDegree rest ih =>
      obtain ⟨future, heq, hsub⟩ := ih (pairwise_sortBy _)
      obtain ⟨-, hrest⟩ := List.pairwise_cons.mp hsorted
      refine ⟨current :: future, ?_, ?_⟩
      · rw [heq, List.append_assoc, List.singleton_append]
      · have hready : ready.Sublist (((graph.children.get (graph.key current)).getD []).foldl
            graph.release (ready, inDegree)).1 := by
          rw [(foldl_release (nodup_children _) ready inDegree).1]
          exact List.sublist_append_left _ _
        exact ((List.sublist_insertionSort hrest hready).trans hsub).cons_cons current

/-- A ready list comes to one result. -/
theorem Graph.Halts.unique {result' : List α} (hleft : graph.Halts ready inDegree ordered result)
    (hright : graph.Halts ready inDegree ordered result') : result = result' := by
  induction hleft with
  | done inDegree ordered =>
      cases hright with
      | done => rfl
  | round rest ih =>
      cases hright with
      | round rest' => exact ih rest'

/-! ## The nodes in the order they came out in -/

/-- The graph with its nodes listed in order. -/
def Graph.again (graph : Graph α κ) : Graph α κ := { graph with nodes := graph.ordered }

variable [Std.TransCmp graph.cmp]

instance : Std.TransCmp graph.again.cmp := inferInstanceAs (Std.TransCmp graph.cmp)

theorem ordered_perm (hwf : graph.WellFormed) : graph.ordered.Perm graph.nodes :=
  (List.perm_ext_iff_of_nodup (causalOrder_ordered hwf).nodup hwf.nodup_keys.of_map).mpr
    fun _ => (causalOrder_ordered hwf).mem_iff

theorem wellFormed_again (hwf : graph.WellFormed) : graph.again.WellFormed where
  nodup_keys := ((ordered_perm hwf).map graph.key).nodup_iff.mpr hwf.nodup_keys
  nodup_parents node hnode := hwf.nodup_parents node ((ordered_perm hwf).mem_iff.mp hnode)
  parent_known node hnode p hp := ((ordered_perm hwf).map graph.key).mem_iff.mpr
    (hwf.parent_known node ((ordered_perm hwf).mem_iff.mp hnode) p hp)

/-- Sorting a sublist of the nodes together with `kept` comes to the same for both lists of
nodes, if what is sorted is emitted in that order. -/
theorem sort_again (hwf : graph.WellFormed) {kept : List α} (keep : α → Bool)
    (hsub : (sortBy graph.cmp (kept ++ graph.nodes.filter keep)).Sublist graph.ordered) :
    sortBy graph.cmp (kept ++ graph.ordered.filter keep) =
      sortBy graph.cmp (kept ++ graph.nodes.filter keep) := by
  have hnodup : graph.ordered.Nodup := (causalOrder_ordered hwf).nodup
  have hfilter : (graph.ordered.filter keep).Perm (graph.nodes.filter keep) :=
    (ordered_perm hwf).filter keep
  refine sortBy_eq_of_ties ((hfilter.append_left kept).trans (sortBy_perm _).symm)
    (hnodup.sublist hsub) (pairwise_sortBy _) fun a b htie hab => ?_
  have hbelow : Below graph.cmp a b := by
    rw [Below, htie]
    rfl
  have hstays : [a, b].Sublist (kept ++ graph.nodes.filter keep) →
      [a, b].Sublist (sortBy graph.cmp (kept ++ graph.nodes.filter keep)) :=
    List.pair_sublist_insertionSort hbelow
  obtain ⟨front, back, heq, hfront, hback⟩ := List.sublist_append_iff.mp hab
  match front, heq with
  | [], heq =>
      -- both join: they stand as they are emitted
      rw [List.nil_append] at heq
      have hpair : [a, b].Sublist graph.ordered := (heq ▸ hback).trans List.filter_sublist
      have hmem : ∀ c ∈ [a, b], c ∈ sortBy graph.cmp (kept ++ graph.nodes.filter keep) :=
        fun c hc => mem_sortBy.mpr (List.mem_append_right _
          (hfilter.mem_iff.mp (hback.subset (heq ▸ hc))))
      have hne : a ≠ b := by
        have htwo : [a, b].Nodup := hnodup.sublist hpair
        exact fun h => (List.nodup_cons.mp htwo).1 (h ▸ List.mem_cons_self)
      rcases pair_sublist_or (hmem a List.mem_cons_self)
        (hmem b (List.mem_cons_of_mem _ List.mem_cons_self)) hne with hkept | hswapped
      · exact hkept
      · exact absurd (hswapped.trans hsub) (not_pair_sublist_swap hnodup hpair)
  | [c], heq =>
      obtain ⟨rfl, hlast⟩ := List.cons.inj heq
      have hback : [b].Sublist (graph.ordered.filter keep) := hlast ▸ hback
      have hb : b ∈ graph.nodes.filter keep :=
        hfilter.mem_iff.mp (List.singleton_sublist.mp hback)
      exact hstays (hfront.append (List.singleton_sublist.mpr hb))
  | c :: d :: front, heq =>
      obtain ⟨rfl, htail⟩ := List.cons.inj heq
      obtain ⟨rfl, hnil⟩ := List.cons.inj htail
      obtain ⟨rfl, -⟩ := List.append_eq_nil_iff.mp hnil.symm
      exact hstays (hfront.trans (List.sublist_append_left _ _))

/-- **The ready lists are the same** in every round. -/
theorem readyAgain_eq (hwf : graph.WellFormed) {current : α}
    (hinv : RoundInv graph (current :: ready) inDegree ordered)
    (hinv' : RoundInv graph.again (current :: ready) inDegree' ordered)
    (hsub : (sortBy graph.cmp (ready ++ joining graph ordered current)).Sublist graph.ordered) :
    sortBy graph.cmp (((graph.again.children.get (graph.key current)).getD []).foldl
        graph.again.release (ready, inDegree')).1 =
      sortBy graph.cmp (((graph.children.get (graph.key current)).getD []).foldl
        graph.release (ready, inDegree)).1 := by
  have hchildren : ((graph.again.children.get (graph.key current)).getD []).filterMap
      (released graph.again inDegree') = joining graph.again ordered current :=
    filterMap_released_eq (wellFormed_again hwf) hinv' current
  rw [(foldl_release (nodup_children _) ready inDegree).1, filterMap_released_eq hwf hinv,
    (foldl_release (nodup_children _) ready inDegree').1, hchildren]
  exact sort_again hwf _ hsub

theorem halts_again (hwf : graph.WellFormed)
    (hhalts : graph.Halts ready inDegree ordered result)
    (hinv : RoundInv graph ready inDegree ordered)
    (hinv' : RoundInv graph.again ready inDegree' ordered)
    (hway : result.Sublist graph.ordered) :
    graph.again.Halts ready inDegree' ordered result := by
  induction hhalts generalizing inDegree' with
  | done inDegree ordered => exact .done inDegree' ordered
  | @round current ready ordered result inDegree rest ih =>
      have hround := hinv.round hwf
      have hround' := hinv'.round (wellFormed_again hwf)
      have hsub : (sortBy graph.cmp (ready ++ joining graph ordered current)).Sublist
          graph.ordered := by
        obtain ⟨future, heq, hfuture⟩ := rest.exists_future (pairwise_sortBy _)
        rw [(foldl_release (nodup_children _) ready inDegree).1,
          filterMap_released_eq hwf hinv] at hfuture
        exact (hfuture.trans (heq ▸ List.sublist_append_right _ _)).trans hway
      have hready := readyAgain_eq hwf hinv hinv' hsub
      apply Graph.Halts.round
      have hagain := @ih _ hround (hready ▸ hround') hway
      rw [← hready] at hagain
      exact hagain

/-- **Ordering again gives the same list.** -/
theorem ordered_again (hwf : graph.WellFormed) : graph.again.ordered = graph.ordered := by
  have hway : graph.kahn.Sublist graph.ordered := List.sublist_append_left _ _
  have hready : graph.again.initialReady = graph.initialReady := by
    let roots : α → Bool := fun node => decide ((graph.parents node).length = 0)
    have hroots : ∀ {graph' : Graph α κ}, graph'.WellFormed → graph'.parents = graph.parents →
        (graph'.nodes.filter fun node =>
          decide ((graph'.inDegree.get (graph'.key node)).getD 0 = 0)) =
            graph'.nodes.filter roots := by
      intro graph' hwf' hsame
      refine List.filter_congr fun node hnode => ?_
      rw [get_inDegree hwf' hnode, Option.getD_some, hsame]
    obtain ⟨future, heq, hsub⟩ := (halts_kahn hwf).exists_future (pairwise_sortBy _)
    have hfuture : graph.initialReady.Sublist graph.ordered := by
      rw [heq, List.nil_append] at hway
      exact hsub.trans hway
    unfold Graph.initialReady at hfuture ⊢
    rw [hroots hwf rfl] at hfuture ⊢
    rw [hroots (wellFormed_again hwf) rfl]
    exact @sort_again _ _ _ _ _ hwf [] roots hfuture
  have hinv' := roundInv_initial (wellFormed_again hwf)
  have hkahn : graph.again.kahn = graph.kahn := by
    refine (halts_kahn (wellFormed_again hwf)).unique ?_
    rw [hready] at hinv' ⊢
    exact halts_again hwf (halts_kahn hwf) (roundInv_initial hwf) hinv' hway
  have hrest : sortBy graph.cmp (graph.ordered.filter fun node =>
      decide (graph.key node ∉ graph.kahn.map graph.key)) =
        sortBy graph.cmp (graph.nodes.filter fun node =>
          decide (graph.key node ∉ graph.kahn.map graph.key)) :=
    @sort_again _ _ _ _ _ hwf [] _ (List.sublist_append_right _ _)
  show graph.again.kahn ++ sortBy graph.cmp (graph.ordered.filter fun node =>
    decide (graph.key node ∉ graph.again.kahn.map graph.key)) = graph.ordered
  rw [hkahn, hrest]
  rfl

/-- Without parents the order is the sort. -/
theorem ordered_of_roots (hwf : graph.WellFormed)
    (hroots : ∀ node ∈ graph.nodes, graph.parents node = []) :
    graph.ordered = sortBy graph.cmp graph.nodes := by
  have hready : graph.initialReady = sortBy graph.cmp graph.nodes := by
    refine congrArg (sortBy graph.cmp) (List.filter_eq_self.mpr fun node hnode => ?_)
    rw [get_inDegree hwf hnode, hroots node hnode]
    rfl
  obtain ⟨future, heq, hsub⟩ := (halts_kahn hwf).exists_future (pairwise_sortBy _)
  rw [List.nil_append] at heq
  have hready : (sortBy graph.cmp graph.nodes).Sublist graph.ordered := by
    rw [← hready]
    exact (heq ▸ hsub).trans (List.sublist_append_left graph.kahn _)
  refine (hready.eq_of_length ?_).symm
  rw [length_sortBy, (ordered_perm hwf).length_eq]

end Kahn

import OpenClaw.Desktop.MessageOrder
import OpenClaw.Lib.ForcedOrder

/-!
# When a reconciliation leaves a channel in its order

A reconciliation sorts the ready messages, the messages on or below a cycle, and in the end
the whole channel, by comparators that need not be orders.  `InForcedOrder` says of a stored
channel that none of this leaves a choice, and that the messages stand as they have to.

`stable_iff` says that a reconciliation leaves exactly these channels in their order,
whatever the hash maps and the sort do.  One way, every sort of the worklist is asked for an
order and puts the next message first.  The other way, a sort that turns what it cannot sort
would put another message first, or end with the messages in another order.
-/

namespace OpenClaw.Desktop

open OpenClaw.Runtime StableSort Kahn

variable {iter : IterOrder} {sorter : SortAlgorithm}
  {messages ready ordered : List PairBackendMessage}
  {left right message : PairBackendMessage} {inDegree : OrderedMap String ℕ} {fuel : ℕ}

/-- The messages stand in the order of a list of the chat messages that the comparators
force: the list is the forced causal order of the parents they name, and the final sort by
its positions is by an order. -/
def InForcedOrder (messages : List PairBackendMessage) : Prop :=
  ∃ ordered : List PairBackendMessage,
    ForcedOrder (· ∈ (messageById messages).values) (ChannelParent messages)
        comparePairMessageOrder ordered ∧
      ClearOf (ordered.map PairBackendMessage.id) messages ∧
        messages.Pairwise (Below (compareByIndex (ordered.map PairBackendMessage.id)))

/-- The graph of the channel, in which everything is in order. -/
abbrev anyGraph (iter : IterOrder) (messages : List PairBackendMessage) :
    Kahn.Graph PairBackendMessage String := channelGraph ⟨iter, .insertion⟩ anyOrder messages

/-- The emissions of the worklist that the comparator forces. -/
abbrev ForcedWorklist (iter : IterOrder) (messages ordered : List PairBackendMessage) : Prop :=
  ForcedEmission (anyGraph iter messages).Node (anyGraph iter messages).Parent
    comparePairMessageOrder ordered

/-- What the worklist sorts by. -/
abbrev worklistComparator : Σ α : Type, α → α → Ordering :=
  ⟨PairBackendMessage, comparePairMessageOrder⟩

/-- What the final sort sorts by. -/
abbrev finalComparator (ids : List String) : Σ α : Type, α → α → Ordering :=
  ⟨PairBackendMessage, compareByIndex ids⟩

theorem eq_of_id_eq (hleft : left ∈ (messageById messages).values)
    (hright : right ∈ (messageById messages).values) (hid : left.id = right.id) : left = right :=
  List.inj_on_of_nodup_map (nodup_ids_values messages) hleft hright hid

theorem comparePairMessageOrder_self (message : PairBackendMessage) :
    comparePairMessageOrder message message = .eq := Std.ReflCmp.compare_self

/-! ## A forced order comes out -/

theorem concat_append (before after : List PairBackendMessage) :
    before ++ message :: after = (before ++ [message]) ++ after := by
  rw [List.append_assoc, List.singleton_append]

/-- The loop emits what is forced. -/
theorem orderLoop_of_forced (hwf : (anyGraph iter messages).WellFormed)
    {todo : List PairBackendMessage} (hforced : ForcedWorklist iter messages (ordered ++ todo))
    (hcomplete : Complete (anyGraph iter messages).Node (anyGraph iter messages).Parent
      (ordered ++ todo))
    (hinv : RoundInv (anyGraph iter messages) ready inDegree ordered)
    (hsorted : ready.Pairwise (Below comparePairMessageOrder))
    (hfuel : (walked ⟨iter, .insertion⟩ messages).length ≤ ordered.length + fuel) :
    orderLoop ⟨iter, sorter⟩ (messageById messages) (anyGraph iter messages).children fuel ready
        inDegree (ordered.map PairBackendMessage.id) =
      (ordered ++ todo).map PairBackendMessage.id := by
  induction fuel generalizing ready ordered inDegree todo with
  | zero =>
      obtain rfl := hforced.eq_of_complete (hinv.complete_of_length hfuel)
      rw [orderLoop, List.append_nil]
  | succ fuel ih =>
      cases ready with
      | nil =>
          have hend : Complete (anyGraph iter messages).Node
              (anyGraph iter messages).Parent ordered := fun node hnode =>
            List.not_mem_nil ((hinv.mem_ready node).mpr hnode)
          obtain rfl := hforced.eq_of_complete hend
          rw [orderLoop, List.append_nil]
      | cons current ready =>
          cases todo with
          | nil =>
              rw [List.append_nil] at hcomplete
              exact absurd ((hinv.mem_ready current).mp List.mem_cons_self) (hcomplete current)
          | cons next todo =>
              obtain rfl : current = next := by
                refine hforced.eq_next (fun a b ha hb heq => ?_) hinv.mem_ready hsorted
                exact eq_of_id_eq (mem_walked.mp ha) (mem_walked.mp hb) (id_of_comparePair_eq heq)
              have hround := hinv.round hwf
              have hconcat : ordered.map PairBackendMessage.id ++ [current.id] =
                  (ordered ++ [current]).map PairBackendMessage.id := by
                rw [List.map_append, List.map_singleton]
              have hfuel' : (walked ⟨iter, .insertion⟩ messages).length ≤
                  (ordered ++ [current]).length + fuel := by
                rw [List.length_append, List.length_singleton]
                omega
              rw [concat_append] at hforced hcomplete ⊢
              rw [orderLoop, releaseChild_eq_release hwf, hconcat]
              cases hchildren : (anyGraph iter messages).children.get current.id with
              | none =>
                  have hsame : (anyGraph iter messages).children.get
                      ((anyGraph iter messages).key current) = none := hchildren
                  rw [hsame, Option.getD_none, List.foldl_nil] at hround
                  exact ih hforced hcomplete
                    (hround.perm (sortBy_perm _).symm (pairwise_anyOrder _))
                    (List.pairwise_cons.mp hsorted).2 hfuel'
              | some childIds =>
                  have hsame : (anyGraph iter messages).children.get
                      ((anyGraph iter messages).key current) = some childIds := hchildren
                  rw [hsame, Option.getD_some] at hround
                  have hnext := hround.perm ((sorter.perm comparePairMessageOrder _).trans
                    (sortBy_perm _).symm) (pairwise_anyOrder _)
                  refine ih hforced hcomplete hnext ?_ hfuel'
                  -- what is available is sorted by an order
                  have htrans := hforced.transitive (ordered ++ [current])
                    (List.prefix_append _ _)
                  have horder := orderOn_iff_transAmong.mpr (htrans.mono fun node hnode =>
                    (hnext.mem_ready node).mp ((sorter.mem_sort).mpr hnode))
                  rw [sorter.stable _ _ horder]
                  exact horder.pairwise_sortBy

/-- The messages that wait for none at the start. -/
def roots (iter : IterOrder) (messages : List PairBackendMessage) : List PairBackendMessage :=
  (walked ⟨iter, .insertion⟩ messages).filter fun message =>
    decide (((anyGraph iter messages).inDegree.get message.id).getD 0 = 0)

/-- The messages that are not among the ids. -/
def leftOver (iter : IterOrder) (messages : List PairBackendMessage) (ids : List String) :
    List PairBackendMessage :=
  (walked ⟨iter, .insertion⟩ messages).filter fun message => decide (message.id ∉ ids)

theorem mem_values_of_mem_roots (hmem : message ∈ roots iter messages) :
    message ∈ (messageById messages).values := mem_walked.mp (List.mem_of_mem_filter hmem)

theorem mem_values_of_mem_leftOver {ids : List String}
    (hmem : message ∈ leftOver iter messages ids) :
    message ∈ (messageById messages).values := mem_walked.mp (List.mem_of_mem_filter hmem)

theorem nodup_roots (hwf : (anyGraph iter messages).WellFormed) : (roots iter messages).Nodup :=
  (List.Nodup.of_map _ hwf.nodup_keys).filter _

theorem nodup_leftOver (hwf : (anyGraph iter messages).WellFormed) (ids : List String) :
    (leftOver iter messages ids).Nodup := (List.Nodup.of_map _ hwf.nodup_keys).filter _

theorem roundInv_sorted (hwf : (anyGraph iter messages).WellFormed) (sorter : SortAlgorithm) :
    RoundInv (anyGraph iter messages)
      (sorter.sort comparePairMessageOrder (roots iter messages))
      (anyGraph iter messages).inDegree [] := by
  refine (roundInv_initial hwf).perm ?_ (pairwise_anyOrder _)
  exact (sorter.perm _ _).trans (sortBy_perm _).symm

/-- The worklist with the tables of the graph. -/
def worklist (iter : IterOrder) (sorter : SortAlgorithm) (messages : List PairBackendMessage) :
    List String :=
  orderLoop ⟨iter, sorter⟩ (messageById messages) (anyGraph iter messages).children
    (walked ⟨iter, .insertion⟩ messages).length
    (sorter.sort comparePairMessageOrder (roots iter messages)) (anyGraph iter messages).inDegree []

theorem orderedIds_eq_worklist (hwf : (anyGraph iter messages).WellFormed)
    (sorter : SortAlgorithm) :
    orderedIds ⟨iter, sorter⟩ messages = worklist iter sorter messages ++
      (sorter.sort comparePairMessageOrder
        (leftOver iter messages (worklist iter sorter messages))).map PairBackendMessage.id := by
  have hwalked : (iter.order (messageById messages).entries).map Prod.snd =
      walked ⟨iter, .insertion⟩ messages := rfl
  unfold orderedIds
  dsimp only
  rw [hwalked, foldl_linkMessage hwf]
  rfl

/-- **A forced order comes out** of the worklist. -/
theorem orderedIds_of_forced (choices : Choices)
    (hafter : ∀ message ∈ messages, message.after.Nodup)
    (hforced : ForcedOrder (· ∈ (messageById messages).values) (ChannelParent messages)
      comparePairMessageOrder ordered) :
    orderedIds choices messages = ordered.map PairBackendMessage.id := by
  obtain ⟨iter, sorter⟩ := choices
  have hwf : (anyGraph iter messages).WellFormed := wellFormed_channelGraph hafter
  obtain ⟨emitted, rest, rfl, hemitted, hcomplete, hrest, hmem, hsorted, htrans⟩ :=
    (hforced.congr (fun message => (@mem_walked ⟨iter, .insertion⟩ messages message).symm)
      fun p a => (@parent_channelGraph ⟨iter, .insertion⟩ messages anyOrder p a).symm).split
  have hinv := roundInv_sorted hwf sorter
  have hready := orderOn_iff_transAmong.mpr ((hemitted.transitive [] List.nil_prefix).mono
    fun node hnode => (hinv.mem_ready node).mp ((sorter.mem_sort).mpr hnode))
  have hwhole : ForcedWorklist iter messages ([] ++ emitted) := hemitted
  have hloop : worklist iter sorter messages = emitted.map PairBackendMessage.id := by
    refine orderLoop_of_forced hwf hwhole hcomplete hinv ?_ (Nat.le_add_left _ _)
    rw [sorter.stable _ _ hready]
    exact hready.pairwise_sortBy
  have hleft : ∀ node, node ∈ leftOver iter messages (emitted.map PairBackendMessage.id) ↔
      node ∈ rest := fun node =>
    (mem_leftover_iff hwf fun _ ha => hemitted.emission.node_of_mem ha).trans (hmem node).symm
  have hlinear : LinearOn comparePairMessageOrder
      (leftOver iter messages (emitted.map PairBackendMessage.id)) := by
    refine ⟨orderOn_iff_transAmong.mpr (htrans.mono fun a ha => (hleft a).mp ha), ?_⟩
    intro a ha b hb heq
    exact eq_of_id_eq (mem_values_of_mem_leftOver ha) (mem_values_of_mem_leftOver hb)
      (id_of_comparePair_eq heq)
  have hperm : (leftOver iter messages (emitted.map PairBackendMessage.id)).Perm rest :=
    (List.perm_ext_iff_of_nodup (nodup_leftOver hwf _) hrest).mpr hleft
  rw [orderedIds_eq_worklist hwf, hloop, sorter.stable _ _ hlinear.toOrderOn,
    hlinear.sortBy_eq hperm, sortBy_eq_self hsorted, List.map_append]

/-! ## What comes out is forced -/

theorem prefix_orderLoop (byId : OrderedMap String PairBackendMessage)
    (children : OrderedMap String (List String)) (fuel : ℕ) (ready : List PairBackendMessage)
    (inDegree : OrderedMap String ℕ) (ids : List String) :
    ids <+: orderLoop ⟨iter, sorter⟩ byId children fuel ready inDegree ids := by
  induction fuel generalizing ready inDegree ids with
  | zero =>
      rw [orderLoop]
  | succ fuel ih =>
      cases ready with
      | nil => rw [orderLoop]
      | cons current ready =>
          rw [orderLoop]
          split
          · exact (List.prefix_append _ _).trans (ih _ _ _)
          · exact (List.prefix_append _ _).trans (ih _ _ _)

/-- The first of the ready messages is the next one. -/
theorem concat_prefix_orderLoop (byId : OrderedMap String PairBackendMessage)
    (children : OrderedMap String (List String)) (current : PairBackendMessage)
    (ids : List String) :
    ids ++ [current.id] <+:
      orderLoop ⟨iter, sorter⟩ byId children (fuel + 1) (current :: ready) inDegree ids := by
  rw [orderLoop]
  split
  · exact prefix_orderLoop _ _ _ _ _ _
  · exact prefix_orderLoop _ _ _ _ _ _

section Turned

variable {iter : IterOrder} {turns : (Σ α : Type, α → α → Ordering) → Prop}

/-- The two first messages of a list that is not in order, as a sort that turns has them. -/
theorem exists_turned (hturns : turns worklistComparator)
    (hnodup : ready.Nodup) (hnodes : ∀ node ∈ ready, node ∈ (messageById messages).values)
    (hnot : ¬OrderOn comparePairMessageOrder ready) :
    ∃ first second rest, sortBy comparePairMessageOrder ready = first :: second :: rest ∧
      (SortAlgorithm.turned turns).sort comparePairMessageOrder ready =
        second :: (rest ++ [first]) ∧ first.id ≠ second.id := by
  obtain ⟨first, second, rest, hlist, hne⟩ := SortAlgorithm.exists_heads_of_not_orderOn hnodup
    (fun message _ => comparePairMessageOrder_self message) hnot
  refine ⟨first, second, rest, hlist, ?_, fun hid => hne ?_⟩
  · rw [SortAlgorithm.sort_turned_of_not_orderOn hnot hturns, hlist, List.rotate_cons_succ,
      List.rotate_zero, List.cons_append]
  · have hmem : ∀ node ∈ first :: second :: rest, node ∈ (messageById messages).values :=
      fun node hnode => hnodes node (mem_sortBy.mp (hlist ▸ hnode))
    exact eq_of_id_eq (hmem first (by simp)) (hmem second (by simp)) hid

/-- If turning the ready messages does not show in what comes out, they are in order. -/
theorem orderOn_of_orderLoop_eq {byId : OrderedMap String PairBackendMessage}
    {children : OrderedMap String (List String)} {ids : List String}
    (hturns : turns worklistComparator) (hnodup : ready.Nodup)
    (hnodes : ∀ node ∈ ready, node ∈ (messageById messages).values)
    (hfuel : ready ≠ [] → 0 < fuel)
    (hagree : orderLoop ⟨iter, .turned turns⟩ byId children fuel
        ((SortAlgorithm.turned turns).sort comparePairMessageOrder ready) inDegree ids =
      orderLoop ⟨iter, .insertion⟩ byId children fuel (sortBy comparePairMessageOrder ready)
        inDegree ids) : OrderOn comparePairMessageOrder ready := by
  by_contra hnot
  obtain ⟨first, second, rest, hlist, hturned, hne⟩ := exists_turned hturns hnodup hnodes hnot
  have hready : ready ≠ [] := by
    rintro rfl
    cases hlist
  obtain ⟨rounds, rfl⟩ := Nat.exists_eq_succ_of_ne_zero (hfuel hready).ne'
  rw [hturned, hlist] at hagree
  have hsecond := @concat_prefix_orderLoop iter (.turned turns) (rest ++ [first])
    inDegree rounds byId children second ids
  have hfirst := @concat_prefix_orderLoop iter .insertion (second :: rest) inDegree
    rounds byId children first ids
  rw [hagree] at hsecond
  have hsame : ids ++ [second.id] = ids ++ [first.id] :=
    (List.prefix_of_prefix_length_le hsecond hfirst (by simp)).eq_of_length (by simp)
  have hid : second.id = first.id := by simpa using hsame
  exact hne hid.symm

/-- The loop of a sort that turns emits the same only if all it emits is forced. -/
theorem forced_of_orderLoop_eq
    (hturns : turns worklistComparator)
    (hwf : (anyGraph iter messages).WellFormed)
    (hforced : ForcedWorklist iter messages ordered)
    (hinv : RoundInv (anyGraph iter messages) ready inDegree ordered)
    (hsorted : ready.Pairwise (Below comparePairMessageOrder))
    (hfuel : (walked ⟨iter, .insertion⟩ messages).length ≤ ordered.length + fuel)
    (hagree : orderLoop ⟨iter, .turned turns⟩ (messageById messages)
        (anyGraph iter messages).children fuel ready inDegree
        (ordered.map PairBackendMessage.id) =
      orderLoop ⟨iter, .insertion⟩ (messageById messages)
        (anyGraph iter messages).children fuel ready inDegree
        (ordered.map PairBackendMessage.id)) :
    ∃ emitted : List PairBackendMessage,
      orderLoop ⟨iter, .insertion⟩ (messageById messages)
          (anyGraph iter messages).children fuel ready inDegree
          (ordered.map PairBackendMessage.id) = emitted.map PairBackendMessage.id ∧
        ForcedWorklist iter messages emitted ∧
          Complete (anyGraph iter messages).Node
            (anyGraph iter messages).Parent emitted := by
  induction fuel generalizing ready ordered inDegree with
  | zero =>
      rw [orderLoop]
      exact ⟨ordered, rfl, hforced, hinv.complete_of_length hfuel⟩
  | succ fuel ih =>
      cases ready with
      | nil =>
          rw [orderLoop]
          refine ⟨ordered, rfl, hforced, fun node hnode => ?_⟩
          exact List.not_mem_nil ((hinv.mem_ready node).mpr hnode)
      | cons current ready =>
          have havailable := (hinv.mem_ready current).mp List.mem_cons_self
          obtain ⟨hleast, hrest⟩ := List.pairwise_cons.mp hsorted
          have hnext : ∀ node, Available (anyGraph iter messages).Node
              (anyGraph iter messages).Parent ordered node →
                Below comparePairMessageOrder current node := by
            intro node hnode
            rcases List.mem_cons.mp ((hinv.mem_ready node).mpr hnode) with rfl | hlater
            · rw [Below, comparePairMessageOrder_self]
              rfl
            · exact hleast node hlater
          have hround := hinv.round hwf
          have hconcat : ordered.map PairBackendMessage.id ++ [current.id] =
              (ordered ++ [current]).map PairBackendMessage.id := by
            rw [List.map_append, List.map_singleton]
          have hfuel' : (walked ⟨iter, .insertion⟩ messages).length ≤
              (ordered ++ [current]).length + fuel := by
            rw [List.length_append, List.length_singleton]
            omega
          have hrelease : releaseChild (messageById messages) =
              (anyGraph iter messages).release := releaseChild_eq_release hwf
          rw [orderLoop, orderLoop, hrelease, hconcat] at hagree
          rw [orderLoop, hrelease, hconcat]
          cases hchildren : (anyGraph iter messages).children.get current.id with
          | none =>
              rw [hchildren] at hagree
              have hsame : (anyGraph iter messages).children.get
                  ((anyGraph iter messages).key current) = none := hchildren
              rw [hsame, Option.getD_none, List.foldl_nil] at hround
              have hkept := hround.perm (sortBy_perm _).symm (pairwise_anyOrder _)
              -- what was in order stays so without its first message
              have htrans := (hforced.transitive ordered List.prefix_rfl).mono
                fun node hnode => (hinv.mem_ready node).mp
                  (List.mem_cons_of_mem current ((hkept.mem_ready node).mpr hnode))
              exact ih (hforced.snoc havailable hnext htrans) hkept hrest hfuel' hagree
          | some childIds =>
              rw [hchildren] at hagree
              have hsame : (anyGraph iter messages).children.get
                  ((anyGraph iter messages).key current) = some childIds := hchildren
              rw [hsame, Option.getD_some] at hround
              have hlist := hround.perm (sortBy_perm _).symm (pairwise_anyOrder _)
              have horder : OrderOn comparePairMessageOrder _ :=
                orderOn_of_orderLoop_eq hturns hlist.nodup_ready (fun node hnode =>
                  mem_walked.mp ((hlist.mem_ready node).mp hnode).1) (fun hready => ?_) hagree
              · have hforced' := hforced.snoc havailable hnext
                  ((orderOn_iff_transAmong.mp horder).mono fun node hnode =>
                    (hlist.mem_ready node).mpr hnode)
                dsimp only at hagree
                rw [(SortAlgorithm.turned turns).stable _ _ horder] at hagree
                exact ih hforced' (hlist.perm (sortBy_perm _) (pairwise_anyOrder _))
                  horder.pairwise_sortBy hfuel' hagree
              · -- a message is ready, so the loop is not at its end
                obtain ⟨node, hnode⟩ := List.exists_mem_of_ne_nil _ hready
                by_contra hnone
                obtain rfl : fuel = 0 := by omega
                exact hround.complete_of_length hfuel' node ((hlist.mem_ready node).mp hnode)

/-- Two complete emissions of one graph are as long as each other. -/
theorem length_eq_of_complete {node : PairBackendMessage → Prop}
    {parent : PairBackendMessage → PairBackendMessage → Prop}
    {cmp cmp' : PairBackendMessage → PairBackendMessage → Ordering}
    {emitted emitted' : List PairBackendMessage} (hknown : ∀ p a, parent p a → node p)
    (hemission : Emission node parent cmp emitted) (hcomplete : Complete node parent emitted)
    (hemission' : Emission node parent cmp' emitted')
    (hcomplete' : Complete node parent emitted') : emitted.length = emitted'.length := by
  refine ((List.perm_ext_iff_of_nodup hemission.nodup hemission'.nodup).mpr fun a => ?_).length_eq
  rw [hemission.complete_mem_iff hcomplete hknown, hemission'.complete_mem_iff hcomplete' hknown]

/-- **What comes out is forced**, if turning does not show in it. -/
theorem forcedOrder_of_orderedIds_eq (hafter : ∀ message ∈ messages, message.after.Nodup)
    (hturns : turns worklistComparator)
    (hagree : orderedIds ⟨iter, .turned turns⟩ messages = orderedIds ⟨iter, .insertion⟩ messages) :
    ∃ ordered : List PairBackendMessage,
      orderedIds ⟨iter, .insertion⟩ messages = ordered.map PairBackendMessage.id ∧
        ForcedOrder (· ∈ (messageById messages).values) (ChannelParent messages)
          comparePairMessageOrder ordered := by
  have hwf : (anyGraph iter messages).WellFormed := wellFormed_channelGraph hafter
  rw [orderedIds_eq_worklist hwf, orderedIds_eq_worklist hwf] at hagree
  -- the two worklists emit as much, so they emit the same and leave over the same
  obtain ⟨emitted, hemitted, hemission, hcomplete⟩ := @emission_orderLoop ⟨iter, .insertion⟩
    messages hwf _ _ _ _ (roundInv_sorted hwf .insertion) (Nat.le_add_left _ _)
  obtain ⟨emitted', hemitted', hemission', hcomplete'⟩ := @emission_orderLoop
    ⟨iter, .turned turns⟩ messages hwf _ _ _ _ (roundInv_sorted hwf (.turned turns))
    (Nat.le_add_left _ _)
  have hplain : worklist iter .insertion messages = emitted.map PairBackendMessage.id := hemitted
  have hturned : worklist iter (.turned turns) messages = emitted'.map PairBackendMessage.id :=
    hemitted'
  obtain ⟨hloops, hrests⟩ := List.append_inj hagree (by
    rw [hplain, hturned, List.length_map, List.length_map]
    exact length_eq_of_complete (fun _ _ hparent => hparent.1) hemission' hcomplete' hemission
      hcomplete)
  rw [hloops] at hrests
  have hready := roundInv_sorted hwf .insertion
  have hroots : OrderOn comparePairMessageOrder (roots iter messages) := by
    refine orderOn_of_orderLoop_eq hturns (nodup_roots hwf)
      (fun node hnode => mem_values_of_mem_roots hnode) (fun hsome => ?_) hloops
    exact List.length_pos_of_ne_nil fun hnone => hsome (by rw [roots, hnone]; rfl)
  have hnil : ForcedWorklist iter messages [] :=
    .nil ((orderOn_iff_transAmong.mp hroots).mono fun node hnode =>
      mem_sortBy.mp ((hready.mem_ready node).mpr hnode))
  rw [worklist, worklist, (SortAlgorithm.turned turns).stable _ _ hroots] at hloops
  obtain ⟨forced, hloop, hforced, hall⟩ := forced_of_orderLoop_eq hturns hwf hnil hready
    hroots.pairwise_sortBy (Nat.le_add_left _ _) hloops
  have hemit : worklist iter .insertion messages = forced.map PairBackendMessage.id := hloop
  rw [hemit] at hrests
  have hrest : OrderOn comparePairMessageOrder
      (leftOver iter messages (forced.map PairBackendMessage.id)) := by
    by_contra hnot
    obtain ⟨first, second, rest, hlist, hsecond, hne⟩ := exists_turned hturns
      (nodup_leftOver hwf _) (fun node hnode => mem_values_of_mem_leftOver hnode) hnot
    have hfirst : SortAlgorithm.insertion.sort comparePairMessageOrder
        (leftOver iter messages (forced.map PairBackendMessage.id)) = first :: second :: rest :=
      hlist
    rw [hfirst, hsecond] at hrests
    exact hne (List.cons.inj hrests).1.symm
  refine ⟨forced ++ sortBy comparePairMessageOrder
    (leftOver iter messages (forced.map PairBackendMessage.id)), ?_, ?_⟩
  · rw [orderedIds_eq_worklist hwf, hemit, List.map_append]
    rfl
  · refine ForcedOrder.congr ⟨_, _, rfl, hforced, hall, nodup_sortBy (nodup_leftOver hwf _),
      fun node => ?_, hrest.pairwise_sortBy, ?_⟩ (fun _ => mem_walked) parent_channelGraph
    · rw [mem_sortBy]
      exact mem_leftover_iff hwf fun _ ha => hforced.emission.node_of_mem ha
    · exact (orderOn_iff_transAmong.mp hrest).mono fun node hnode => mem_sortBy.mp hnode

/-! ## The final sort -/

/-- The worklist sorts by one comparator only. -/
theorem orderedIds_congr {other : SortAlgorithm}
    (hsame : ∀ list, sorter.sort comparePairMessageOrder list =
      other.sort comparePairMessageOrder list) :
    orderedIds ⟨iter, sorter⟩ messages = orderedIds ⟨iter, other⟩ messages := by
  have hloop : ∀ (byId : OrderedMap String PairBackendMessage)
      (children : OrderedMap String (List String)) (fuel : ℕ) (ready : List PairBackendMessage)
      (inDegree : OrderedMap String ℕ) (ids : List String),
      orderLoop ⟨iter, sorter⟩ byId children fuel ready inDegree ids =
        orderLoop ⟨iter, other⟩ byId children fuel ready inDegree ids := by
    intro byId children fuel
    induction fuel with
    | zero => exact fun _ _ _ => rfl
    | succ fuel ih =>
        intro ready inDegree ids
        cases ready with
        | nil => rfl
        | cons current ready =>
            rw [orderLoop, orderLoop]
            split
            · dsimp only
              rw [hsame]
              exact ih _ _ _
            · exact ih _ _ _
  unfold orderedIds
  dsimp only
  rw [hsame, hloop, hsame]

theorem graphOrder_turned_congr {turns' : (Σ α : Type, α → α → Ordering) → Prop}
    (hsame : turns worklistComparator ↔
      turns' worklistComparator) :
    graphOrder ⟨iter, .turned turns⟩ messages = graphOrder ⟨iter, .turned turns'⟩ messages :=
  orderedIds_congr (SortAlgorithm.sort_turned_congr hsame)

/-- The ids of the worklist are those of the messages by id, once each. -/
theorem orderedIds_perm (choices : Choices) (hafter : ∀ message ∈ messages, message.after.Nodup) :
    (orderedIds choices messages).Perm
      ((messageById messages).values.map PairBackendMessage.id) := by
  obtain ⟨ordered, heq, hcausal⟩ := topological_orderedIds choices hafter
  rw [heq]
  exact ((List.perm_ext_iff_of_nodup hcausal.nodup (nodup_ids_values messages).of_map).mpr
    fun _ => hcausal.mem_iff).map _

/-- The comparator of the final sort is another one than that of the worklist, unless the
worklist has nothing to sort. -/
theorem eq_nil_of_compareByIndex_eq {ids : List String}
    (hsame : compareByIndex ids = comparePairMessageOrder) : ids = [] := by
  cases ids with
  | nil => rfl
  | cons id rest =>
      let early : PairBackendMessage := { (default : PairBackendMessage) with id := id, ts := 0 }
      let late : PairBackendMessage := { (default : PairBackendMessage) with id := id, ts := 1 }
      have hindex : compareByIndex (id :: rest) early late = .eq := by
        simp [compareByIndex, early, late, List.idxOf?_cons]
      rw [hsame] at hindex
      have htime : early.ts = late.ts := by
        unfold comparePairMessageOrder at hindex
        split at hindex
        · next h => exact absurd (Nat.compare_eq_eq.mp hindex) h.2.2
        · exact (compareTime_eq_iff.mp hindex).1
      cases htime

end Turned

/-- A reconciliation leaves the messages in their order, whatever the runtime
chooses. -/
def Stable (messages : List PairBackendMessage) : Prop :=
  ∀ choices, (reconcileChannelMessages choices messages).messages = messages

variable {turns : (Σ α : Type, α → α → Ordering) → Prop}

/-- **The final sort is by an order** in a channel that stays as it is: a sort that turns
there, and only there, would end with another list. -/
theorem Stable.orderOn (hstable : Stable messages)
    (turns : (Σ α : Type, α → α → Ordering) → Prop) :
    OrderOn (compareByIndex (graphOrder ⟨iter, .turned turns⟩ messages))
      (markedMessages messages) := by
  let ids := graphOrder ⟨iter, .turned turns⟩ messages
  have hturned : ∀ yes no : (Σ α : Type, α → α → Ordering) → Prop,
      graphOrder ⟨iter, .turned yes⟩ messages = ids →
        graphOrder ⟨iter, .turned no⟩ messages = ids → yes (finalComparator ids) →
          ¬no (finalComparator ids) → OrderOn (compareByIndex ids) (markedMessages messages) := by
    intro yes no hyes hno hfinal hnot
    have hleft := hstable ⟨iter, .turned yes⟩
    have hright := hstable ⟨iter, .turned no⟩
    rw [messages_reconcile, hyes] at hleft
    rw [messages_reconcile, hno] at hright
    refine SortAlgorithm.orderOn_of_sort_turned (fun _ _ => compareByIndex_self _) hfinal ?_
    exact (hleft.trans hright.symm).trans (SortAlgorithm.sort_turned_of_not hnot)
  by_cases hsame : finalComparator ids = worklistComparator
  · -- then there is nothing for the worklist
    have hcmp : compareByIndex ids = comparePairMessageOrder :=
      eq_of_heq (Sigma.mk.inj hsame).2
    have hempty : ids = [] := eq_nil_of_compareByIndex_eq hcmp
    have hnone : ∀ choices, graphOrder choices messages = ids := by
      intro choices
      have hperm := (orderedIds_perm choices (nodup_after_markedMessages messages)).trans
        (orderedIds_perm ⟨iter, .turned turns⟩ (nodup_after_markedMessages messages)).symm
      have hids : orderedIds ⟨iter, .turned turns⟩ (markedMessages messages) = [] := hempty
      rw [hids] at hperm
      exact hperm.eq_nil.trans hempty.symm
    exact hturned (fun _ => True) (fun _ => False) (hnone _) (hnone _) trivial not_false
  · -- turn in the final sort only, and turn nowhere that the worklist does not
    refine hturned (fun cmp => cmp = worklistComparator → turns cmp)
      (fun cmp => cmp = worklistComparator ∧ turns cmp) (graphOrder_turned_congr ?_)
      (graphOrder_turned_congr ?_) (fun heq => absurd heq hsame) fun hboth => hsame hboth.1
    · exact ⟨fun h => h rfl, fun h _ => h⟩
    · exact ⟨fun h => h.2, fun h => ⟨rfl, h⟩⟩

/-- The messages stand in the order of the positions. -/
theorem Stable.pairwise (hstable : Stable messages)
    (turns : (Σ α : Type, α → α → Ordering) → Prop) :
    messages.Pairwise
      (Below (compareByIndex (graphOrder ⟨iter, .turned turns⟩ messages))) := by
  have horder := @Stable.orderOn iter messages hstable turns
  have hsorted := hstable ⟨iter, .turned turns⟩
  rw [messages_reconcile, (SortAlgorithm.turned turns).stable _ _ horder] at hsorted
  have hpairwise := horder.pairwise_sortBy
  rwa [hsorted] at hpairwise

/-- Messages stand in the order of one list of ids only. -/
theorem eq_of_pairwise_compareByIndex {left right : List String} (hnodup : right.Nodup)
    (hperm : left.Perm right) (hmem : ∀ id ∈ right, ∃ message ∈ messages, message.id = id)
    (hleft : messages.Pairwise (Below (compareByIndex left)))
    (hright : messages.Pairwise (Below (compareByIndex right))) : left = right := by
  refine Positions.eq_of_sorted_positions hnodup hperm ?_
  have hpositions := Positions.pairwise_positions (hperm.nodup_iff.mpr hnodup)
  rw [List.pairwise_iff_forall_sublist] at hpositions ⊢
  intro a b hab i j hi hj
  have hindex : ∀ {ids : List String} {first second : PairBackendMessage} {m n : ℕ},
      ids.idxOf? first.id = some m → ids.idxOf? second.id = some n →
        Below (compareByIndex ids) first second → m ≤ n := by
    intro ids first second m n hm hn hbelow
    rw [Below, compareByIndex, hm, hn] at hbelow
    exact compare_le_iff_le.mp (Ordering.ne_gt_iff_isLE.mpr hbelow)
  have hlow : a ∈ left := hab.subset List.mem_cons_self
  have hhigh : b ∈ left := hab.subset (List.mem_cons_of_mem _ List.mem_cons_self)
  obtain ⟨first, hfirst, rfl⟩ := hmem a (hperm.mem_iff.mp hlow)
  obtain ⟨second, hsecond, rfl⟩ := hmem b (hperm.mem_iff.mp hhigh)
  obtain ⟨m, hm⟩ := Positions.exists_idxOf? hlow
  obtain ⟨n, hn⟩ := Positions.exists_idxOf? hhigh
  have hlt := hpositions hab m n hm hn
  have hne : first ≠ second := by
    rintro rfl
    rw [hm] at hn
    exact hlt.ne (Option.some.inj hn)
  rcases pair_sublist_or hfirst hsecond hne with hkept | hswapped
  · exact hindex hi hj (List.pairwise_pair.mp (hright.sublist hkept))
  · have hback := hindex hn hm (List.pairwise_pair.mp (hleft.sublist hswapped))
    omega

/-- **A reconciliation leaves exactly the channels in forced order as they are.** -/
theorem stable_iff (htidy : markedMessages messages = messages) :
    Stable messages ↔ InForcedOrder messages := by
  have hafter : ∀ message ∈ messages, message.after.Nodup := by
    have hmarked := nodup_after_markedMessages messages
    rwa [htidy] at hmarked
  have hgraph : ∀ choices, graphOrder choices messages = orderedIds choices messages := by
    intro choices
    rw [graphOrder, htidy]
  constructor
  · intro hstable
    -- a sort that turns in the worklist only, and one that turns nowhere
    have hplain : orderedIds ⟨.stored, .turned fun _ => False⟩ messages =
        orderedIds ⟨.stored, .insertion⟩ messages := orderedIds_congr fun _ =>
          SortAlgorithm.sort_turned_of_not not_false
    have hids : orderedIds ⟨.stored, .turned (· = worklistComparator)⟩ messages =
        orderedIds ⟨.stored, .insertion⟩ messages := by
      have hturned := orderedIds_perm ⟨.stored, .turned (· = worklistComparator)⟩ hafter
      have hinsertion := orderedIds_perm ⟨.stored, .insertion⟩ hafter
      refine @eq_of_pairwise_compareByIndex messages _ _
        (hinsertion.nodup_iff.mpr (nodup_ids_values messages))
        (hturned.trans hinsertion.symm) (fun id hid => ?_) ?_ ?_
      · obtain ⟨message, hmem, heq⟩ := List.mem_map.mp (hinsertion.mem_iff.mp hid)
        exact ⟨message, (mem_values_messageById hmem).1, heq⟩
      · rw [← hgraph]
        exact hstable.pairwise (· = worklistComparator)
      · rw [← hplain, ← hgraph]
        exact hstable.pairwise _
    obtain ⟨ordered, heq, hforced⟩ := @forcedOrder_of_orderedIds_eq messages _
      (· = worklistComparator) hafter rfl hids
    have hfinal : graphOrder ⟨.stored, .turned fun _ => False⟩ messages =
        ordered.map PairBackendMessage.id := by rw [hgraph, hplain, heq]
    refine ⟨ordered, hforced, ?_, ?_⟩
    · rw [← hfinal]
      exact orderOn_compareByIndex_iff.mp (hstable.orderOn _)
    · rw [← hfinal]
      exact hstable.pairwise _
  · rintro ⟨ordered, hforced, hclear, hsorted⟩ choices
    have hids : graphOrder choices messages = ordered.map PairBackendMessage.id := by
      rw [hgraph, orderedIds_of_forced choices hafter hforced]
    have horder : OrderOn (compareByIndex (graphOrder choices messages))
        (markedMessages messages) := by
      refine orderOn_compareByIndex_iff.mpr ?_
      rw [PositionsClear, hids]
      exact hclear
    rw [messages_reconcile, choices.sorter.stable _ _ horder, htidy, hids, sortBy_eq_self hsorted]

end OpenClaw.Desktop

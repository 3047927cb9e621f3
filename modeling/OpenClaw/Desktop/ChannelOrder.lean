import OpenClaw.Desktop.Reconcile
import OpenClaw.Lib.CausalOrder

/-!
# The order of a channel is the causal order

`reconcileChannelMessages` keeps its worklist in hash maps and sorts the ready
list only after a message that has children.  Where `comparePairMessageOrder` is
a total order on the messages, none of this shows: the ids come out in the
causal order of the graph (`causalOrder_orderedIds`), whatever the maps and the
sort do.
-/

namespace OpenClaw.Desktop

open OpenClaw.Runtime StableSort Kahn

variable {choices : Choices} {messages nodes : List PairBackendMessage}
  {message : PairBackendMessage} {known : List String}

/-- The messages by id as the worklist walks them. -/
def walked (choices : Choices) (messages : List PairBackendMessage) : List PairBackendMessage :=
  (choices.iter.order (messageById messages).entries).map Prod.snd

def knownParents (messages : List PairBackendMessage) (message : PairBackendMessage) :
    List String :=
  message.after.filter fun id => decide (id ∈ knownIds messages)

/-- The graph the worklist is about. -/
def channelGraph (choices : Choices) (cmp : PairBackendMessage → PairBackendMessage → Ordering)
    (messages : List PairBackendMessage) : Kahn.Graph PairBackendMessage String where
  nodes := walked choices messages
  key := PairBackendMessage.id
  parents := knownParents messages
  cmp := cmp

instance {choices : Choices} {cmp : PairBackendMessage → PairBackendMessage → Ordering}
    [Std.TransCmp cmp] {messages : List PairBackendMessage} :
    Std.TransCmp (channelGraph choices cmp messages).cmp := by
  have hcmp : (channelGraph choices cmp messages).cmp = cmp := rfl
  rw [hcmp]
  infer_instance

/-! ## The messages by id -/

theorem id_of_mem_entries {entry : String × PairBackendMessage}
    (hentry : entry ∈ (messageById messages).entries) : entry.2.id = entry.1 := by
  have hget := OrderedMap.get_eq_some_iff.mpr hentry
  obtain ⟨other, -, heq⟩ := List.mem_map.mp (OrderedMap.mem_of_get_ofList hget)
  obtain ⟨hkey, hvalue⟩ := Prod.mk.inj heq
  exact hvalue ▸ hkey

theorem walked_perm (choices : Choices) (messages : List PairBackendMessage) :
    (walked choices messages).Perm (messageById messages).values :=
  (choices.iter.perm _).map Prod.snd

theorem nodup_ids_values (messages : List PairBackendMessage) :
    ((messageById messages).values.map PairBackendMessage.id).Nodup := by
  have hkeys : (messageById messages).values.map PairBackendMessage.id =
      (messageById messages).keys := by
    unfold OrderedMap.values OrderedMap.keys
    rw [List.map_map]
    exact List.map_congr_left fun entry hentry => id_of_mem_entries hentry
  rw [hkeys]
  exact (messageById messages).nodup_keys

theorem get_messageById_iff {id : String} :
    (messageById messages).get id = some message ↔
      message ∈ (messageById messages).values ∧ message.id = id := by
  constructor
  · intro hget
    exact ⟨OrderedMap.mem_values_iff.mpr ⟨id, hget⟩,
      id_of_mem_entries (OrderedMap.get_eq_some_iff.mp hget)⟩
  · rintro ⟨hmem, rfl⟩
    obtain ⟨key, hget⟩ := OrderedMap.mem_values_iff.mp hmem
    have hid : message.id = key := id_of_mem_entries (OrderedMap.get_eq_some_iff.mp hget)
    rwa [hid]

theorem mem_values_messageById (hmem : message ∈ (messageById messages).values) :
    message ∈ messages ∧ isGraphChatMessage message = true := by
  obtain ⟨key, hget⟩ := OrderedMap.mem_values_iff.mp hmem
  obtain ⟨other, hother, heq⟩ := List.mem_map.mp (OrderedMap.mem_of_get_ofList hget)
  obtain ⟨rfl, rfl⟩ := Prod.mk.inj heq
  exact List.mem_filter.mp hother

/-- The known ids are those of the messages by id. -/
theorem mem_knownIds_iff {id : String} :
    id ∈ knownIds messages ↔ id ∈ (messageById messages).values.map PairBackendMessage.id := by
  unfold knownIds
  constructor
  · intro hid
    have hbound : (messageById messages).get id ≠ none := by
      intro hnone
      apply OrderedMap.get_eq_none_iff.mp hnone
      rw [messageById, OrderedMap.mem_keys_ofList, List.map_map]
      exact hid
    obtain ⟨message, hget⟩ := Option.ne_none_iff_exists'.mp hbound
    obtain ⟨hmem, rfl⟩ := get_messageById_iff.mp hget
    exact List.mem_map_of_mem hmem
  · intro hid
    obtain ⟨message, hmem, rfl⟩ := List.mem_map.mp hid
    obtain ⟨hmem, hgraph⟩ := mem_values_messageById hmem
    exact List.mem_map_of_mem (List.mem_filter.mpr ⟨hmem, hgraph⟩)

theorem wellFormed_channelGraph {cmp : PairBackendMessage → PairBackendMessage → Ordering}
    (hafter : ∀ message ∈ messages, message.after.Nodup) :
    (channelGraph choices cmp messages).WellFormed where
  nodup_keys := ((walked_perm choices messages).map _).nodup_iff.mpr (nodup_ids_values messages)
  nodup_parents message hmem := by
    have hvalue := (walked_perm choices messages).mem_iff.mp hmem
    exact (hafter message (mem_values_messageById hvalue).1).filter _
  parent_known message _ p hp := by
    have hknown := mem_knownIds_iff.mp (of_decide_eq_true (List.mem_filter.mp hp).2)
    exact ((walked_perm choices messages).map _).mem_iff.mpr hknown

/-! ## The tables -/

/-- Pushing a child that a list does not have is adding it to the set. -/
theorem foldl_push_eq_addChild {child : String} {parents : List String}
    {children : OrderedMap String (List String)} (hnodup : parents.Nodup)
    (hfresh : ∀ p ∈ parents, child ∉ (children.get p).getD []) :
    parents.foldl (fun children parentId =>
        children.set parentId ((children.get parentId).getD [] ++ [child])) children =
      parents.foldl (addChild child) children := by
  induction parents generalizing children with
  | nil => rfl
  | cons parent rest ih =>
      obtain ⟨hparent, hrest⟩ := List.nodup_cons.mp hnodup
      have hadd : children.set parent ((children.get parent).getD [] ++ [child]) =
          addChild child children parent := by
        rw [addChild, OrderedSet.insert, if_neg (hfresh parent List.mem_cons_self)]
      rw [List.foldl_cons, List.foldl_cons, hadd]
      refine ih hrest fun p hp => ?_
      rw [mem_addChild]
      intro hmem
      rcases hmem with ⟨rfl, -⟩ | hold
      · exact hparent hp
      · exact hfresh p (List.mem_cons_of_mem _ hp) hold

/-- The two tables are those of the graph. -/
theorem foldl_linkMessage {cmp : PairBackendMessage → PairBackendMessage → Ordering}
    (hwf : (channelGraph choices cmp messages).WellFormed) :
    (walked choices messages).foldl (linkMessage (knownIds messages)) (∅, ∅) =
      ((channelGraph choices cmp messages).inDegree,
        (channelGraph choices cmp messages).children) := by
  have hfold : ∀ (nodes : List PairBackendMessage) (degrees : OrderedMap String ℕ)
      (children : OrderedMap String (List String)),
      (nodes.map PairBackendMessage.id).Nodup →
      (∀ node ∈ nodes, (knownParents messages node).Nodup) →
      (∀ node ∈ nodes, ∀ p, node.id ∉ (children.get p).getD []) →
      nodes.foldl (linkMessage (knownIds messages)) (degrees, children) =
        (nodes.foldl (fun degrees node =>
            degrees.set node.id (knownParents messages node).length) degrees,
          nodes.foldl (fun children node =>
            (knownParents messages node).foldl (addChild node.id) children) children) := by
    intro nodes
    induction nodes with
    | nil => exact fun _ _ _ _ _ => rfl
    | cons node rest ih =>
        intro degrees children hnodup hparents hfresh
        obtain ⟨hnode, hrest⟩ := List.nodup_cons.mp hnodup
        have hlink : linkMessage (knownIds messages) (degrees, children) node =
            (degrees.set node.id (knownParents messages node).length,
              (knownParents messages node).foldl (addChild node.id) children) := by
          rw [linkMessage]
          exact congrArg (Prod.mk _) (foldl_push_eq_addChild (hparents node List.mem_cons_self)
            fun p _ => hfresh node List.mem_cons_self p)
        rw [List.foldl_cons, List.foldl_cons, List.foldl_cons, hlink]
        refine ih _ _ hrest (fun other hother => hparents other (List.mem_cons_of_mem _ hother))
          fun other hother p hmem => ?_
        rcases (mem_foldl_addChild _).mp hmem with ⟨-, heq⟩ | hold
        · exact hnode (List.mem_map.mpr ⟨other, hother, heq⟩)
        · exact hfresh other (List.mem_cons_of_mem _ hother) p hold
  refine hfold _ _ _ hwf.nodup_keys hwf.nodup_parents fun node _ p hmem => ?_
  rw [OrderedMap.get_empty, Option.getD_none] at hmem
  exact List.not_mem_nil hmem

/-- Looking a message up by its id is searching it among the nodes. -/
theorem get_messageById_eq_find? {cmp : PairBackendMessage → PairBackendMessage → Ordering}
    (hwf : (channelGraph choices cmp messages).WellFormed) (id : String) :
    (messageById messages).get id =
      (walked choices messages).find? fun node => decide (node.id = id) := by
  refine Option.ext fun message => ?_
  rw [get_messageById_iff]
  refine Iff.symm ((find?_key_eq_some_iff hwf).trans ?_)
  rw [show (channelGraph choices cmp messages).nodes = walked choices messages from rfl,
    (walked_perm choices messages).mem_iff]
  exact Iff.rfl

theorem releaseChild_eq_release {cmp : PairBackendMessage → PairBackendMessage → Ordering}
    (hwf : (channelGraph choices cmp messages).WellFormed) :
    releaseChild (messageById messages) = (channelGraph choices cmp messages).release := by
  funext state child
  have hfind : (channelGraph choices cmp messages).nodes.find? (fun node =>
      decide ((channelGraph choices cmp messages).key node = child)) =
        (walked choices messages).find? fun node => decide (node.id = child) := rfl
  rw [releaseChild, Kahn.Graph.release, get_messageById_eq_find? hwf, hfind]
  cases (walked choices messages).find? fun node => decide (node.id = child) with
  | none => rfl
  | some found => rfl

/-! ## The worklist -/

/-- Every list of nodes is sorted by the order the comparator is on them. -/
theorem sort_nodes {cmp : PairBackendMessage → PairBackendMessage → Ordering} [Std.TransCmp cmp]
    (hagree : ∀ left ∈ walked choices messages, ∀ right ∈ walked choices messages,
      comparePairMessageOrder left right = cmp left right)
    (hsub : ∀ node ∈ nodes, node ∈ walked choices messages) :
    choices.sorter.sort comparePairMessageOrder nodes = sortBy cmp nodes := by
  have hnodes : ∀ left ∈ nodes, ∀ right ∈ nodes,
      comparePairMessageOrder left right = cmp left right := fun left hleft right hright =>
    hagree left (hsub left hleft) right (hsub right hright)
  rw [choices.sorter.stable _ _ ((orderOn_of_trans nodes).congr hnodes), sortBy_congr hnodes]

/-- The nodes that a round leaves are nodes. -/
theorem mem_foldl_release (graph : Kahn.Graph PairBackendMessage String) (children : List String)
    {ready : List PairBackendMessage} {inDegree : OrderedMap String ℕ}
    (hready : ∀ node ∈ ready, node ∈ graph.nodes) :
    ∀ node ∈ (children.foldl graph.release (ready, inDegree)).1, node ∈ graph.nodes := by
  induction children generalizing ready inDegree with
  | nil => exact hready
  | cons child rest ih =>
      rw [List.foldl_cons, release_eq]
      refine ih fun node hnode => ?_
      rcases List.mem_append.mp hnode with hold | hnew
      · exact hready node hold
      · rw [Option.mem_toList, released] at hnew
        split at hnew
        · exact List.mem_of_find?_eq_some hnew
        · cases hnew

/-- The loop with its hash maps is the loop of the graph. -/
theorem orderLoop_eq {cmp : PairBackendMessage → PairBackendMessage → Ordering}
    [Std.TransCmp cmp] (hwf : (channelGraph choices cmp messages).WellFormed)
    (hagree : ∀ left ∈ walked choices messages, ∀ right ∈ walked choices messages,
      comparePairMessageOrder left right = cmp left right)
    (fuel : ℕ) (ordered : List PairBackendMessage) {ready : List PairBackendMessage}
    {inDegree : OrderedMap String ℕ} (hready : ∀ node ∈ ready, node ∈ walked choices messages)
    (hsorted : ready.Pairwise (Below cmp)) :
    orderLoop choices (messageById messages) (channelGraph choices cmp messages).children fuel
        ready inDegree (ordered.map PairBackendMessage.id) =
      ((channelGraph choices cmp messages).loop fuel ready inDegree ordered).map
        PairBackendMessage.id := by
  induction fuel generalizing ready inDegree ordered with
  | zero => rw [orderLoop, Kahn.Graph.loop]
  | succ fuel ih =>
      cases ready with
      | nil => rw [orderLoop, Kahn.Graph.loop]
      | cons current ready =>
          obtain ⟨-, hrest⟩ := List.pairwise_cons.mp hsorted
          have htail : ∀ node ∈ ready, node ∈ walked choices messages := fun node hnode =>
            hready node (List.mem_cons_of_mem _ hnode)
          have hconcat : ordered.map PairBackendMessage.id ++ [current.id] =
              (ordered ++ [current]).map PairBackendMessage.id := by
            rw [List.map_append, List.map_singleton]
          have hcmp : (channelGraph choices cmp messages).cmp = cmp := rfl
          rw [orderLoop, Kahn.Graph.loop, releaseChild_eq_release hwf, hcmp]
          cases hchildren : (channelGraph choices cmp messages).children.get current.id with
          | none =>
              -- without children the ready list is sorted as it is
              have hsame : (channelGraph choices cmp messages).children.get
                  ((channelGraph choices cmp messages).key current) = none := hchildren
              rw [hsame, Option.getD_none, List.foldl_nil, hconcat]
              dsimp only
              rw [sortBy_eq_self hrest]
              exact ih _ htail hrest
          | some childIds =>
              have hsame : (channelGraph choices cmp messages).children.get
                  ((channelGraph choices cmp messages).key current) = some childIds := hchildren
              have hnodes := @mem_foldl_release (channelGraph choices cmp messages) childIds _
                inDegree htail
              rw [hsame, Option.getD_some, hconcat]
              dsimp only
              rw [sort_nodes hagree hnodes]
              refine ih _ (fun node hnode => hnodes node (mem_sortBy.mp hnode)) ?_
              exact pairwise_sortBy _

/-- **The ids come out in the causal order**, as long as the comparator is an
order on the messages. -/
theorem orderedIds_eq {cmp : PairBackendMessage → PairBackendMessage → Ordering}
    [Std.TransCmp cmp] (hafter : ∀ message ∈ messages, message.after.Nodup)
    (hagree : ∀ left ∈ walked choices messages, ∀ right ∈ walked choices messages,
      comparePairMessageOrder left right = cmp left right) :
    orderedIds choices messages =
      (channelGraph choices cmp messages).ordered.map PairBackendMessage.id := by
  have hwf : (channelGraph choices cmp messages).WellFormed := wellFormed_channelGraph hafter
  have hready : choices.sorter.sort comparePairMessageOrder ((walked choices messages).filter
      fun message => decide
        (((channelGraph choices cmp messages).inDegree.get message.id).getD 0 = 0)) =
      (channelGraph choices cmp messages).initialReady :=
    sort_nodes hagree fun node hnode => List.mem_of_mem_filter hnode
  have hnodes : ∀ node ∈ (channelGraph choices cmp messages).initialReady,
      node ∈ walked choices messages := fun node hnode =>
    List.mem_of_mem_filter (mem_sortBy.mp hnode)
  have hloop : orderLoop choices (messageById messages)
      (channelGraph choices cmp messages).children (walked choices messages).length
      (channelGraph choices cmp messages).initialReady
      (channelGraph choices cmp messages).inDegree [] =
        (channelGraph choices cmp messages).kahn.map PairBackendMessage.id :=
    orderLoop_eq hwf hagree _ [] hnodes (pairwise_sortBy _)
  unfold orderedIds
  dsimp only
  rw [show (choices.iter.order (messageById messages).entries).map Prod.snd =
    walked choices messages from rfl, foldl_linkMessage hwf]
  dsimp only
  rw [hready, hloop, sort_nodes hagree fun node hnode => List.mem_of_mem_filter hnode,
    Kahn.Graph.ordered, List.map_append]
  rfl

/-- The parents the messages of a channel name among each other. -/
def ChannelParent (messages : List PairBackendMessage) (parent child : PairBackendMessage) :
    Prop :=
  parent ∈ (messageById messages).values ∧ child ∈ (messageById messages).values ∧
    parent.id ∈ child.after

theorem mem_walked : message ∈ walked choices messages ↔
    message ∈ (messageById messages).values := (walked_perm choices messages).mem_iff

theorem parent_channelGraph {cmp : PairBackendMessage → PairBackendMessage → Ordering}
    (parent child : PairBackendMessage) :
    (channelGraph choices cmp messages).Parent parent child ↔
      ChannelParent messages parent child := by
  unfold Kahn.Graph.Parent ChannelParent
  rw [show (channelGraph choices cmp messages).nodes = walked choices messages from rfl,
    mem_walked, mem_walked]
  refine and_congr_right fun hp => and_congr_right fun _ => ?_
  show parent.id ∈ knownParents messages child ↔ parent.id ∈ child.after
  rw [knownParents, List.mem_filter, decide_eq_true_eq]
  exact and_iff_left (mem_knownIds_iff.mpr (List.mem_map_of_mem hp))

theorem causalOrder_orderedIds (choices : Choices)
    (hafter : ∀ message ∈ messages, message.after.Nodup)
    (hlinear : LinearOn comparePairMessageOrder (messageById messages).values) :
    ∃ ordered, orderedIds choices messages = ordered.map PairBackendMessage.id ∧
      CausalOrder (· ∈ (messageById messages).values) (ChannelParent messages)
        comparePairMessageOrder ordered := by
  obtain ⟨cmp, htrans, hagree⟩ := hlinear.toOrderOn.exists_transCmp
  have hwf : (channelGraph choices cmp messages).WellFormed := wellFormed_channelGraph hafter
  have : Std.TransCmp (channelGraph choices cmp messages).cmp := htrans
  have hcausal := (causalOrder_ordered hwf).congr (fun _ => mem_walked) parent_channelGraph
  refine ⟨_, orderedIds_eq hafter fun left hleft right hright => ?_,
    hcausal.congr_cmp fun left right hleft hright => hagree left hleft right hright⟩
  exact (hagree left (mem_walked.mp hleft) right (mem_walked.mp hright)).symm

/-! ## Whatever the comparator is -/

/-- The comparator under which everything is in order. -/
abbrev anyOrder (_ _ : PairBackendMessage) : Ordering := .eq

instance : Std.TransCmp anyOrder where
  eq_swap := rfl
  isLE_trans _ _ := rfl

theorem pairwise_anyOrder (list : List PairBackendMessage) : list.Pairwise (Below anyOrder) :=
  List.pairwise_of_forall fun _ _ => rfl

/-- The loop emits parents before their children, even if the sort makes nothing of the
ready list. -/
theorem emission_orderLoop (hwf : (channelGraph choices anyOrder messages).WellFormed)
    {fuel : ℕ} {ready ordered : List PairBackendMessage} {inDegree : OrderedMap String ℕ}
    (hinv : RoundInv (channelGraph choices anyOrder messages) ready inDegree ordered)
    (hfuel : (walked choices messages).length ≤ ordered.length + fuel) :
    ∃ emitted : List PairBackendMessage,
      orderLoop choices (messageById messages) (channelGraph choices anyOrder messages).children
        fuel ready inDegree (ordered.map PairBackendMessage.id) =
          emitted.map PairBackendMessage.id ∧
      Emission (channelGraph choices anyOrder messages).Node
        (channelGraph choices anyOrder messages).Parent anyOrder emitted ∧
      Complete (channelGraph choices anyOrder messages).Node
        (channelGraph choices anyOrder messages).Parent emitted := by
  induction fuel generalizing ready ordered inDegree with
  | zero =>
      rw [orderLoop]
      exact ⟨ordered, rfl, hinv.emission, hinv.complete_of_length hfuel⟩
  | succ fuel ih =>
      cases ready with
      | nil =>
          rw [orderLoop]
          refine ⟨ordered, rfl, hinv.emission, fun node hnode => ?_⟩
          exact List.not_mem_nil ((hinv.mem_ready node).mpr hnode)
      | cons current ready =>
          have hround := hinv.round hwf
          have hconcat : ordered.map PairBackendMessage.id ++ [current.id] =
              (ordered ++ [current]).map PairBackendMessage.id := by
            rw [List.map_append, List.map_singleton]
          have hfuel' :
              (walked choices messages).length ≤ (ordered ++ [current]).length + fuel := by
            rw [List.length_append, List.length_singleton]
            omega
          rw [orderLoop, releaseChild_eq_release hwf, hconcat]
          cases hchildren : (channelGraph choices anyOrder messages).children.get current.id with
          | none =>
              have hsame : (channelGraph choices anyOrder messages).children.get
                  ((channelGraph choices anyOrder messages).key current) = none := hchildren
              rw [hsame, Option.getD_none, List.foldl_nil] at hround
              exact ih (hround.perm (sortBy_perm _).symm (pairwise_anyOrder _)) hfuel'
          | some childIds =>
              have hsame : (channelGraph choices anyOrder messages).children.get
                  ((channelGraph choices anyOrder messages).key current) = some childIds :=
                hchildren
              rw [hsame, Option.getD_some] at hround
              refine ih (hround.perm ?_ (pairwise_anyOrder _)) hfuel'
              exact (choices.sorter.perm _ _).trans (sortBy_perm _).symm

/-- **Parents come first** in the ids, however the runtime sorts. -/
theorem topological_orderedIds (choices : Choices)
    (hafter : ∀ message ∈ messages, message.after.Nodup) :
    ∃ ordered, orderedIds choices messages = ordered.map PairBackendMessage.id ∧
      CausalOrder (· ∈ (messageById messages).values) (ChannelParent messages) anyOrder
        ordered := by
  have hwf : (channelGraph choices anyOrder messages).WellFormed := wellFormed_channelGraph hafter
  let ready := (walked choices messages).filter fun message => decide
    (((channelGraph choices anyOrder messages).inDegree.get message.id).getD 0 = 0)
  have hinv : RoundInv (channelGraph choices anyOrder messages)
      (choices.sorter.sort comparePairMessageOrder ready)
      (channelGraph choices anyOrder messages).inDegree [] := by
    refine (roundInv_initial hwf).perm ?_ (pairwise_anyOrder _)
    exact (choices.sorter.perm _ _).trans (sortBy_perm ready).symm
  obtain ⟨emitted, hemitted, hemission, hcomplete⟩ :=
    emission_orderLoop hwf hinv (Nat.le_add_left _ _)
  rw [List.map_nil] at hemitted
  let rest := choices.sorter.sort comparePairMessageOrder ((walked choices messages).filter
    fun message => decide (message.id ∉ emitted.map PairBackendMessage.id))
  have hcausal : CausalOrder (channelGraph choices anyOrder messages).Node
      (channelGraph choices anyOrder messages).Parent anyOrder (emitted ++ rest) := by
    refine ⟨emitted, rest, rfl, hemission, hcomplete, ?_, fun message => ?_, pairwise_anyOrder _⟩
    · exact (choices.sorter.perm _ _).nodup_iff.mpr ((List.Nodup.of_map _ hwf.nodup_keys).filter _)
    · rw [(choices.sorter.perm _ _).mem_iff]
      exact mem_leftover_iff hwf fun _ ha => hemission.node_of_mem ha
  refine ⟨emitted ++ rest, ?_, hcausal.congr (fun _ => mem_walked) parent_channelGraph⟩
  unfold orderedIds
  dsimp only
  rw [show (choices.iter.order (messageById messages).entries).map Prod.snd =
    walked choices messages from rfl, foldl_linkMessage hwf]
  dsimp only
  rw [hemitted, List.map_append]

end OpenClaw.Desktop

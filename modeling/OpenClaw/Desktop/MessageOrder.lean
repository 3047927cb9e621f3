import OpenClaw.Desktop.ChannelOrder
import OpenClaw.Lib.Positions
import OpenClaw.Lib.RankedOrder

/-!
# When the order of a channel is well defined

`comparePairMessageOrder` compares gateway numbers where both messages have one
and timestamps elsewhere, and the final sort of a reconciliation compares
positions in the graph where both messages have one and falls back on
`comparePairMessageOrder` elsewhere.  Both are comparators that change their key
(`RankedOrder`), and neither is an order in general.

`wellDefinedOrder_iff` says when they are: exactly when no message without a
gateway number stands, in time, between two that the gateway numbers put the
other way round, and no message without a position does so for the positions.
Then, and only then, does the order of a channel depend on its messages alone.
-/

namespace OpenClaw.Desktop

open OpenClaw.Runtime StableSort RankedOrder Kahn

variable {choices : Choices} {messages : List PairBackendMessage}
  {left right message : PairBackendMessage} {ordered : List String}

/-! ## The comparators by rank -/

/-- By time, then by id. -/
def compareTime (left right : PairBackendMessage) : Ordering :=
  (compare left.ts right.ts).then (compare left.id right.id)

/-- By gateway number, then by time and id. -/
def compareGateway (left right : PairBackendMessage) : Ordering :=
  (compare left.gatewayMessageSeq right.gatewayMessageSeq).then (compareTime left right)

/-- A message that has a gateway number, as its own rank. -/
def gatewayRank (message : PairBackendMessage) : Option PairBackendMessage :=
  if 0 < message.gatewayMessageSeq then some message else none

/-- The position of a message in the order of the graph. -/
def position (ordered : List String) (message : PairBackendMessage) : Option ℕ :=
  ordered.idxOf? message.id

instance : Std.TransCmp compareTime := by
  have hts := transCmp_pullback (compare : ℕ → ℕ → Ordering) PairBackendMessage.ts
  have hid := transCmp_pullback (compare : String → String → Ordering) PairBackendMessage.id
  exact inferInstanceAs (Std.TransCmp (compareLex
    (fun left right : PairBackendMessage => compare left.ts right.ts)
    fun left right => compare left.id right.id))

instance : Std.TransCmp compareGateway := by
  have hseq := transCmp_pullback (compare : ℕ → ℕ → Ordering) PairBackendMessage.gatewayMessageSeq
  exact inferInstanceAs (Std.TransCmp (compareLex
    (fun left right : PairBackendMessage => compare left.gatewayMessageSeq right.gatewayMessageSeq)
    compareTime))

theorem gatewayRank_of_pos (hpos : 0 < message.gatewayMessageSeq) :
    gatewayRank message = some message := if_pos hpos

theorem gatewayRank_eq_none_iff : gatewayRank message = none ↔ message.gatewayMessageSeq = 0 := by
  unfold gatewayRank
  split
  · next hpos => exact ⟨fun h => (nomatch h), fun h => by omega⟩
  · next hnot => exact ⟨fun _ => by omega, fun _ => rfl⟩

theorem comparePairMessageOrder_eq :
    comparePairMessageOrder = compareRanked gatewayRank compareGateway compareTime := by
  funext left right
  have htime : (compare left.ts right.ts).then (compare left.id right.id) =
      compareTime left right := rfl
  unfold comparePairMessageOrder
  rw [htime]
  by_cases hleft : 0 < left.gatewayMessageSeq
  · by_cases hright : 0 < right.gatewayMessageSeq
    · rw [compareRanked_of_some (gatewayRank_of_pos hleft) (gatewayRank_of_pos hright),
        compareGateway]
      rcases Nat.lt_trichotomy left.gatewayMessageSeq right.gatewayMessageSeq with hlt | heq | hgt
      · rw [if_pos ⟨hleft, hright, hlt.ne⟩, Nat.compare_eq_lt.mpr hlt, Ordering.lt_then]
      · rw [if_neg fun h => h.2.2 heq, Nat.compare_eq_eq.mpr heq, Ordering.eq_then]
      · rw [if_pos ⟨hleft, hright, hgt.ne'⟩, Nat.compare_eq_gt.mpr hgt, Ordering.gt_then]
    · rw [if_neg fun h => hright h.2.1,
        compareRanked_of_none_right (gatewayRank_eq_none_iff.mpr (by omega))]
  · rw [if_neg fun h => hleft h.1,
      compareRanked_of_none_left (gatewayRank_eq_none_iff.mpr (by omega))]

instance : Std.OrientedCmp comparePairMessageOrder := by
  rw [comparePairMessageOrder_eq]
  infer_instance

theorem compareByIndex_eq (ordered : List String) :
    compareByIndex ordered = compareRanked (position ordered) compare comparePairMessageOrder := by
  funext left right
  unfold compareByIndex compareRanked position
  cases ordered.idxOf? left.id <;> cases ordered.idxOf? right.id <;> rfl

/-! ## The comparator of the worklist -/

/-- No message without a gateway number stands in time between two whose gateway
numbers are the other way round. -/
def GatewayClear (messages : List PairBackendMessage) : Prop :=
  ∀ left ∈ messages, ∀ right ∈ messages, ∀ middle ∈ messages,
    0 < left.gatewayMessageSeq → 0 < right.gatewayMessageSeq → middle.gatewayMessageSeq = 0 →
      compareTime left middle = .lt → compareTime middle right = .lt →
        left.gatewayMessageSeq ≤ right.gatewayMessageSeq

instance (messages : List PairBackendMessage) : Decidable (GatewayClear messages) :=
  inferInstanceAs (Decidable (∀ left ∈ messages, _))

theorem gatewayRank_eq_some_iff {rank : PairBackendMessage} :
    gatewayRank message = some rank ↔ 0 < message.gatewayMessageSeq ∧ rank = message := by
  unfold gatewayRank
  split
  · next hpos => simp [hpos, eq_comm]
  · next hnot => simp [hnot]

theorem compareTime_eq_iff :
    compareTime left right = .eq ↔ left.ts = right.ts ∧ left.id = right.id := by
  rw [compareTime, Ordering.then_eq_eq, Nat.compare_eq_eq]
  exact and_congr_right fun _ => Std.LawfulEqCmp.compare_eq_iff_eq

/-- Messages with distinct ids are never at the same time. -/
theorem compareTime_separates (hids : (messages.map PairBackendMessage.id).Nodup)
    (hleft : left ∈ messages) (hright : right ∈ messages) (heq : compareTime left right = .eq) :
    left = right :=
  List.inj_on_of_nodup_map hids hleft hright (compareTime_eq_iff.mp heq).2

/-- **When the comparator of the worklist is a total order.** -/
theorem linearOn_iff (hids : (messages.map PairBackendMessage.id).Nodup) :
    LinearOn comparePairMessageOrder messages ↔ GatewayClear messages := by
  have horder : OrderOn comparePairMessageOrder messages ↔
      NoneBetween gatewayRank compareGateway compareTime messages := by
    rw [comparePairMessageOrder_eq]
    exact orderOn_iff_noneBetween
  constructor
  · intro hlinear left hleft right hright middle hmiddle hlpos hrpos hzero hbefore hafter
    have hbetween := horder.mp hlinear.toOrderOn left hleft right hright middle hmiddle left right
      (gatewayRank_of_pos hlpos) (gatewayRank_of_pos hrpos) (gatewayRank_eq_none_iff.mpr hzero)
      (below_of_lt hbefore) (below_of_lt hafter)
    have hlt := hbetween.2 (Or.inl hbefore)
    by_contra hcontra
    rw [compareGateway, Nat.compare_eq_gt.mpr (by omega), Ordering.gt_then] at hlt
    cases hlt
  · intro hclear
    refine ⟨horder.mpr ?_, fun left hleft right hright heq => ?_⟩
    · intro left hleft right hright middle hmiddle lrank rrank hlrank hrrank hmrank hbefore hafter
      obtain ⟨hlpos, hleq⟩ := gatewayRank_eq_some_iff.mp hlrank
      obtain ⟨hrpos, hreq⟩ := gatewayRank_eq_some_iff.mp hrrank
      rw [hleq, hreq]
      have hzero := gatewayRank_eq_none_iff.mp hmrank
      -- a message without a gateway number is at the time of no other one
      have hstrict : ∀ {a b : PairBackendMessage}, a ∈ messages → b ∈ messages →
          a.gatewayMessageSeq ≠ b.gatewayMessageSeq → Below compareTime a b →
          compareTime a b = .lt := by
        intro a b ha hb hne hbelow
        cases hcmp : compareTime a b with
        | lt => rfl
        | eq => exact absurd (congrArg _ (compareTime_separates hids ha hb hcmp)) hne
        | gt => rw [Below, hcmp] at hbelow; cases hbelow
      have hlm := hstrict hleft hmiddle (by omega) hbefore
      have hmr := hstrict hmiddle hright (by omega) hafter
      have hle := hclear left hleft right hright middle hmiddle hlpos hrpos hzero hlm hmr
      have hlt : compareGateway left right = .lt := by
        rw [compareGateway]
        rcases Nat.lt_or_eq_of_le hle with hlt | heq
        · rw [Nat.compare_eq_lt.mpr hlt, Ordering.lt_then]
        · rw [Nat.compare_eq_eq.mpr heq, Ordering.eq_then]
          exact Std.TransCmp.lt_trans hlm hmr
      exact ⟨below_of_lt hlt, fun _ => hlt⟩
    · have hid : left.id = right.id := by
        unfold comparePairMessageOrder at heq
        split at heq
        · next h => exact absurd (Nat.compare_eq_eq.mp heq) h.2.2
        · exact (compareTime_eq_iff.mp heq).2
      exact List.inj_on_of_nodup_map hids hleft hright hid

/-! ## The comparator of the final sort -/

/-- The messages as the final sort gets them. -/
def markedMessages (messages : List PairBackendMessage) : List PairBackendMessage :=
  messages.map (reconcileMessage messages)

/-- The order of the graph, as a reconciliation computes it just before it sorts. -/
def graphOrder (choices : Choices) (messages : List PairBackendMessage) : List String :=
  orderedIds choices (markedMessages messages)

theorem messages_reconcile (choices : Choices) (messages : List PairBackendMessage) :
    (reconcileChannelMessages choices messages).messages =
      choices.sorter.sort (compareByIndex (graphOrder choices messages))
        (markedMessages messages) := by
  have hmarked : (messages.map normalizeStored).map
      (markMissing (knownIds (messages.map normalizeStored))) = markedMessages messages := by
    rw [List.map_map, markedMessages]
    exact List.map_congr_left fun message _ => by rw [Function.comp_apply, reconcileMessage]
  unfold reconcileChannelMessages graphOrder
  dsimp only
  rw [hmarked]

/-- No message without a position in `order` stands, by the fallback, between two
that the positions have the other way round; and the fallback is transitive on the
messages without a position. -/
def ClearOf (order : List String) (messages : List PairBackendMessage) : Prop :=
  FallbackTrans (position order) comparePairMessageOrder (markedMessages messages) ∧
    NoneBetween (position order) compare comparePairMessageOrder (markedMessages messages)

/-- The order a reconciliation computes is clear of the messages it does not have. -/
def PositionsClear (choices : Choices) (messages : List PairBackendMessage) : Prop :=
  ClearOf (graphOrder choices messages) messages

/-- **When the comparator of the final sort is an order.** -/
theorem orderOn_compareByIndex_iff : OrderOn (compareByIndex (graphOrder choices messages))
    (markedMessages messages) ↔ PositionsClear choices messages := by
  rw [compareByIndex_eq]
  exact orderOn_iff

theorem compareByIndex_self (message : PairBackendMessage) :
    compareByIndex ordered message message = .eq := by
  rw [compareByIndex_eq]
  exact Std.ReflCmp.compare_self

theorem id_of_comparePair_eq (heq : comparePairMessageOrder left right = .eq) :
    left.id = right.id := by
  unfold comparePairMessageOrder at heq
  split at heq
  · next h => exact absurd (Nat.compare_eq_eq.mp heq) h.2.2
  · exact (compareTime_eq_iff.mp heq).2

theorem id_of_compareByIndex_eq (heq : compareByIndex ordered left right = .eq) :
    left.id = right.id := by
  unfold compareByIndex at heq
  cases hleft : ordered.idxOf? left.id with
  | none => exact id_of_comparePair_eq (by rwa [hleft] at heq)
  | some leftIndex =>
      cases hright : ordered.idxOf? right.id with
      | none => exact id_of_comparePair_eq (by rwa [hleft, hright] at heq)
      | some rightIndex =>
          rw [hleft, hright] at heq
          have hindex : leftIndex = rightIndex := Nat.compare_eq_eq.mp heq
          exact Positions.idxOf?_inj hleft (hindex ▸ hright)

/-! ## Reconciling a set of messages -/

theorem ids_markedMessages (messages : List PairBackendMessage) :
    (markedMessages messages).map PairBackendMessage.id = messages.map PairBackendMessage.id := by
  rw [markedMessages, List.map_map]
  exact List.map_congr_left fun message _ => id_reconcileMessage

/-- What reconciling makes of a message depends on the set of messages only. -/
theorem reconcileMessage_of_perm {messages' : List PairBackendMessage}
    (hperm : messages'.Perm messages) : reconcileMessage messages' = reconcileMessage messages := by
  funext message
  have hknown : ∀ id, id ∈ knownIds (messages'.map normalizeStored) ↔
      id ∈ knownIds (messages.map normalizeStored) := fun id =>
    (((hperm.map normalizeStored).filter _).map _).mem_iff
  unfold reconcileMessage markMissing
  simp only [hknown]

theorem markedMessages_perm {messages' : List PairBackendMessage}
    (hperm : messages'.Perm messages) :
    (markedMessages messages').Perm (markedMessages messages) := by
  rw [markedMessages, reconcileMessage_of_perm hperm]
  exact hperm.map _

@[simp] theorem after_markMissing {known : List String} :
    (markMissing known message).after = message.after := by
  unfold markMissing
  split
  · rfl
  · rfl

theorem isGraphChatMessage_markMissing {known : List String} :
    isGraphChatMessage (markMissing known message) = isGraphChatMessage message := by
  unfold markMissing
  split
  · rfl
  · simp only [isGraphChatMessage]

theorem comparePairMessageOrder_markMissing {known known' : List String} :
    comparePairMessageOrder (markMissing known left) (markMissing known' right) =
      comparePairMessageOrder left right := by
  have hfields : ∀ (known : List String) (message : PairBackendMessage),
      (markMissing known message).ts = message.ts ∧
        (markMissing known message).gatewayMessageSeq = message.gatewayMessageSeq := by
    intro known message
    unfold markMissing
    split
    · exact ⟨rfl, rfl⟩
    · exact ⟨rfl, rfl⟩
  simp only [comparePairMessageOrder, hfields, id_markMissing]

theorem nodup_after_normalizeIncoming (message : PairBackendMessage) :
    (normalizeIncoming message).after.Nodup := by
  rw [normalizeIncoming]
  split
  · exact List.nodup_nil
  · exact OrderedSet.nodup_ofList _

theorem nodup_after_markedMessages (messages : List PairBackendMessage) :
    ∀ message ∈ markedMessages messages, message.after.Nodup := by
  intro message hmem
  obtain ⟨old, -, rfl⟩ := List.mem_map.mp hmem
  rw [reconcileMessage, after_markMissing, normalizeStored]
  exact nodup_after_normalizeIncoming old

theorem isGraphChatMessage_reconcileMessage :
    isGraphChatMessage (reconcileMessage messages message) = isGraphChatMessage message := by
  rw [reconcileMessage, isGraphChatMessage_markMissing, isGraphChatMessage_normalizeStored]

theorem knownIds_markedMessages (messages : List PairBackendMessage) :
    knownIds (markedMessages messages) = knownIds messages :=
  knownIds_map (fun _ => isGraphChatMessage_reconcileMessage) fun _ => id_reconcileMessage

theorem mem_knownIds_reconcile {id : String} :
    id ∈ knownIds (reconcileChannelMessages choices messages).messages ↔
      id ∈ knownIds messages := by
  have hperm := reconcile_perm choices messages
  rw [← knownIds_markedMessages messages]
  exact ((hperm.filter _).map _).mem_iff

/-- The comparator does not see what reconciling changes in a chat message. -/
theorem comparePairMessageOrder_reconcileMessage (hleft : isGraphChatMessage left = true)
    (hright : isGraphChatMessage right = true) :
    comparePairMessageOrder (reconcileMessage messages left) (reconcileMessage messages right) =
      comparePairMessageOrder left right := by
  rw [reconcileMessage, reconcileMessage, comparePairMessageOrder_markMissing, normalizeStored,
    normalizeStored, normalizeIncoming_of_graph hleft, normalizeIncoming_of_graph hright]
  simp only [comparePairMessageOrder]

theorem below_reconcileMessage (hleft : isGraphChatMessage left = true)
    (hright : isGraphChatMessage right = true) :
    Below comparePairMessageOrder (reconcileMessage messages left)
        (reconcileMessage messages right) ↔ Below comparePairMessageOrder left right := by
  rw [Below, Below, comparePairMessageOrder_reconcileMessage hleft hright]

theorem mem_values_iff_of_distinct (hdistinct : (knownIds messages).Nodup) :
    message ∈ (messageById messages).values ↔
      message ∈ messages ∧ isGraphChatMessage message = true := by
  constructor
  · exact mem_values_messageById
  · rintro ⟨hmem, hgraph⟩
    have hkeys : (((messages.filter isGraphChatMessage).map fun message =>
        (message.id, message)).map Prod.fst).Nodup := by
      rw [List.map_map]
      exact hdistinct
    refine OrderedMap.mem_values_iff.mpr ⟨message.id, (OrderedMap.get_ofList hkeys).mpr ?_⟩
    exact List.mem_map.mpr ⟨message, List.mem_filter.mpr ⟨hmem, hgraph⟩, rfl⟩

theorem mem_values_iff_of_nodup (hids : (messages.map PairBackendMessage.id).Nodup) :
    message ∈ (messageById messages).values ↔
      message ∈ messages ∧ isGraphChatMessage message = true :=
  mem_values_iff_of_distinct (hids.sublist (List.filter_sublist.map _))

/-- The worklist of a reconciliation sorts by an order if the messages are in
one. -/
theorem linearOn_values (hlinear : LinearOn comparePairMessageOrder messages)
    (hids : (messages.map PairBackendMessage.id).Nodup) :
    LinearOn comparePairMessageOrder (messageById (markedMessages messages)).values := by
  have hold : ∀ {message}, message ∈ (messageById (markedMessages messages)).values →
      ∃ old ∈ messages,
       isGraphChatMessage old = true ∧ reconcileMessage messages old = message := by
    intro message hmem
    obtain ⟨hmem, hgraph⟩ := mem_values_messageById hmem
    obtain ⟨old, hold, rfl⟩ := List.mem_map.mp hmem
    exact ⟨old, hold, isGraphChatMessage_reconcileMessage.symm.trans hgraph, rfl⟩
  have hmarked : ((markedMessages messages).map PairBackendMessage.id).Nodup := by
    rwa [ids_markedMessages]
  refine ⟨⟨fun left hleft right hright => ?_, fun a ha b hb c hc hab hbc => ?_⟩,
    fun left hleft right hright heq => ?_⟩
  · exact Std.OrientedCmp.eq_swap
  · obtain ⟨first, hfirst, hfgraph, rfl⟩ := hold ha
    obtain ⟨second, hsecond, hsgraph, rfl⟩ := hold hb
    obtain ⟨third, hthird, htgraph, rfl⟩ := hold hc
    rw [below_reconcileMessage hfgraph hsgraph] at hab
    rw [below_reconcileMessage hsgraph htgraph] at hbc
    rw [below_reconcileMessage hfgraph htgraph]
    exact hlinear.toOrderOn.trans first hfirst second hsecond third hthird hab hbc
  · exact List.inj_on_of_nodup_map hmarked (mem_values_messageById hleft).1
      (mem_values_messageById hright).1 (id_of_comparePair_eq heq)

/-- The ids of the chat messages in the causal order of their graph. -/
def CausalIds (messages : List PairBackendMessage) (order : List String) : Prop :=
  ∃ ordered, order = ordered.map PairBackendMessage.id ∧
    CausalOrder (· ∈ (messageById (markedMessages messages)).values)
      (ChannelParent (markedMessages messages)) comparePairMessageOrder ordered

/-- The order of the graph is the causal order of the marked messages. -/
theorem exists_causalOrder (choices : Choices)
    (hlinear : LinearOn comparePairMessageOrder messages)
    (hids : (messages.map PairBackendMessage.id).Nodup) :
    CausalIds messages (graphOrder choices messages) :=
  causalOrder_orderedIds choices (nodup_after_markedMessages messages)
    (linearOn_values hlinear hids)

/-- There is one such order. -/
theorem CausalIds.eq_graphOrder {order : List String} (hcausal : CausalIds messages order)
    (choices : Choices) (hlinear : LinearOn comparePairMessageOrder messages)
    (hids : (messages.map PairBackendMessage.id).Nodup) :
    order = graphOrder choices messages := by
  obtain ⟨ordered, rfl, hordered⟩ := hcausal
  obtain ⟨ordered', heq, hordered'⟩ := exists_causalOrder choices hlinear hids
  have hsame := hordered.unique hordered' fun left right hleft hright =>
    (linearOn_values hlinear hids).antisymm hleft hright
  rw [heq, hsame]

/-- It has the id of every chat message, once. -/
theorem graphOrder_perm (choices : Choices) (hlinear : LinearOn comparePairMessageOrder messages)
    (hids : (messages.map PairBackendMessage.id).Nodup) :
    (graphOrder choices messages).Perm (knownIds messages) := by
  obtain ⟨ordered, heq, hcausal⟩ := exists_causalOrder choices hlinear hids
  have hmarked : ((markedMessages messages).map PairBackendMessage.id).Nodup := by
    rwa [ids_markedMessages]
  have hperm : ordered.Perm ((markedMessages messages).filter isGraphChatMessage) := by
    refine (List.perm_ext_iff_of_nodup hcausal.nodup (hmarked.of_map.filter _)).mpr
      fun message => ?_
    rw [hcausal.mem_iff, mem_values_iff_of_nodup hmarked, List.mem_filter]
  have hknown : ((markedMessages messages).filter isGraphChatMessage).map PairBackendMessage.id =
      knownIds messages := by
    rw [markedMessages, List.filter_map, List.map_map, knownIds]
    have hfilter : messages.filter (isGraphChatMessage ∘ reconcileMessage messages) =
        messages.filter isGraphChatMessage :=
      List.filter_congr fun message _ => by
        rw [Function.comp_apply, isGraphChatMessage_reconcileMessage]
    rw [hfilter]
    exact List.map_congr_left fun message _ => by rw [Function.comp_apply, id_reconcileMessage]
  rw [heq, ← hknown]
  exact hperm.map _

/-- The order of the graph depends on the set of messages only. -/
theorem graphOrder_eq {choices' : Choices} {messages' : List PairBackendMessage}
    (hlinear : LinearOn comparePairMessageOrder messages)
    (hids : (messages.map PairBackendMessage.id).Nodup) (hperm : messages'.Perm messages) :
    graphOrder choices messages' = graphOrder choices' messages := by
  have hids' : (messages'.map PairBackendMessage.id).Nodup :=
    (hperm.map _).nodup_iff.mpr hids
  obtain ⟨ordered, heq, hcausal⟩ := exists_causalOrder choices' hlinear hids
  obtain ⟨ordered', heq', hcausal'⟩ := exists_causalOrder choices
    (hlinear.mono hperm.subset) hids'
  -- both are the causal order of one graph
  have hmem : ∀ message, message ∈ (messageById (markedMessages messages')).values ↔
      message ∈ (messageById (markedMessages messages)).values := by
    intro message
    rw [mem_values_iff_of_nodup (by rwa [ids_markedMessages]),
      mem_values_iff_of_nodup (by rwa [ids_markedMessages]),
      (markedMessages_perm hperm).mem_iff]
  have hparent : ∀ parent child, ChannelParent (markedMessages messages') parent child ↔
      ChannelParent (markedMessages messages) parent child := fun parent child =>
    and_congr (hmem parent) (and_congr_left' (hmem child))
  have hunique := (hcausal'.congr hmem hparent).unique hcausal fun left right hleft hright =>
    (linearOn_values hlinear hids).antisymm hleft hright
  rw [heq, heq', hunique]

/-- Without system messages every message has a position. -/
theorem positionsClear_of_chat (choices : Choices)
    (hlinear : LinearOn comparePairMessageOrder messages)
    (hids : (messages.map PairBackendMessage.id).Nodup)
    (hchat : ∀ message ∈ messages, isGraphChatMessage message = true) :
    PositionsClear choices messages := by
  have hpositioned : ∀ message ∈ markedMessages messages,
      position (graphOrder choices messages) message ≠ none := by
    intro message hmem hnone
    obtain ⟨old, hold, rfl⟩ := List.mem_map.mp hmem
    rw [position, id_reconcileMessage, List.idxOf?_eq_none_iff] at hnone
    exact hnone ((graphOrder_perm choices hlinear hids).mem_iff.mpr
      (List.mem_map_of_mem (List.mem_filter.mpr ⟨hold, hchat old hold⟩)))
  constructor
  · intro left hleft right hright third hthird hfew
    rcases hfew with ⟨hnone, -⟩ | ⟨hnone, -⟩ | ⟨hnone, -⟩
    · exact absurd hnone (hpositioned left hleft)
    · exact absurd hnone (hpositioned left hleft)
    · exact absurd hnone (hpositioned right hright)
  · intro left _ right _ middle hmiddle _ _ _ _ hnone
    exact absurd hnone (hpositioned middle hmiddle)

/-! ## The order of a channel -/

/-- The comparator is a total order on the messages, and the order of the
channel depends on nothing else. -/
structure WellDefinedOrder (messages : List PairBackendMessage) : Prop where
  linear : LinearOn comparePairMessageOrder messages
  determined : ∀ choices choices' messages', messages'.Perm messages →
    (reconcileChannelMessages choices messages').messages =
      (reconcileChannelMessages choices' messages).messages

/-- The final sort gives one result if its comparator is an order. -/
theorem linearOn_compareByIndex (hids : (messages.map PairBackendMessage.id).Nodup)
    (hclear : PositionsClear choices messages) :
    LinearOn (compareByIndex (graphOrder choices messages)) (markedMessages messages) := by
  refine ⟨orderOn_compareByIndex_iff.mpr hclear, fun left hleft right hright heq => ?_⟩
  have hmarked : ((markedMessages messages).map PairBackendMessage.id).Nodup := by
    rwa [ids_markedMessages]
  exact List.inj_on_of_nodup_map hmarked hleft hright (id_of_compareByIndex_eq heq)

theorem wellDefinedOrder_of_clear (hids : (messages.map PairBackendMessage.id).Nodup)
    (hlinear : LinearOn comparePairMessageOrder messages)
    (hclear : ∀ choices, PositionsClear choices messages) : WellDefinedOrder messages := by
  refine ⟨hlinear, fun choices choices' messages' hperm => ?_⟩
  have hfinal := linearOn_compareByIndex hids (hclear choices')
  have hmarked := markedMessages_perm hperm
  have horder : graphOrder choices messages' = graphOrder choices' messages :=
    graphOrder_eq hlinear hids hperm
  rw [messages_reconcile, messages_reconcile, horder]
  calc choices.sorter.sort _ (markedMessages messages')
      = sortBy _ (markedMessages messages') :=
        choices.sorter.stable _ _ (hfinal.toOrderOn.mono hmarked.subset)
    _ = sortBy _ (markedMessages messages) := (hfinal.sortBy_eq hmarked.symm).symm
    _ = choices'.sorter.sort _ (markedMessages messages) :=
        (choices'.sorter.stable _ _ hfinal.toOrderOn).symm

/-- **When the order of a channel is well defined.** -/
theorem wellDefinedOrder_iff (hids : (messages.map PairBackendMessage.id).Nodup) :
    WellDefinedOrder messages ↔
      GatewayClear messages ∧ ∀ order, CausalIds messages order → ClearOf order messages := by
  constructor
  · rintro ⟨hlinear, hdetermined⟩
    refine ⟨(linearOn_iff hids).mp hlinear, fun order hcausal => ?_⟩
    let choices := Choices.plain
    rw [hcausal.eq_graphOrder choices hlinear hids]
    refine orderOn_compareByIndex_iff.mp ?_
    -- if the comparator were no order, two runtimes would sort differently
    refine (SortAlgorithm.sort_eq_iff fun _ _ => compareByIndex_self _).mp ?_
    intro first second
    have hsame := hdetermined ⟨choices.iter, first⟩ ⟨choices.iter, second⟩ messages
      (List.Perm.refl _)
    have horder : ∀ sorter, graphOrder ⟨choices.iter, sorter⟩ messages =
        graphOrder choices messages := fun sorter =>
      graphOrder_eq hlinear hids (List.Perm.refl _)
    rw [messages_reconcile, messages_reconcile, horder first, horder second] at hsame
    exact hsame
  · rintro ⟨hgateway, hclear⟩
    have hlinear := (linearOn_iff hids).mpr hgateway
    exact wellDefinedOrder_of_clear hids hlinear fun choices =>
      hclear _ (exists_causalOrder choices hlinear hids)

/-- A message at a time with a gateway number. -/
def gatewayMessage (id : String) (ts gatewayMessageSeq : ℕ) : PairBackendMessage where
  id := id
  sender := "agent"
  text := "hello"
  ts := ts
  kind := "chat"
  origin := "host"
  originSeq := 0
  after := []
  missingAfter := []
  gatewayMessageId := ""
  gatewayMessageSeq := gatewayMessageSeq

theorem wellDefinedOrder_pair :
    WellDefinedOrder [gatewayMessage "msg_a" 1 2, gatewayMessage "msg_b" 2 0] := by
  have hids : ([gatewayMessage "msg_a" 1 2, gatewayMessage "msg_b" 2 0].map
      PairBackendMessage.id).Nodup := by decide
  have hgateway : GatewayClear [gatewayMessage "msg_a" 1 2, gatewayMessage "msg_b" 2 0] := by decide
  have hlinear := (linearOn_iff hids).mpr hgateway
  refine (wellDefinedOrder_iff hids).mpr ⟨hgateway, fun order hcausal => ?_⟩
  rw [hcausal.eq_graphOrder .plain hlinear hids]
  exact positionsClear_of_chat .plain hlinear hids (by decide)

/-- **The order of a channel is not always well defined.**  A message without a
gateway number stands between two whose numbers are the other way round. -/
theorem not_wellDefinedOrder :
    ¬∀ messages, (messages.map PairBackendMessage.id).Nodup → WellDefinedOrder messages := by
  intro hall
  have hids : ([gatewayMessage "msg_a" 1 2, gatewayMessage "msg_b" 2 0,
      gatewayMessage "msg_c" 3 1].map PairBackendMessage.id).Nodup := by decide
  have hclear := (linearOn_iff hids).mp (hall _ hids).linear
  revert hclear
  decide

end OpenClaw.Desktop

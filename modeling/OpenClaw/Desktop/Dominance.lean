import OpenClaw.Desktop.Channel
import OpenClaw.Desktop.MessageOrder

/-!
# A new message of the desktop dominates the channel

`buildOutgoingChatMessage` gives a message the leaves of the channel for its parents.
What reconciling leaves is a `ChannelLog`: one message of every id, ids and parents
trimmed.  On such a log the message stands on top of the leaves (`OnLeaves.onTop`).
The comparator plays no part: gateway numbers may make it no order at all.
-/

namespace OpenClaw.Desktop

open OpenClaw.Runtime StableSort Kahn Relation

/-- The chat message `child` names `parent`, which the channel has, too. -/
def NamedParent (messages : List PairBackendMessage) (parent child : String) : Prop :=
  parent ∈ knownIds messages ∧ ∃ message ∈ messages, isGraphChatMessage message = true ∧
    message.id = child ∧ parent ∈ message.after

/-- The messages of a channel, as appending and reconciling leave them. -/
structure ChannelLog where
  messages : List PairBackendMessage
  distinct : (knownIds messages).Nodup
  trimmed : ∀ id ∈ knownIds messages, unicodeTrim id = id
  after : ∀ message ∈ messages, isGraphChatMessage message = true →
    normalizeChatMessageIds message.after = message.after

/-- A chat message with a fresh id that nobody names, and the leaves for parents. -/
structure OnLeaves (messages : List PairBackendMessage) (message : PairBackendMessage) :
    Prop where
  graph : isGraphChatMessage message = true
  trimmed : unicodeTrim message.id = message.id
  fresh : message.id ∉ knownIds messages
  unreferenced : ∀ old ∈ messages, isGraphChatMessage old = true → message.id ∉ old.after
  after : message.after = collectChannelLeafIds messages

/-- The message is the only leaf, below all others, and last. -/
structure Dominates (choices : Choices) (messages : List PairBackendMessage)
    (message : PairBackendMessage) : Prop where
  leaf : collectChannelLeafIds (messages ++ [message]) = [message.id]
  ancestors : ∀ id ∈ knownIds messages, TransGen (NamedParent (messages ++ [message])) id message.id
  last : ∃ before, graphOrder choices (messages ++ [message]) = before ++ [message.id]

variable {choices : Choices} {messages : List PairBackendMessage} {message : PairBackendMessage}
  {log : ChannelLog} {id : String}

/-! ## The graph of a channel, by ids -/

theorem mem_knownIds : id ∈ knownIds messages ↔
    ∃ message ∈ messages, isGraphChatMessage message = true ∧ message.id = id := by
  unfold knownIds
  rw [List.mem_map]
  constructor
  · rintro ⟨message, hmem, rfl⟩
    obtain ⟨hmem, hgraph⟩ := List.mem_filter.mp hmem
    exact ⟨message, hmem, hgraph, rfl⟩
  · rintro ⟨message, hmem, hgraph, rfl⟩
    exact ⟨message, List.mem_filter.mpr ⟨hmem, hgraph⟩, rfl⟩

theorem namedParent_known (parent child : String) (hparent : NamedParent messages parent child) :
    parent ∈ knownIds messages ∧ child ∈ knownIds messages := by
  obtain ⟨hknown, message, hmem, hgraph, rfl, -⟩ := hparent
  exact ⟨hknown, mem_knownIds.mpr ⟨message, hmem, hgraph, rfl⟩⟩

theorem finite_knownIds (messages : List PairBackendMessage) :
    {id | id ∈ knownIds messages}.Finite := List.finite_toSet _

/-- The leaves the desktop collects are the leaves of the graph. -/
theorem mem_collectChannelLeafIds : id ∈ collectChannelLeafIds messages ↔
    Frontier.Leaf (· ∈ knownIds messages) (NamedParent messages) id := by
  have hreferenced : id ∈ ((messages.filter isGraphChatMessage).flatMap fun message =>
      message.after.filter fun id => decide (id ∈ knownIds messages)) ↔
        ∃ child, NamedParent messages id child := by
    rw [List.mem_flatMap]
    constructor
    · rintro ⟨message, hmem, hp⟩
      obtain ⟨hmem, hgraph⟩ := List.mem_filter.mp hmem
      obtain ⟨hafter, hknown⟩ := List.mem_filter.mp hp
      exact ⟨message.id, of_decide_eq_true hknown, message, hmem, hgraph, rfl, hafter⟩
    · rintro ⟨-, hknown, message, hmem, hgraph, -, hafter⟩
      exact ⟨message, List.mem_filter.mpr ⟨hmem, hgraph⟩,
        List.mem_filter.mpr ⟨hafter, decide_eq_true hknown⟩⟩
  unfold collectChannelLeafIds
  dsimp only
  rw [List.mem_map]
  constructor
  · rintro ⟨message, hmem, rfl⟩
    obtain ⟨hmem, hleaf⟩ := List.mem_filter.mp hmem
    refine ⟨List.mem_map_of_mem hmem, not_exists.mp fun hchild => ?_⟩
    exact of_decide_eq_true hleaf (hreferenced.mpr hchild)
  · rintro ⟨hknown, hchildless⟩
    obtain ⟨message, hmem, rfl⟩ := List.mem_map.mp hknown
    refine ⟨message, List.mem_filter.mpr ⟨hmem, decide_eq_true fun hreferred => ?_⟩, rfl⟩
    exact not_exists.mpr hchildless (hreferenced.mp hreferred)

namespace ChannelLog

theorem nodup_leafIds (log : ChannelLog) : (collectChannelLeafIds log.messages).Nodup :=
  log.distinct.sublist (List.filter_sublist.map _)

/-- The nodes of the analysis are the chat messages. -/
theorem mem_values (log : ChannelLog) :
    message ∈ (messageById (markedMessages log.messages)).values ↔
      ∃ old ∈ log.messages, isGraphChatMessage old = true ∧
        reconcileMessage log.messages old = message := by
  have hdistinct : (knownIds (markedMessages log.messages)).Nodup := by
    rw [knownIds_markedMessages]
    exact log.distinct
  rw [mem_values_iff_of_distinct hdistinct, markedMessages, List.mem_map]
  constructor
  · rintro ⟨⟨old, hold, rfl⟩, hgraph⟩
    rw [isGraphChatMessage_reconcileMessage] at hgraph
    exact ⟨old, hold, hgraph, rfl⟩
  · rintro ⟨old, hold, hgraph, rfl⟩
    refine ⟨⟨old, hold, rfl⟩, ?_⟩
    rw [isGraphChatMessage_reconcileMessage]
    exact hgraph

theorem after_reconcileMessage (log : ChannelLog) (hmem : message ∈ log.messages)
    (hgraph : isGraphChatMessage message = true) :
    (reconcileMessage log.messages message).after = message.after := by
  rw [reconcileMessage_of_graph hgraph]
  exact log.after message hmem hgraph

/-- What reconciling leaves of messages with distinct trimmed ids. -/
def reconciled (choices : Choices) (messages : List PairBackendMessage)
    (hdistinct : (knownIds messages).Nodup)
    (htrimmed : ∀ id ∈ knownIds messages, unicodeTrim id = id) : ChannelLog where
  messages := (reconcileChannelMessages choices messages).messages
  distinct := by
    have hperm := ((reconcile_perm choices messages).filter isGraphChatMessage).map
      PairBackendMessage.id
    apply hperm.nodup_iff.mpr
    show (knownIds (markedMessages messages)).Nodup
    rw [knownIds_markedMessages]
    exact hdistinct
  trimmed id hid := htrimmed id (mem_knownIds_reconcile.mp hid)
  after message hmem hgraph := by
    obtain ⟨old, -, rfl⟩ := mem_reconcile.mp hmem
    rw [isGraphChatMessage_reconcileMessage] at hgraph
    rw [reconcileMessage_of_graph hgraph]
    exact normalizeChatMessageIds_idem old.after

/-- The ids come out parents first. -/
theorem causalOrder_ids (log : ChannelLog) (choices : Choices) :
    CausalOrder (· ∈ knownIds log.messages) (NamedParent log.messages) (fun _ _ => .eq)
      (graphOrder choices log.messages) := by
  obtain ⟨ordered, heq, hcausal⟩ := topological_orderedIds choices
    (nodup_after_markedMessages log.messages)
  have hids : ∀ id, id ∈ knownIds log.messages ↔
      ∃ message, message ∈ (messageById (markedMessages log.messages)).values ∧
        message.id = id := by
    intro id
    rw [← knownIds_markedMessages log.messages, mem_knownIds_iff]
    exact List.mem_map
  have hinj : ∀ left right, left ∈ (messageById (markedMessages log.messages)).values →
      right ∈ (messageById (markedMessages log.messages)).values → left.id = right.id →
        left = right := fun left right hleft hright =>
    List.inj_on_of_nodup_map (nodup_ids_values _) hleft hright
  rw [graphOrder, heq]
  refine hcausal.map hinj hids ?_ (fun parent child hp => hp.1) fun _ _ _ _ => rfl
  intro message hmem p
  obtain ⟨old, hold, hgraph, rfl⟩ := log.mem_values.mp hmem
  constructor
  · rintro ⟨hknown, child, hchild, hcgraph, heq, hp⟩
    obtain ⟨parent, hparent, rfl⟩ := (hids p).mp hknown
    have hsame : child = old := List.inj_on_of_nodup_map log.distinct
      (List.mem_filter.mpr ⟨hchild, hcgraph⟩) (List.mem_filter.mpr ⟨hold, hgraph⟩)
      (heq.trans id_reconcileMessage)
    refine ⟨parent, hparent, ⟨hparent, hmem, ?_⟩, rfl⟩
    rw [log.after_reconcileMessage hold hgraph, ← hsame]
    exact hp
  · rintro ⟨parent, hparent, ⟨-, -, hp⟩, rfl⟩
    rw [log.after_reconcileMessage hold hgraph] at hp
    exact ⟨(hids _).mpr ⟨parent, hparent, rfl⟩, old, hold, hgraph, id_reconcileMessage.symm, hp⟩

/-! ## Appending -/

variable (hnew : OnLeaves log.messages message)
include hnew

theorem knownIds_append :
    knownIds (log.messages ++ [message]) = knownIds log.messages ++ [message.id] := by
  have hkept : [message].filter isGraphChatMessage = [message] :=
    List.filter_cons_of_pos hnew.graph
  unfold knownIds
  rw [List.filter_append, List.map_append, hkept, List.map_singleton]

theorem mem_knownIds_append :
    id ∈ knownIds (log.messages ++ [message]) ↔ id ∈ knownIds log.messages ∨ id = message.id := by
  rw [knownIds_append hnew, List.mem_append, List.mem_singleton]

/-- The channel with the message. -/
def append (log : ChannelLog) (message : PairBackendMessage)
    (hnew : OnLeaves log.messages message) : ChannelLog where
  messages := log.messages ++ [message]
  distinct := by
    rw [knownIds_append hnew]
    refine List.nodup_append.mpr ⟨log.distinct, List.nodup_singleton _, ?_⟩
    intro id hid other hother heq
    exact hnew.fresh (List.mem_singleton.mp hother ▸ heq ▸ hid)
  trimmed id hid := by
    rcases (mem_knownIds_append hnew).mp hid with hold | rfl
    · exact log.trimmed id hold
    · exact hnew.trimmed
  after other hmem hgraph := by
    rcases List.mem_append.mp hmem with hold | hlast
    · exact log.after other hold hgraph
    · obtain rfl := List.mem_singleton.mp hlast
      rw [hnew.after]
      refine ofList_trimmed_eq_self log.nodup_leafIds fun id hid => ?_
      obtain ⟨old, -, hgraph, rfl⟩ := mem_knownIds.mp (mem_collectChannelLeafIds.mp hid).1
      have htrim := log.trimmed old.id (mem_collectChannelLeafIds.mp hid).1
      exact ⟨htrim, htrim ▸ (of_decide_eq_true hgraph).2⟩

end ChannelLog

namespace OnLeaves

variable (hnew : OnLeaves log.messages message)
include hnew

/-- **The message stands on top of the leaves.** -/
theorem onTop : Frontier.OnTop (· ∈ knownIds log.messages) (NamedParent log.messages) message.id
    (· ∈ knownIds (log.messages ++ [message])) (NamedParent (log.messages ++ [message])) where
  fresh := hnew.fresh
  node_iff _ := ChannelLog.mem_knownIds_append hnew
  parent_iff p child := by
    have hids := fun id => @ChannelLog.mem_knownIds_append message log id hnew
    constructor
    · rintro ⟨hknown, other, hmem, hgraph, rfl, hp⟩
      rcases List.mem_append.mp hmem with hold | hlast
      · -- nobody names the new message
        have hne : p ≠ message.id := by
          rintro rfl
          exact hnew.unreferenced other hold hgraph hp
        exact Or.inl ⟨((hids p).mp hknown).resolve_right hne, other, hold, hgraph, rfl, hp⟩
      · obtain rfl := List.mem_singleton.mp hlast
        rw [hnew.after] at hp
        exact Or.inr ⟨rfl, mem_collectChannelLeafIds.mp hp⟩
    · rintro (⟨hknown, other, hold, hgraph, rfl, hp⟩ | ⟨rfl, hleaf⟩)
      · exact ⟨(hids p).mpr (Or.inl hknown), other, List.mem_append_left _ hold, hgraph, rfl, hp⟩
      · refine ⟨(hids p).mpr (Or.inl hleaf.1), message,
          List.mem_append_right _ (List.mem_singleton_self _), hnew.graph, rfl, ?_⟩
        rw [hnew.after]
        exact mem_collectChannelLeafIds.mpr hleaf

/-- **The message dominates the channel.** -/
theorem dominates (hacyclic : Frontier.Acyclic (NamedParent log.messages)) (choices : Choices) :
    Dominates choices log.messages message where
  leaf := by
    have hleaf : ∀ id, id ∈ collectChannelLeafIds (log.messages ++ [message]) ↔
        id ∈ [message.id] := fun id => by
      rw [mem_collectChannelLeafIds, List.mem_singleton]
      exact hnew.onTop.leaf_iff (finite_knownIds _) namedParent_known hacyclic
    exact List.perm_singleton.mp ((List.perm_ext_iff_of_nodup
      (log.append message hnew).nodup_leafIds (List.nodup_singleton _)).mpr hleaf)
  ancestors _ hid := hnew.onTop.transGen_top (finite_knownIds _) namedParent_known hacyclic hid
  last := ((log.append message hnew).causalOrder_ids choices).eq_concat_of_onTop hnew.onTop
    (finite_knownIds _) namedParent_known hacyclic

end OnLeaves

/-- The message `buildOutgoingChatMessage` makes is one of these, when its id is new. -/
theorem onLeaves_buildOutgoing {sender text : String} {ts : ℕ} (hblank : unicodeTrim id ≠ "")
    (htrim : unicodeTrim id = id) (hfresh : id ∉ knownIds messages)
    (hunreferenced : ∀ old ∈ messages, isGraphChatMessage old = true → id ∉ old.after) :
    OnLeaves messages (buildOutgoingChatMessage id messages sender text ts) where
  graph := by
    have hkind : normalizeChatMessageKind "chat" ≠ "system" := by decide
    exact decide_eq_true ⟨hkind, hblank⟩
  trimmed := htrim
  fresh := hfresh
  unreferenced := hunreferenced
  after := rfl

end OpenClaw.Desktop

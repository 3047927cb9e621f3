import OpenClaw.Lib.CausalOrder
import OpenClaw.Mobile.Session
import OpenClaw.Mobile.SessionLog

/-!
# A new message of the mobile dominates the log

`sendMessage` gives a message the leaves of the log for its parents.  In the graph
that the analysis makes of the log the message then stands on top of the leaves
(`OnLeaves.onTop`), so what a graph says of such a node holds of it: it is the only
leaf, every other message is its ancestor, and it is ordered last.
-/

namespace OpenClaw.Mobile

open OpenClaw.Runtime StableSort Kahn Relation

/-- The nodes of the graph of a log. -/
def sessionNodes (messages : List ChatMessage) : List MessageLike :=
  (likeById ((extractChatMessages messages).map toLike)).values

/-- The message `child` of the log names `parent`, which the log has, too. -/
def SessionParent (messages : List ChatMessage) (parent child : String) : Prop :=
  ∃ node ∈ sessionNodes messages, node.id = child ∧
    parent ∈ likeParents (sessionNodes messages) node

/-- A chat message with a fresh id that nobody names, and the leaves for parents. -/
structure OnLeaves (choices : Choices) (messages : List ChatMessage) (message : ChatMessage) :
    Prop where
  chat : message.kind ≠ .system
  named : jsTrim message.id ≠ ""
  fresh : jsTrim message.id ∉ chatIds messages
  unreferenced : ∀ old ∈ messages, old.kind ≠ .system →
    jsTrim message.id ∉ normalizeAfterIds old.after
  after : message.after = collectSessionLeafIds choices messages

/-- The message is the only leaf, below all others, and last. -/
structure Dominates (choices : Choices) (messages : List ChatMessage) (message : ChatMessage) :
    Prop where
  leaf : collectSessionLeafIds choices (messages ++ [message]) = [jsTrim message.id]
  ancestors : ∀ id ∈ chatIds messages,
    TransGen (SessionParent (messages ++ [message])) id (jsTrim message.id)
  last : ∃ before, (analyzeOpenClawPairChatGraph choices
    ((extractChatMessages (messages ++ [message])).map toLike)).ordered.map MessageLike.id =
      before ++ [jsTrim message.id]

variable {choices : Choices} {messages : List ChatMessage} {message : ChatMessage} {id : String}

/-! ## The graph of a log, by ids -/

/-- The node of a message. -/
def nodeOf (message : ChatMessage) : MessageLike :=
  ⟨jsTrim (jsTrim message.id), normalizeAfterIds (normalizeChatMessage message).after,
    (normalizeMessageTs message).orZero⟩

/-- The entries of `likeById`. -/
def likeEntries (messages : List ChatMessage) : List (String × MessageLike) :=
  (messages.filter fun message => decide (message.kind ≠ .system ∧ jsTrim message.id ≠ "")).map
    fun message => (jsTrim message.id, nodeOf message)

theorem likeById_extracted (messages : List ChatMessage) :
    likeById ((extractChatMessages messages).map toLike) = .ofList (likeEntries messages) := by
  have hkeep : (((extractChatMessages messages).map toLike).filter fun like =>
      decide (jsTrim like.id ≠ "")) = (extractChatMessages messages).map toLike := by
    refine List.filter_eq_self.mpr fun like hlike => ?_
    obtain ⟨kept, hkept, rfl⟩ := List.mem_map.mp hlike
    obtain ⟨hid, hne⟩ := trim_extracted hkept
    rw [decide_eq_true_eq, toLike]
    exact hid.symm ▸ hne
  unfold likeById
  rw [hkeep, List.map_map, extractChatMessages, List.filter_map, List.map_map]
  refine congrArg OrderedMap.ofList (List.map_congr_left fun message _ => ?_)
  exact congrArg (Prod.mk · (nodeOf message)) (jsTrim_jsTrim message.id)

theorem keys_likeEntries (messages : List ChatMessage) :
    (likeEntries messages).map Prod.fst = chatIds messages := by
  rw [likeEntries, List.map_map, chatIds_eq]
  rfl

/-- Every node is that of a chat message, under its id. -/
theorem key_likeById {node : MessageLike}
    (hget : (likeById ((extractChatMessages messages).map toLike)).get id = some node) :
    node.id = id ∧ ∃ old ∈ messages, old.kind ≠ .system ∧ nodeOf old = node := by
  rw [likeById_extracted] at hget
  obtain ⟨old, hold, heq⟩ := List.mem_map.mp (OrderedMap.mem_of_get_ofList hget)
  obtain ⟨rfl, rfl⟩ := Prod.mk.inj heq
  obtain ⟨hmem, hchat⟩ := List.mem_filter.mp hold
  exact ⟨jsTrim_jsTrim old.id, old, hmem, (of_decide_eq_true hchat).1, rfl⟩

theorem ids_sessionNodes (messages : List ChatMessage) :
    (sessionNodes messages).map MessageLike.id =
      (likeById ((extractChatMessages messages).map toLike)).keys := by
  rw [sessionNodes, OrderedMap.values, OrderedMap.keys, List.map_map]
  exact List.map_congr_left fun entry hentry =>
    (key_likeById (OrderedMap.get_eq_some_iff.mpr hentry)).1

theorem nodup_ids_sessionNodes (messages : List ChatMessage) :
    ((sessionNodes messages).map MessageLike.id).Nodup := by
  rw [ids_sessionNodes]
  exact (likeById ((extractChatMessages messages).map toLike)).nodup_keys

theorem mem_ids_sessionNodes :
    id ∈ (sessionNodes messages).map MessageLike.id ↔ id ∈ chatIds messages := by
  rw [ids_sessionNodes, likeById_extracted, ← keys_likeEntries]
  exact OrderedMap.mem_keys_ofList

theorem after_nodeOf (hkind : message.kind ≠ .system) :
    normalizeAfterIds (nodeOf message).after = normalizeAfterIds message.after := by
  have hafter : (normalizeChatMessage message).after = normalizeAfterIds message.after :=
    if_neg hkind
  show normalizeAfterIds (normalizeAfterIds (normalizeChatMessage message).after) = _
  rw [hafter, normalizeAfterIds_idem, normalizeAfterIds_idem]

/-- The parents of a node are those that some chat message names. -/
theorem mem_after_of_node {node : MessageLike} (hnode : node ∈ sessionNodes messages) {p : String}
    (hp : p ∈ normalizeAfterIds node.after) :
    ∃ old ∈ messages, old.kind ≠ .system ∧ p ∈ normalizeAfterIds old.after := by
  obtain ⟨key, hget⟩ := OrderedMap.mem_values_iff.mp hnode
  obtain ⟨-, old, hold, hkind, rfl⟩ := key_likeById hget
  exact ⟨old, hold, hkind, after_nodeOf hkind ▸ hp⟩

theorem sessionParent_known (parent child : String)
    (hparent : SessionParent messages parent child) :
    parent ∈ chatIds messages ∧ child ∈ chatIds messages := by
  obtain ⟨node, hnode, rfl, hp⟩ := hparent
  exact ⟨mem_ids_sessionNodes.mp (of_decide_eq_true (List.mem_filter.mp hp).2),
    mem_ids_sessionNodes.mp (List.mem_map_of_mem hnode)⟩

theorem finite_chatIds (messages : List ChatMessage) : {id | id ∈ chatIds messages}.Finite :=
  List.finite_toSet _

/-- The analysis orders the nodes. -/
theorem ordered_perm (choices : Choices) (messages : List ChatMessage) :
    ((orderLikes choices (sessionNodes messages)).map MessageLike.id).Perm
      ((sessionNodes messages).map MessageLike.id) :=
  (orderLikes_perm choices (nodup_ids_sessionNodes messages)).map _

/-- The leaves of the analysis are the leaves of the graph. -/
theorem mem_collectSessionLeafIds : id ∈ collectSessionLeafIds choices messages ↔
    Frontier.Leaf (· ∈ chatIds messages) (SessionParent messages) id := by
  have hreferenced : id ∈ (sessionNodes messages).flatMap (likeParents (sessionNodes messages)) ↔
      ∃ child, SessionParent messages id child := by
    rw [List.mem_flatMap]
    constructor
    · rintro ⟨node, hnode, hp⟩
      exact ⟨node.id, node, hnode, rfl, hp⟩
    · rintro ⟨-, node, hnode, -, hp⟩
      exact ⟨node, hnode, hp⟩
  show id ∈ ((orderLikes choices (sessionNodes messages)).map MessageLike.id).filter (fun id =>
    decide (id ∉ (sessionNodes messages).flatMap (likeParents (sessionNodes messages)))) ↔ _
  rw [List.mem_filter, (ordered_perm choices messages).mem_iff, mem_ids_sessionNodes,
    decide_eq_true_eq]
  refine and_congr_right fun _ => (not_congr hreferenced).trans ?_
  exact not_exists

theorem nodup_collectSessionLeafIds (choices : Choices) (messages : List ChatMessage) :
    (collectSessionLeafIds choices messages).Nodup :=
  ((ordered_perm choices messages).nodup_iff.mpr (nodup_ids_sessionNodes messages)).filter _

/-- The ids come out parents first. -/
theorem causalOrder_ids (choices : Choices) (messages : List ChatMessage) :
    CausalOrder (· ∈ chatIds messages) (SessionParent messages) (fun _ _ => .eq)
      ((orderLikes choices (sessionNodes messages)).map MessageLike.id) := by
  have hwf := wellFormed_likeGraph choices (nodup_ids_sessionNodes messages)
  refine (causalOrder_ordered hwf).forget.map ?_ ?_ ?_ ?_ fun _ _ _ _ => rfl
  · exact fun left right hleft hright => List.inj_on_of_nodup_map hwf.nodup_keys hleft hright
  · intro id
    rw [← mem_ids_sessionNodes]
    exact List.mem_map
  · intro node hnode p
    constructor
    · rintro ⟨other, hother, heq, hp⟩
      obtain rfl := List.inj_on_of_nodup_map hwf.nodup_keys hother hnode heq
      obtain ⟨parent, hparent, rfl⟩ := List.mem_map.mp (hwf.parent_known other hother p hp)
      exact ⟨parent, hparent, ⟨hparent, hother, hp⟩, rfl⟩
    · rintro ⟨parent, -, hp, rfl⟩
      exact ⟨node, hnode, rfl, hp.2.2⟩
  · exact fun p child hp => hp.1

/-! ## Appending -/

namespace OnLeaves

variable (hnew : OnLeaves choices messages message)
include hnew

theorem sessionNodes_append :
    sessionNodes (messages ++ [message]) = sessionNodes messages ++ [nodeOf message] := by
  have hentries : likeEntries (messages ++ [message]) =
      likeEntries messages ++ [(jsTrim message.id, nodeOf message)] := by
    have hkept : [message].filter (fun message =>
        decide (message.kind ≠ .system ∧ jsTrim message.id ≠ "")) = [message] :=
      List.filter_cons_of_pos (decide_eq_true ⟨hnew.chat, hnew.named⟩)
    unfold likeEntries
    rw [List.filter_append, List.map_append, hkept]
    rfl
  have hfresh : jsTrim message.id ∉ (likeEntries messages).map Prod.fst := by
    rw [keys_likeEntries]
    exact hnew.fresh
  unfold sessionNodes OrderedMap.values
  rw [likeById_extracted, likeById_extracted, hentries, OrderedMap.entries_ofList_concat hfresh,
    List.map_append]
  rfl

theorem mem_chatIds_append :
    id ∈ chatIds (messages ++ [message]) ↔ id ∈ chatIds messages ∨ id = jsTrim message.id := by
  rw [← mem_ids_sessionNodes, hnew.sessionNodes_append, List.map_append, List.mem_append,
    mem_ids_sessionNodes]
  refine or_congr_right (List.mem_singleton.trans ?_)
  exact iff_of_eq (congrArg (id = ·) (jsTrim_jsTrim message.id))

/-- The parents of the new node are the leaves. -/
theorem mem_after {p : String} : p ∈ normalizeAfterIds (nodeOf message).after ↔
    Frontier.Leaf (· ∈ chatIds messages) (SessionParent messages) p := by
  have hclean : ∀ id ∈ collectSessionLeafIds choices messages, jsTrim id = id ∧ id ≠ "" := by
    intro id hid
    obtain ⟨old, -, -, hne, rfl⟩ := mem_chatIds.mp (mem_collectSessionLeafIds.mp hid).1
    exact ⟨jsTrim_jsTrim old.id, hne⟩
  have hsame : normalizeAfterIds (collectSessionLeafIds choices messages) =
      collectSessionLeafIds choices messages :=
    ofList_trimmed_eq_self (nodup_collectSessionLeafIds choices messages) hclean
  rw [after_nodeOf hnew.chat, hnew.after, hsame]
  exact mem_collectSessionLeafIds

/-- **The message stands on top of the leaves.** -/
theorem onTop : Frontier.OnTop (· ∈ chatIds messages) (SessionParent messages) (jsTrim message.id)
    (· ∈ chatIds (messages ++ [message])) (SessionParent (messages ++ [message])) where
  fresh := hnew.fresh
  node_iff _ := hnew.mem_chatIds_append
  parent_iff p child := by
    have hids : ∀ id, id ∈ (sessionNodes (messages ++ [message])).map MessageLike.id ↔
        id ∈ chatIds messages ∨ id = jsTrim message.id := fun id =>
      mem_ids_sessionNodes.trans hnew.mem_chatIds_append
    constructor
    · rintro ⟨node, hnode, rfl, hp⟩
      obtain ⟨hafter, hknown⟩ := List.mem_filter.mp hp
      rw [decide_eq_true_eq, hids] at hknown
      rw [hnew.sessionNodes_append, List.mem_append, List.mem_singleton] at hnode
      rcases hnode with hold | rfl
      · -- nobody names the new message
        have hne : p ≠ jsTrim message.id := by
          rintro rfl
          obtain ⟨old, hmem, hkind, hnamed⟩ := mem_after_of_node hold hafter
          exact hnew.unreferenced old hmem hkind hnamed
        refine Or.inl ⟨node, hold, rfl, List.mem_filter.mpr ⟨hafter, decide_eq_true ?_⟩⟩
        exact mem_ids_sessionNodes.mpr (hknown.resolve_right hne)
      · exact Or.inr ⟨jsTrim_jsTrim message.id, hnew.mem_after.mp hafter⟩
    · rintro (⟨node, hnode, rfl, hp⟩ | ⟨rfl, hleaf⟩)
      · obtain ⟨hafter, hknown⟩ := List.mem_filter.mp hp
        refine ⟨node, ?_, rfl, List.mem_filter.mpr ⟨hafter, decide_eq_true ?_⟩⟩
        · rw [hnew.sessionNodes_append]
          exact List.mem_append_left _ hnode
        · exact (hids p).mpr (Or.inl (mem_ids_sessionNodes.mp (of_decide_eq_true hknown)))
      · refine ⟨nodeOf message, ?_, jsTrim_jsTrim message.id, List.mem_filter.mpr
          ⟨hnew.mem_after.mpr hleaf, decide_eq_true ((hids p).mpr (Or.inl hleaf.1))⟩⟩
        rw [hnew.sessionNodes_append]
        exact List.mem_append_right _ (List.mem_singleton_self _)

/-- **The message dominates the log.** -/
theorem dominates (hacyclic : Frontier.Acyclic (SessionParent messages)) :
    Dominates choices messages message where
  leaf := by
    have hleaf : ∀ id, id ∈ collectSessionLeafIds choices (messages ++ [message]) ↔
        id ∈ [jsTrim message.id] := fun id => by
      rw [mem_collectSessionLeafIds, List.mem_singleton]
      exact hnew.onTop.leaf_iff (finite_chatIds messages) sessionParent_known hacyclic
    exact List.perm_singleton.mp ((List.perm_ext_iff_of_nodup
      (nodup_collectSessionLeafIds choices _) (List.nodup_singleton _)).mpr hleaf)
  ancestors _ hid :=
    hnew.onTop.transGen_top (finite_chatIds messages) sessionParent_known hacyclic hid
  last := (causalOrder_ids choices (messages ++ [message])).eq_concat_of_onTop hnew.onTop
    (finite_chatIds messages) sessionParent_known hacyclic

end OnLeaves

/-- The message `sendMessage` appends is one of these, when its id is new. -/
theorem onLeaves_ownMessage {env : Env} {text : String} {options : SendOptions}
    (hmessage : message =
      localMessage env text (ownMessage (draftMessage choices env messages text options)))
    (hnamed : jsTrim message.id ≠ "") (hfresh : jsTrim message.id ∉ chatIds messages)
    (hunreferenced : ∀ old ∈ messages, old.kind ≠ .system →
      jsTrim message.id ∉ normalizeAfterIds old.after) :
    OnLeaves choices messages message where
  chat := by
    rw [hmessage]
    exact fun hsystem => ChatKind.noConfusion hsystem
  named := hnamed
  fresh := hfresh
  unreferenced := hunreferenced
  after := by
    rw [hmessage]
    rfl

end OpenClaw.Mobile

import OpenClaw.Chat.Agreement
import OpenClaw.Lib.Reordering
import OpenClaw.Mobile.Copies

/-!
# Reconciling a session again

Stored sessions are reconciled at every load and at every change.  On a log of chat
messages a second time changes nothing (`reconcile_again`): the graph is ordered again
with its nodes in the order they came out in.

What a reconciliation gives depends on the last copies of the messages alone, as long as
the comparator tells the messages apart (`reconcile_eq_of_copies`).  Then two messages may
arrive in either order.  `localeCompare` does not tell apart ids that Unicode takes for
equivalent, and two such messages of one time stay in the order they arrived in
(`settles_iff`).
-/

namespace OpenClaw.Chat

open OpenClaw.Runtime OpenClaw.Mobile StableSort Kahn Positions

attribute [ext] ChatMessage

variable {choices : Mobile.Choices} {message left right : ChatMessage}
  {messages messages' : List ChatMessage} {missingIds : List String} {key : String}

def ChatOnly (messages : List ChatMessage) : Prop := ∀ message ∈ messages, message.kind ≠ .system

/-! ## Normal messages -/

theorem orZero_orZero (n : JsNumber) : n.orZero.orZero = n.orZero := by
  cases n <;> rfl

/-- A message is normalized once. -/
theorem normalize_normalize (hkind : message.kind ≠ .system) :
    normalizeChatMessage (normalizeChatMessage message) = normalizeChatMessage message := by
  have hstatus := normalizeDeliveryStatus_normalize message
  have hagain : (normalizeChatMessage message).kind ≠ .system := hkind
  have hafter : ∀ {chat : ChatMessage}, chat.kind ≠ .system →
      (normalizeChatMessage chat).after = normalizeAfterIds chat.after := fun h => if_neg h
  have hmissing : ∀ {chat : ChatMessage}, chat.kind ≠ .system →
      (normalizeChatMessage chat).missingAfter = normalizeAfterIds chat.missingAfter :=
    fun h => if_neg h
  have horigin : ∀ {chat : ChatMessage}, chat.kind ≠ .system →
      (normalizeChatMessage chat).origin = some (normalizeOrigin chat) := fun h => if_neg h
  have hseq : ∀ {chat : ChatMessage}, chat.kind ≠ .system →
      (normalizeChatMessage chat).originSeq = .ofCount (normalizeOriginSeq chat) :=
    fun h => if_neg h
  apply ChatMessage.ext
  case id => exact jsTrim_jsTrim message.id
  case ts => exact orZero_orZero message.ts
  case origin => rw [horigin hagain, horigin hkind, normalizeOrigin_normalize hkind]
  case originSeq => rw [hseq hagain, hseq hkind, normalizeOriginSeq_normalize hkind]
  case after => rw [hafter hagain, hafter hkind, normalizeAfterIds_idem]
  case missingAfter => rw [hmissing hagain, hmissing hkind, normalizeAfterIds_idem]
  case deliveryStatus => exact hstatus
  case deliveryError =>
    show (if normalizeDeliveryStatus (normalizeChatMessage message) = some .failed then
      jsTrim (normalizeChatMessage message).deliveryError else "") = _
    rw [hstatus]
    show (if normalizeDeliveryStatus message = some .failed then
      jsTrim (if normalizeDeliveryStatus message = some .failed then jsTrim message.deliveryError
        else "") else "") = if normalizeDeliveryStatus message = some .failed then
          jsTrim message.deliveryError else ""
    split
    · exact jsTrim_jsTrim message.deliveryError
    · rfl
  all_goals rfl

/-- A chat message with an id, in its normal form. -/
structure Normal (message : ChatMessage) : Prop where
  chat : message.kind = .chat
  ne : message.id ≠ ""
  normal : normalizeChatMessage message = message

namespace Normal

variable (hnormal : Normal message)
include hnormal

theorem kind : message.kind ≠ .system := by
  rw [hnormal.chat]
  exact fun h => ChatKind.noConfusion h

theorem trimmed : jsTrim message.id = message.id := congrArg ChatMessage.id hnormal.normal

theorem ts : message.ts.orZero = message.ts := congrArg ChatMessage.ts hnormal.normal

theorem after : normalizeAfterIds message.after = message.after := by
  have hafter : (normalizeChatMessage message).after = normalizeAfterIds message.after :=
    if_neg hnormal.kind
  calc normalizeAfterIds message.after = (normalizeChatMessage message).after := hafter.symm
    _ = message.after := congrArg ChatMessage.after hnormal.normal

theorem after_finish : (finishMessage missingIds message).after = message.after := hnormal.after

theorem toLike_finish : toLike (finishMessage missingIds message) = toLike message := by
  rw [toLike, toLike, hnormal.after_finish]
  rfl

/-- Finishing a normal message leaves it normal. -/
theorem finish (missingIds : List String) : Normal (finishMessage missingIds message) where
  chat := hnormal.chat
  ne := hnormal.ne
  normal := by
    apply ChatMessage.ext
    case after =>
      calc (normalizeChatMessage (finishMessage missingIds message)).after
          = normalizeAfterIds (finishMessage missingIds message).after := if_neg hnormal.kind
        _ = (finishMessage missingIds message).after := by
          rw [hnormal.after_finish, hnormal.after]
    case missingAfter =>
      have hclean : ∀ id ∈ (finishMessage missingIds message).missingAfter,
          jsTrim id = id ∧ id ≠ "" := by
        intro id hid
        obtain ⟨hmem, hne⟩ := List.mem_filter.mp
          (OrderedSet.mem_ofList.mp (List.mem_filter.mp hid).1)
        obtain ⟨old, -, rfl⟩ := List.mem_map.mp hmem
        exact ⟨jsTrim_jsTrim old, of_decide_eq_true hne⟩
      calc (normalizeChatMessage (finishMessage missingIds message)).missingAfter
          = normalizeAfterIds (finishMessage missingIds message).missingAfter :=
            if_neg hnormal.kind
        _ = (finishMessage missingIds message).missingAfter :=
          ofList_trimmed_eq_self ((OrderedSet.nodup_ofList _).filter _) hclean
    case id => exact hnormal.trimmed
    case ts => exact hnormal.ts
    case origin =>
      have heq : (normalizeChatMessage message).origin = message.origin :=
        congrArg ChatMessage.origin hnormal.normal
      exact heq
    case originSeq =>
      have heq : (normalizeChatMessage message).originSeq = message.originSeq :=
        congrArg ChatMessage.originSeq hnormal.normal
      exact heq
    case deliveryStatus =>
      have heq : (normalizeChatMessage message).deliveryStatus = message.deliveryStatus :=
        congrArg ChatMessage.deliveryStatus hnormal.normal
      exact heq
    case deliveryError =>
      have heq : (normalizeChatMessage message).deliveryError = message.deliveryError :=
        congrArg ChatMessage.deliveryError hnormal.normal
      exact heq
    all_goals rfl

end Normal

theorem normal_normalize (hkind : message.kind ≠ .system) (hid : jsTrim message.id ≠ "") :
    Normal (normalizeChatMessage message) where
  chat := by
    rw [kind_normalize]
    cases hcase : message.kind with
    | chat => rfl
    | system => exact absurd hcase hkind
  ne := hid
  normal := normalize_normalize hkind

/-! ## The graph a reconciliation orders -/

/-- The nodes of the graph. -/
def chatNodes (messages : List ChatMessage) : List MessageLike :=
  (likeById ((messagesOfKind .chat messages).values.map toLike)).values

theorem normal_of_get (hget : (messagesOfKind .chat messages).get key = some message) :
    Normal message := by
  obtain ⟨hid, hkind, hne, old, -, rfl⟩ := key_messagesOfKind hget
  subst hid
  refine normal_normalize ?_ hne
  rw [← kind_normalize, hkind]
  exact fun h => ChatKind.noConfusion h

theorem normal_of_mem_values (hmem : message ∈ (messagesOfKind .chat messages).values) :
    Normal message := by
  obtain ⟨key, hget⟩ := OrderedMap.mem_values_iff.mp hmem
  exact normal_of_get hget

/-- The messages by id stand under their ids. -/
theorem get_eq_some_iff : (messagesOfKind .chat messages).get key = some message ↔
    message ∈ (messagesOfKind .chat messages).values ∧ message.id = key := by
  constructor
  · intro hget
    exact ⟨OrderedMap.mem_values_of_get hget, (key_messagesOfKind hget).1⟩
  · rintro ⟨hmem, rfl⟩
    obtain ⟨key, hget⟩ := OrderedMap.mem_values_iff.mp hmem
    rwa [(key_messagesOfKind hget).1]

/-- The nodes are what the graph reads of the messages. -/
theorem chatNodes_eq (messages : List ChatMessage) :
    chatNodes messages = (messagesOfKind .chat messages).values.map toLike := by
  have hids : ((messagesOfKind .chat messages).values.map toLike).map
      (fun like => jsTrim like.id) = (messagesOfKind .chat messages).keys := by
    rw [← ids_messagesOfKind, List.map_map]
    exact List.map_congr_left fun message hmem => (normal_of_mem_values hmem).trimmed
  have hne : ∀ like ∈ (messagesOfKind .chat messages).values.map toLike, jsTrim like.id ≠ "" := by
    intro like hlike
    obtain ⟨message, hmem, rfl⟩ := List.mem_map.mp hlike
    have hnormal := normal_of_mem_values hmem
    exact hnormal.trimmed.symm ▸ hnormal.ne
  rw [chatNodes, values_likeById (hids ▸ (messagesOfKind .chat messages).nodup_keys) hne,
    List.map_map]
  refine List.map_congr_left fun message hmem => ?_
  have hnormal := normal_of_mem_values hmem
  show (⟨jsTrim message.id, normalizeAfterIds message.after, message.ts.orZero⟩ : MessageLike) = _
  rw [hnormal.trimmed, hnormal.after, hnormal.ts]
  rfl

theorem nodup_ids_chatNodes (messages : List ChatMessage) :
    ((chatNodes messages).map MessageLike.id).Nodup := by
  rw [chatNodes, ids_likeById]
  exact (messagesOfKind .chat messages).nodup_keys

/-- A node is what the graph reads of the message under its id. -/
theorem mem_chatNodes {node : MessageLike} : node ∈ chatNodes messages ↔
    ((messagesOfKind .chat messages).get node.id).map toLike = some node := by
  rw [chatNodes_eq, List.mem_map, Option.map_eq_some_iff]
  constructor
  · rintro ⟨message, hmem, rfl⟩
    exact ⟨message, get_eq_some_iff.mpr ⟨hmem, rfl⟩, rfl⟩
  · rintro ⟨message, hget, heq⟩
    exact ⟨message, (get_eq_some_iff.mp hget).1, heq⟩

theorem orderLikes_chatNodes_perm (choices : Mobile.Choices) (messages : List ChatMessage) :
    (orderLikes choices (chatNodes messages)).Perm (chatNodes messages) :=
  orderLikes_perm choices (nodup_ids_chatNodes messages)

/-- The analysis of a reconciliation. -/
def chatAnalysis (choices : Mobile.Choices) (messages : List ChatMessage) : ChatGraphAnalysis :=
  analyzeOpenClawPairChatGraph choices ((messagesOfKind .chat messages).values.map toLike)

/-- The analysis depends on the order alone. -/
theorem chatAnalysis_eq (hordered : orderLikes choices (chatNodes messages) =
    orderLikes choices (chatNodes messages')) :
    chatAnalysis choices messages = chatAnalysis choices messages' := by
  have hperm : (chatNodes messages).Perm (chatNodes messages') := by
    have hleft := orderLikes_chatNodes_perm choices messages
    rw [hordered] at hleft
    exact hleft.symm.trans (orderLikes_chatNodes_perm choices messages')
  have hknown : ∀ id, id ∈ (chatNodes messages).map MessageLike.id ↔
      id ∈ (chatNodes messages').map MessageLike.id := fun _ => (hperm.map _).mem_iff
  have hparents : likeParents (chatNodes messages) = likeParents (chatNodes messages') := by
    funext node
    exact List.filter_congr fun id _ => decide_eq_decide.mpr (hknown id)
  have hleaves : ∀ id, id ∈ (chatNodes messages).flatMap (likeParents (chatNodes messages)) ↔
      id ∈ (chatNodes messages').flatMap (likeParents (chatNodes messages')) := fun id => by
    rw [hparents]
    exact (hperm.flatMap_right _).mem_iff
  have hmissing : sortStrings (OrderedSet.ofList ((chatNodes messages).flatMap fun node =>
        (normalizeAfterIds node.after).filter fun id =>
          decide (id ∉ (chatNodes messages).map MessageLike.id))) =
      sortStrings (OrderedSet.ofList ((chatNodes messages').flatMap fun node =>
        (normalizeAfterIds node.after).filter fun id =>
          decide (id ∉ (chatNodes messages').map MessageLike.id))) := by
    simp only [hknown]
    refine sortStrings_eq_of_mem_iff (OrderedSet.nodup_ofList _) (OrderedSet.nodup_ofList _)
      fun id => ?_
    rw [OrderedSet.mem_ofList, OrderedSet.mem_ofList]
    exact (hperm.flatMap_right _).mem_iff
  unfold chatAnalysis analyzeOpenClawPairChatGraph
  dsimp only
  unfold chatNodes at hordered hmissing hleaves
  rw [hordered, hmissing, ChatGraphAnalysis.mk.injEq]
  refine ⟨rfl, ?_, rfl⟩
  exact List.filter_congr fun id _ => decide_eq_decide.mpr (not_congr (hleaves id))

/-! ## What a reconciliation gives -/

/-- Finishing looks at what a message names, not at what it missed before. -/
theorem finish_finish (missingIds missingIds' : List String) (message : ChatMessage) :
    finishMessage missingIds (finishMessage missingIds' message) =
      finishMessage missingIds message := by
  unfold finishMessage
  dsimp only
  rw [normalizeAfterIds_idem]

theorem mem_orderedChatMessages : message ∈ orderedChatMessages choices messages ↔
    ∃ kept ∈ (messagesOfKind .chat messages).values,
      finishMessage (chatAnalysis choices messages).missingIds kept = message := by
  have hordered : (chatAnalysis choices messages).ordered =
      orderLikes choices (chatNodes messages) := rfl
  have hsame : orderedChatMessages choices messages =
      (chatAnalysis choices messages).ordered.filterMap fun like =>
        ((messagesOfKind .chat messages).get like.id).map
          (finishMessage (chatAnalysis choices messages).missingIds) := by
    unfold orderedChatMessages chatAnalysis
    rfl
  rw [hsame, hordered, List.mem_filterMap]
  constructor
  · rintro ⟨like, -, hget⟩
    obtain ⟨kept, hkept, rfl⟩ := Option.map_eq_some_iff.mp hget
    exact ⟨kept, (get_eq_some_iff.mp hkept).1, rfl⟩
  · rintro ⟨kept, hkept, rfl⟩
    have hget := get_eq_some_iff.mpr ⟨hkept, rfl⟩
    refine ⟨toLike kept, (orderLikes_chatNodes_perm choices messages).mem_iff.mpr ?_, ?_⟩
    · rw [chatNodes_eq]
      exact List.mem_map_of_mem hkept
    · show ((messagesOfKind .chat messages).get kept.id).map _ = _
      rw [hget, Option.map_some]

theorem normal_of_mem_ordered (hmem : message ∈ orderedChatMessages choices messages) :
    Normal message := by
  obtain ⟨kept, hkept, rfl⟩ := mem_orderedChatMessages.mp hmem
  exact (normal_of_mem_values hkept).finish _

/-- The messages stand as the graph orders them. -/
theorem toLike_orderedChatMessages (choices : Mobile.Choices) (messages : List ChatMessage) :
    (orderedChatMessages choices messages).map toLike =
      orderLikes choices (chatNodes messages) := by
  show ((orderLikes choices (chatNodes messages)).filterMap fun like =>
    ((messagesOfKind .chat messages).get like.id).map
      (finishMessage (chatAnalysis choices messages).missingIds)).map toLike = _
  have hkept : ∀ like ∈ orderLikes choices (chatNodes messages),
      (((messagesOfKind .chat messages).get like.id).map
        (finishMessage (chatAnalysis choices messages).missingIds)).map toLike = some like := by
    intro like hlike
    have hnode := (orderLikes_chatNodes_perm choices messages).mem_iff.mp hlike
    obtain ⟨message, hget, heq⟩ := Option.map_eq_some_iff.mp (mem_chatNodes.mp hnode)
    rw [hget, Option.map_some, Option.map_some, (normal_of_get hget).toLike_finish, heq]
  rw [List.map_filterMap, List.filterMap_congr hkept, List.filterMap_some]

theorem ids_orderedChatMessages (choices : Mobile.Choices) (messages : List ChatMessage) :
    (orderedChatMessages choices messages).map ChatMessage.id =
      (orderLikes choices (chatNodes messages)).map MessageLike.id := by
  rw [← toLike_orderedChatMessages, List.map_map]
  rfl

theorem nodup_ids_ordered (choices : Mobile.Choices) (messages : List ChatMessage) :
    ((orderedChatMessages choices messages).map ChatMessage.id).Nodup := by
  rw [ids_orderedChatMessages]
  exact ((orderLikes_chatNodes_perm choices messages).map _).nodup_iff.mpr
    (nodup_ids_chatNodes messages)

/-- Sorting messages by the positions of their own ids does nothing. -/
theorem sort_by_own_positions (choices : Mobile.Choices)
    (hnodup : (messages.map ChatMessage.id).Nodup) :
    choices.sorter.sort (compareSessionOrder choices (messages.map ChatMessage.id)) messages =
      messages := by
  let position : ChatMessage → ℕ := fun message =>
    ((messages.map ChatMessage.id).idxOf? message.id).getD 0
  let byPosition : ChatMessage → ChatMessage → Ordering := fun left right =>
    compare (position left) (position right)
  have htrans : Std.TransCmp byPosition := transCmp_pullback (compare : ℕ → ℕ → Ordering) position
  have hagree : ∀ left ∈ messages, ∀ right ∈ messages,
      compareSessionOrder choices (messages.map ChatMessage.id) left right =
        byPosition left right := by
    intro left hleft right hright
    obtain ⟨i, hi⟩ := exists_idxOf? (List.mem_map_of_mem (f := ChatMessage.id) hleft)
    obtain ⟨j, hj⟩ := exists_idxOf? (List.mem_map_of_mem (f := ChatMessage.id) hright)
    show compareSessionOrder choices _ left right = compare (Option.getD _ 0) (Option.getD _ 0)
    rw [compareSessionOrder, hi, hj]
    rfl
  have hsorted : messages.Pairwise (Below byPosition) := by
    have hpositions := List.pairwise_map.mp (pairwise_positions hnodup)
    refine hpositions.imp_of_mem fun {left right} hleft hright hlt => ?_
    obtain ⟨i, hi⟩ := exists_idxOf? (List.mem_map_of_mem (f := ChatMessage.id) hleft)
    obtain ⟨j, hj⟩ := exists_idxOf? (List.mem_map_of_mem (f := ChatMessage.id) hright)
    have hle : position left ≤ position right := by
      show Option.getD _ 0 ≤ Option.getD _ 0
      rw [hi, hj]
      exact (hlt i j hi hj).le
    exact Nat.isLE_compare.mpr hle
  rw [choices.sorter.stable _ _ ((orderOn_of_trans messages).congr hagree), sortBy_congr hagree,
    sortBy_eq_self hsorted]

theorem values_system_eq_nil (hchat : ChatOnly messages) :
    (messagesOfKind .system messages).values = [] := by
  apply List.eq_nil_iff_forall_not_mem.mpr
  intro message hmem
  obtain ⟨key, hget⟩ := OrderedMap.mem_values_iff.mp hmem
  obtain ⟨-, hkind, -, old, hold, rfl⟩ := key_messagesOfKind hget
  exact hchat old hold hkind

/-- **Without system messages** the final sort changes nothing. -/
theorem messages_reconcile_chat (choices : Mobile.Choices) (hchat : ChatOnly messages) :
    (reconcileSessionMessages choices messages).messages =
      orderedChatMessages choices messages := by
  rw [messages_reconcileSession, unsortedMessages, values_system_eq_nil hchat, List.nil_append]
  exact sort_by_own_positions choices (nodup_ids_ordered choices messages)

theorem reconcile_eq_of_messages
    (hanalysis : chatAnalysis choices messages = chatAnalysis choices messages')
    (hmessages : (reconcileSessionMessages choices messages).messages =
      (reconcileSessionMessages choices messages').messages) :
    reconcileSessionMessages choices messages = reconcileSessionMessages choices messages' := by
  have hparts : ∀ messages, reconcileSessionMessages choices messages =
      ⟨(reconcileSessionMessages choices messages).messages,
        (chatAnalysis choices messages).leafIds, (chatAnalysis choices messages).missingIds⟩ :=
    fun _ => rfl
  rw [hparts messages, hparts messages', hmessages, hanalysis]

/-- What comes of two logs with the same order and the same messages, up to what they
missed before. -/
theorem reconcile_eq_of_ordered (hchat : ChatOnly messages) (hchat' : ChatOnly messages')
    (hordered : orderLikes choices (chatNodes messages) = orderLikes choices (chatNodes messages'))
    (hget : ∀ key, ((messagesOfKind .chat messages).get key).map (finishMessage []) =
      ((messagesOfKind .chat messages').get key).map (finishMessage [])) :
    reconcileSessionMessages choices messages = reconcileSessionMessages choices messages' := by
  have hanalysis := chatAnalysis_eq hordered
  refine reconcile_eq_of_messages hanalysis ?_
  have hfinished : ∀ (messages : List ChatMessage) (key : String) (missingIds : List String),
      ((messagesOfKind .chat messages).get key).map (finishMessage missingIds) =
        (((messagesOfKind .chat messages).get key).map (finishMessage [])).map
          (finishMessage missingIds) := by
    intro messages key missingIds
    rw [Option.map_map]
    exact congrArg (Option.map · _) (funext fun message =>
      (finish_finish missingIds [] message).symm)
  rw [messages_reconcile_chat choices hchat, messages_reconcile_chat choices hchat']
  show (orderLikes choices (chatNodes messages)).filterMap (fun like =>
      ((messagesOfKind .chat messages).get like.id).map
        (finishMessage (chatAnalysis choices messages).missingIds)) =
    (orderLikes choices (chatNodes messages')).filterMap fun like =>
      ((messagesOfKind .chat messages').get like.id).map
        (finishMessage (chatAnalysis choices messages').missingIds)
  rw [hordered, hanalysis]
  refine List.filterMap_congr fun like _ => ?_
  rw [hfinished messages, hget, ← hfinished messages']

/-! ## Reconciling what was reconciled -/

theorem chatOnly_reconcile (choices : Mobile.Choices) (hchat : ChatOnly messages) :
    ChatOnly (reconcileSessionMessages choices messages).messages := by
  intro message hmem
  rw [messages_reconcile_chat choices hchat] at hmem
  exact (normal_of_mem_ordered hmem).kind

/-- Normal messages with distinct ids are kept as they are. -/
theorem values_of_normal (hnormal : ∀ message ∈ messages, Normal message)
    (hnodup : (messages.map ChatMessage.id).Nodup) :
    (messagesOfKind .chat messages).values = messages := by
  have hextracted : extractChatMessages messages = messages := by
    have hmap : messages.map normalizeChatMessage = messages :=
      (List.map_congr_left fun message hmem => (hnormal message hmem).normal).trans (List.map_id _)
    rw [extractChatMessages, hmap]
    exact List.filter_eq_self.mpr fun message hmem =>
      decide_eq_true ⟨(hnormal message hmem).kind, (hnormal message hmem).ne⟩
  have hids : (chatIds messages).Nodup := by
    rw [chatIds, hextracted]
    exact hnodup
  rw [values_messagesOfKind_chat hids, hextracted]

theorem values_again (choices : Mobile.Choices) (hchat : ChatOnly messages) :
    (messagesOfKind .chat (reconcileSessionMessages choices messages).messages).values =
      orderedChatMessages choices messages := by
  rw [messages_reconcile_chat choices hchat]
  exact values_of_normal (fun _ => normal_of_mem_ordered) (nodup_ids_ordered choices messages)

theorem get_again (choices : Mobile.Choices) (hchat : ChatOnly messages) (key : String) :
    (messagesOfKind .chat (reconcileSessionMessages choices messages).messages).get key =
      ((messagesOfKind .chat messages).get key).map
        (finishMessage (chatAnalysis choices messages).missingIds) := by
  refine Option.ext fun message => ?_
  rw [get_eq_some_iff, values_again choices hchat, mem_orderedChatMessages, Option.map_eq_some_iff]
  constructor
  · rintro ⟨⟨kept, hkept, rfl⟩, hkey⟩
    exact ⟨kept, get_eq_some_iff.mpr ⟨hkept, hkey⟩, rfl⟩
  · rintro ⟨kept, hget, rfl⟩
    obtain ⟨hkept, hkey⟩ := get_eq_some_iff.mp hget
    exact ⟨⟨kept, hkept, rfl⟩, hkey⟩

/-- The message under an id, without what it missed. -/
def copyOf (messages : List ChatMessage) (key : String) : Option ChatMessage :=
  ((messagesOfKind .chat messages).get key).map (finishMessage [])

theorem copyOf_again (choices : Mobile.Choices) (hchat : ChatOnly messages) (key : String) :
    copyOf (reconcileSessionMessages choices messages).messages key = copyOf messages key := by
  rw [copyOf, get_again choices hchat, Option.map_map, copyOf]
  exact congrArg (Option.map · _) (funext fun message => finish_finish [] _ message)

/-- Ordering the nodes again. -/
theorem orderLikes_again (choices : Mobile.Choices) {nodes : List MessageLike}
    (hnodup : (nodes.map MessageLike.id).Nodup) :
    orderLikes choices (orderLikes choices nodes) = orderLikes choices nodes := by
  have hparents : likeParents (orderLikes choices nodes) = likeParents nodes := by
    funext node
    refine List.filter_congr fun id _ => decide_eq_decide.mpr ?_
    exact ((orderLikes_perm choices hnodup).map _).mem_iff
  have hagain : likeGraph choices (orderLikes choices nodes) = (likeGraph choices nodes).again := by
    show (⟨orderLikes choices nodes, MessageLike.id, likeParents (orderLikes choices nodes),
      compareMessageOrder choices⟩ : Kahn.Graph MessageLike String) = _
    rw [hparents]
    rfl
  calc orderLikes choices (orderLikes choices nodes)
      = (likeGraph choices (orderLikes choices nodes)).ordered := rfl
    _ = (likeGraph choices nodes).again.ordered := by rw [hagain]
    _ = orderLikes choices nodes := ordered_again (wellFormed_likeGraph choices hnodup)

/-- **Reconciling again changes nothing.** -/
theorem reconcile_again (choices : Mobile.Choices) (hchat : ChatOnly messages) :
    reconcileSessionMessages choices (reconcileSessionMessages choices messages).messages =
      reconcileSessionMessages choices messages := by
  refine reconcile_eq_of_ordered (chatOnly_reconcile choices hchat) hchat ?_
    (copyOf_again choices hchat)
  rw [chatNodes_eq, values_again choices hchat, toLike_orderedChatMessages]
  exact orderLikes_again choices (nodup_ids_chatNodes messages)

/-! ## Messages that the comparator tells apart -/

/-- What the order of two messages is decided by. -/
def orderKey (message : ChatMessage) : String × JsNumber :=
  (jsTrim message.id, normalizeMessageTs message)

/-- A chat message whose id and time are among the keys. -/
def Keyed (keys : Set (String × JsNumber)) (message : ChatMessage) : Prop :=
  message.kind ≠ .system ∧ orderKey message ∈ keys

/-- No two keys of one time have different ids that `localeCompare` takes for equal. -/
def ToldApart (choices : Mobile.Choices) (keys : Set (String × JsNumber)) : Prop :=
  ∀ left right, Keyed keys left → Keyed keys right → jsTrim left.id ≠ "" → jsTrim right.id ≠ "" →
    normalizeMessageTs left = normalizeMessageTs right →
      choices.localeCompare (jsTrim left.id) (jsTrim right.id) = .eq →
        jsTrim left.id = jsTrim right.id

variable {keys : Set (String × JsNumber)}

theorem Keyed.normalize (hkeyed : Keyed keys message) :
    Keyed keys (normalizeChatMessage message) := by
  refine ⟨hkeyed.1, ?_⟩
  have hkey : orderKey (normalizeChatMessage message) = orderKey message :=
    congrArg₂ Prod.mk (jsTrim_jsTrim message.id) (orZero_orZero message.ts)
  rw [hkey]
  exact hkeyed.2

theorem Keyed.of_get (hkeyed : ∀ message ∈ messages, Keyed keys message)
    (hget : (messagesOfKind .chat messages).get key = some message) : Keyed keys message := by
  obtain ⟨-, -, -, old, hold, rfl⟩ := key_messagesOfKind hget
  exact (hkeyed old hold).normalize

theorem Keyed.reconcile (hkeyed : ∀ message ∈ messages, Keyed keys message) :
    ∀ message ∈ (reconcileSessionMessages choices messages).messages, Keyed keys message := by
  intro message hmem
  rw [messages_reconcile_chat choices fun message hmem => (hkeyed message hmem).1] at hmem
  obtain ⟨kept, hkept, rfl⟩ := mem_orderedChatMessages.mp hmem
  have hkept : Keyed keys kept := Keyed.of_get hkeyed (get_eq_some_iff.mpr ⟨hkept, rfl⟩)
  exact hkept

theorem compareMessageOrder_eq_iff {first second : MessageLike} :
    compareMessageOrder choices first second = .eq ↔
      first.ts.orZero = second.ts.orZero ∧ choices.localeCompare first.id second.id = .eq := by
  unfold compareMessageOrder
  by_cases hts : first.ts.orZero = second.ts.orZero
  · rw [if_neg (not_not.mpr hts)]
    exact (and_iff_right hts).symm
  · rw [if_pos hts]
    refine iff_of_false ?_ fun h => hts h.1
    split
    · exact fun h => Ordering.noConfusion h
    · exact fun h => Ordering.noConfusion h

/-- The nodes of such a log are told apart. -/
theorem ToldApart.separates (happart : ToldApart choices keys)
    (hkeyed : ∀ message ∈ messages, Keyed keys message) :
    ∀ first ∈ chatNodes messages, ∀ second ∈ chatNodes messages,
      compareMessageOrder choices first second = .eq → first = second := by
  intro first hfirst second hsecond htie
  obtain ⟨left, hleft, rfl⟩ := Option.map_eq_some_iff.mp (mem_chatNodes.mp hfirst)
  obtain ⟨right, hright, rfl⟩ := Option.map_eq_some_iff.mp (mem_chatNodes.mp hsecond)
  obtain ⟨hts, hlocale⟩ := compareMessageOrder_eq_iff.mp htie
  have hleftid := (normal_of_get hleft).trimmed
  have hrightid := (normal_of_get hright).trimmed
  have hids := happart left right (Keyed.of_get hkeyed hleft) (Keyed.of_get hkeyed hright)
    (hleftid.symm ▸ (normal_of_get hleft).ne) (hrightid.symm ▸ (normal_of_get hright).ne) hts
    (hleftid.symm ▸ hrightid.symm ▸ hlocale)
  rw [hleftid, hrightid] at hids
  exact List.inj_on_of_nodup_map (nodup_ids_chatNodes messages) hfirst hsecond hids

/-- Then the order depends on the set of the nodes. -/
theorem orderLikes_eq_of_mem {nodes nodes' : List MessageLike}
    (hnodup : (nodes.map MessageLike.id).Nodup) (hnodup' : (nodes'.map MessageLike.id).Nodup)
    (hmem : ∀ node, node ∈ nodes ↔ node ∈ nodes')
    (hseparates : ∀ first ∈ nodes, ∀ second ∈ nodes,
      compareMessageOrder choices first second = .eq → first = second) :
    orderLikes choices nodes = orderLikes choices nodes' := by
  have hparents : likeParents nodes' = likeParents nodes := by
    have hperm := (List.perm_ext_iff_of_nodup hnodup.of_map hnodup'.of_map).mpr hmem
    funext node
    exact List.filter_congr fun id _ => decide_eq_decide.mpr (hperm.map _).symm.mem_iff
  have hleft := causalOrder_ordered (wellFormed_likeGraph choices hnodup)
  have hright := (causalOrder_ordered (wellFormed_likeGraph choices hnodup')).congr
    (fun node => (hmem node).symm) fun first second => by
      show (first ∈ nodes' ∧ second ∈ nodes' ∧ first.id ∈ likeParents nodes' second) ↔
        (first ∈ nodes ∧ second ∈ nodes ∧ first.id ∈ likeParents nodes second)
      rw [hmem, hmem, hparents]
  exact hleft.unique hright fun first second hfirst hsecond hab hba =>
    hseparates first hfirst second hsecond (below_antisymm hab hba)

/-- **Logs with the same copies reconcile alike.** -/
theorem reconcile_eq_of_copies (happart : ToldApart choices keys)
    (hkeyed : ∀ message ∈ messages, Keyed keys message)
    (hkeyed' : ∀ message ∈ messages', Keyed keys message)
    (hcopies : ∀ key, copyOf messages key = copyOf messages' key) :
    reconcileSessionMessages choices messages = reconcileSessionMessages choices messages' := by
  have hnode : ∀ (messages : List ChatMessage) (node : MessageLike),
      node ∈ chatNodes messages ↔ (copyOf messages node.id).map toLike = some node := by
    intro messages node
    rw [mem_chatNodes, copyOf, Option.map_map]
    cases hget : (messagesOfKind .chat messages).get node.id with
    | none => rfl
    | some message =>
        rw [Option.map_some, Option.map_some, Function.comp_apply,
          (normal_of_get hget).toLike_finish]
  refine reconcile_eq_of_ordered (fun message hmem => (hkeyed message hmem).1)
    (fun message hmem => (hkeyed' message hmem).1) ?_ hcopies
  refine orderLikes_eq_of_mem (nodup_ids_chatNodes messages) (nodup_ids_chatNodes messages')
    (fun node => ?_) (happart.separates hkeyed)
  rw [hnode messages, hnode messages', hcopies]

/-! ## Upserting -/

/-- The session after two messages. -/
def upsertBoth (choices : Mobile.Choices) (messages : List ChatMessage)
    (first second : ChatMessage) : SessionMessages :=
  (upsertSessionMessage choices (upsertSessionMessage choices messages first).session.messages
    second).session

/-- A new message takes the place under its id. -/
theorem copyOf_replaceMessage (hkind : message.kind ≠ .system) (key : String) :
    copyOf (replaceMessage messages (normalizeChatMessage message)) key =
      if key = jsTrim message.id then
        if key ≠ "" then some (finishMessage [] (normalizeChatMessage message)) else none
      else copyOf messages key := by
  have hchat : (normalizeChatMessage message).kind = .chat := by
    rw [kind_normalize]
    cases hcase : message.kind with
    | chat => rfl
    | system => exact absurd hcase hkind
  have hid : jsTrim (normalizeChatMessage message).id = jsTrim message.id := jsTrim_jsTrim _
  unfold copyOf
  rw [get_messagesOfKind, get_messagesOfKind, replaceMessage, lastCopy_append, lastCopy_singleton]
  by_cases hkey : key = jsTrim message.id
  · rw [if_pos hkey]
    by_cases hne : key ≠ ""
    · rw [if_pos hne, if_pos (isCopy_iff.mpr ⟨hne, hchat, hid.trans hkey.symm⟩), Option.some_or,
        Option.map_some, Option.map_some, normalize_normalize hkind]
    · rw [if_neg hne, if_neg fun hcopy => hne (isCopy_iff.mp hcopy).1, Option.none_or]
      cases hlast : lastCopy .chat key (messages.filter fun message' =>
          decide (jsTrim message'.id ≠ (normalizeChatMessage message).id)) with
      | none => rfl
      | some last => exact absurd (isCopy_iff.mp (lastCopy_eq_some hlast).2).1 hne
  · have hnot : ¬isCopy .chat key (normalizeChatMessage message) = true := fun hcopy =>
      hkey ((isCopy_iff.mp hcopy).2.2.symm.trans hid)
    rw [if_neg hkey, if_neg hnot, Option.none_or, lastCopy_filter]
    intro other hcopy
    exact decide_eq_true fun hsame => hkey ((isCopy_iff.mp hcopy).2.2.symm.trans hsame)

theorem Keyed.replace (hkeyed : ∀ message ∈ messages, Keyed keys message)
    (hmessage : Keyed keys message) :
    ∀ other ∈ replaceMessage messages (normalizeChatMessage message), Keyed keys other := by
  intro other hmem
  rcases List.mem_append.mp hmem with hold | hnew
  · exact hkeyed other (List.mem_of_mem_filter hold)
  · exact List.mem_singleton.mp hnew ▸ hmessage.normalize

/-- The log that the second of two messages is reconciled with. -/
def logOfBoth (choices : Mobile.Choices) (messages : List ChatMessage)
    (first second : ChatMessage) : List ChatMessage :=
  replaceMessage (reconcileSessionMessages choices
    (replaceMessage messages (normalizeChatMessage first))).messages (normalizeChatMessage second)

theorem upsertBoth_eq (choices : Mobile.Choices) (messages : List ChatMessage)
    (first second : ChatMessage) : upsertBoth choices messages first second =
      reconcileSessionMessages choices (logOfBoth choices messages first second) := by
  rw [upsertBoth, session_upsertSessionMessage, session_upsertSessionMessage, logOfBoth]

theorem copyOf_logOfBoth {first second : ChatMessage}
    (hkeyed : ∀ message ∈ messages, Keyed keys message) (hfirst : Keyed keys first)
    (hsecond : Keyed keys second) (key : String) :
    copyOf (logOfBoth choices messages first second) key =
      if key = jsTrim second.id then
        if key ≠ "" then some (finishMessage [] (normalizeChatMessage second)) else none
      else if key = jsTrim first.id then
        if key ≠ "" then some (finishMessage [] (normalizeChatMessage first)) else none
      else copyOf messages key := by
  have hchat : ChatOnly (replaceMessage messages (normalizeChatMessage first)) :=
    fun message hmem => (Keyed.replace hkeyed hfirst message hmem).1
  rw [logOfBoth, copyOf_replaceMessage hsecond.1, copyOf_again choices hchat,
    copyOf_replaceMessage hfirst.1]

/-- **Two messages may arrive in either order**, if no ties are among the keys. -/
theorem upsertBoth_comm (happart : ToldApart choices keys) {first second : ChatMessage}
    (hkeyed : ∀ message ∈ messages, Keyed keys message) (hfirst : Keyed keys first)
    (hsecond : Keyed keys second) (hids : jsTrim first.id ≠ jsTrim second.id) :
    upsertBoth choices messages first second = upsertBoth choices messages second first := by
  have hlog : ∀ {first second}, Keyed keys first → Keyed keys second →
      ∀ message ∈ logOfBoth choices messages first second, Keyed keys message :=
    fun hfirst hsecond => Keyed.replace (Keyed.reconcile (Keyed.replace hkeyed hfirst)) hsecond
  rw [upsertBoth_eq, upsertBoth_eq]
  refine reconcile_eq_of_copies happart (hlog hfirst hsecond) (hlog hsecond hfirst) fun key => ?_
  rw [copyOf_logOfBoth hkeyed hfirst hsecond, copyOf_logOfBoth hkeyed hsecond hfirst]
  by_cases hkey : key = jsTrim first.id
  · rw [if_neg (hkey ▸ hids), if_pos hkey, if_pos hkey]
  · rw [if_neg hkey, if_neg hkey]

/-! ## Ties -/

/-- A message without parents, as a log of its own. -/
theorem reconcile_singleton (choices : Mobile.Choices) (hnormal : Normal message) :
    ∃ stored, (reconcileSessionMessages choices [message]).messages = [stored] ∧
      Normal stored ∧ toLike stored = toLike message := by
  have hchat : ChatOnly [message] := fun other hmem =>
    List.mem_singleton.mp hmem ▸ hnormal.kind
  have hvalues : (messagesOfKind .chat [message]).values = [message] :=
    values_of_normal (fun other hmem => List.mem_singleton.mp hmem ▸ hnormal)
      (List.nodup_singleton _)
  have hnodes : chatNodes [message] = [toLike message] := by
    rw [chatNodes_eq, hvalues, List.map_singleton]
  have hlikes : (orderedChatMessages choices [message]).map toLike = [toLike message] := by
    have hperm := orderLikes_chatNodes_perm choices [message]
    rw [toLike_orderedChatMessages, hnodes]
    exact List.perm_singleton.mp (hnodes ▸ hperm)
  rw [messages_reconcile_chat choices hchat]
  obtain ⟨stored, heq, hlike⟩ := List.map_eq_singleton_iff.mp hlikes
  refine ⟨stored, heq, normal_of_mem_ordered (heq ▸ List.mem_singleton_self stored), hlike⟩

/-- Two messages that tie stay in the order they arrived in. -/
theorem ids_upsertBoth_of_tie {first second : ChatMessage} (hfirst : first.kind ≠ .system)
    (hsecond : second.kind ≠ .system) (hfirstid : jsTrim first.id ≠ "")
    (hsecondid : jsTrim second.id ≠ "") (hids : jsTrim first.id ≠ jsTrim second.id)
    (hfirstafter : first.after = []) (hsecondafter : second.after = [])
    (hts : normalizeMessageTs first = normalizeMessageTs second)
    (htie : choices.localeCompare (jsTrim first.id) (jsTrim second.id) = .eq) :
    (upsertBoth choices [] first second).messages.map ChatMessage.id =
      [jsTrim first.id, jsTrim second.id] := by
  have hone := normal_normalize hfirst hfirstid
  have htwo := normal_normalize hsecond hsecondid
  obtain ⟨stored, hstored, hnormal, hlike⟩ := reconcile_singleton choices hone
  have hlog : logOfBoth choices [] first second = [stored, normalizeChatMessage second] := by
    have hkeep : [stored].filter (fun message =>
        decide (jsTrim message.id ≠ (normalizeChatMessage second).id)) = [stored] := by
      refine List.filter_cons_of_pos (decide_eq_true ?_)
      rw [hnormal.trimmed]
      have hid : stored.id = jsTrim first.id := congrArg MessageLike.id hlike
      rw [hid]
      exact hids
    show replaceMessage (reconcileSessionMessages choices
      [normalizeChatMessage first]).messages _ = _
    rw [hstored, replaceMessage, hkeep]
    rfl
  have hboth : ∀ message ∈ [stored, normalizeChatMessage second], Normal message := by
    intro message hmem
    rcases List.mem_pair.mp hmem with rfl | rfl
    · exact hnormal
    · exact htwo
  have hstoredid : stored.id = jsTrim first.id := congrArg MessageLike.id hlike
  have hdistinct : ([stored, normalizeChatMessage second].map ChatMessage.id).Nodup := by
    refine List.nodup_cons.mpr ⟨fun hmem => hids ?_, List.nodup_singleton _⟩
    exact hstoredid.symm.trans (List.mem_singleton.mp hmem)
  let nodes := [toLike (normalizeChatMessage first), toLike (normalizeChatMessage second)]
  have hnodes : chatNodes [stored, normalizeChatMessage second] = nodes := by
    rw [chatNodes_eq, values_of_normal hboth hdistinct, List.map_cons, hlike]
    rfl
  have hroots : ∀ node ∈ nodes, likeParents nodes node = [] := by
    have hnone : ∀ message : ChatMessage, message.kind ≠ .system → message.after = [] →
        (toLike (normalizeChatMessage message)).after = [] := by
      intro message hkind hafter
      have hkept : (normalizeChatMessage message).after = normalizeAfterIds message.after :=
        if_neg hkind
      show (normalizeChatMessage message).after = []
      rw [hkept, hafter]
      rfl
    intro node hnode
    rcases List.mem_pair.mp hnode with rfl | rfl
    · rw [likeParents, hnone first hfirst hfirstafter]
      rfl
    · rw [likeParents, hnone second hsecond hsecondafter]
      rfl
  have hnodup : (nodes.map MessageLike.id).Nodup := by
    have hnodup := nodup_ids_chatNodes [stored, normalizeChatMessage second]
    rwa [hnodes] at hnodup
  have hordered : orderLikes choices nodes = nodes := by
    have hsorted : nodes.Pairwise (Below (compareMessageOrder choices)) := by
      refine List.pairwise_pair.mpr ?_
      have heq : compareMessageOrder choices (toLike (normalizeChatMessage first))
          (toLike (normalizeChatMessage second)) = .eq :=
        compareMessageOrder_eq_iff.mpr ⟨congrArg JsNumber.orZero hts, htie⟩
      rw [Below, heq]
      rfl
    calc orderLikes choices nodes = (likeGraph choices nodes).ordered := rfl
      _ = sortBy (compareMessageOrder choices) nodes :=
        ordered_of_roots (wellFormed_likeGraph choices hnodup) hroots
      _ = nodes := sortBy_eq_self hsorted
  rw [upsertBoth_eq, hlog, messages_reconcile_chat choices fun message hmem =>
    (hboth message hmem).kind, ids_orderedChatMessages, hnodes, hordered]
  rfl

/-- What the stored sessions rely on, for messages with these ids and times. -/
structure Settles (choices : Mobile.Choices) (keys : Set (String × JsNumber)) : Prop where
  idempotent : ∀ messages : List ChatMessage, (∀ message ∈ messages, Keyed keys message) →
    reconcileSessionMessages choices (reconcileSessionMessages choices messages).messages =
      reconcileSessionMessages choices messages
  commutes : ∀ (messages : List ChatMessage) (first second : ChatMessage),
    (∀ message ∈ messages, Keyed keys message) → Keyed keys first → Keyed keys second →
      jsTrim first.id ≠ jsTrim second.id →
        upsertBoth choices messages first second = upsertBoth choices messages second first

/-- **When stored sessions settle.**  Reconciling again never changes a session; two
messages may arrive in either order exactly if no two keys tie. -/
theorem settles_iff (choices : Mobile.Choices) (keys : Set (String × JsNumber)) :
    Settles choices keys ↔ ToldApart choices keys := by
  constructor
  · intro hsettles left right hleft hright hleftid hrightid hts htie
    by_contra hids
    let first : ChatMessage := { left with after := [] }
    let second : ChatMessage := { right with after := [] }
    have hcomm : upsertBoth choices [] first second = upsertBoth choices [] second first :=
      hsettles.commutes [] first second (fun message hmem => nomatch hmem) hleft hright hids
    have hforth := @ids_upsertBoth_of_tie choices first second hleft.1 hright.1 hleftid hrightid
      hids rfl rfl hts htie
    have hswap : choices.localeCompare (jsTrim right.id) (jsTrim left.id) = .eq := by
      have := choices.trans
      rw [@Std.OrientedCmp.eq_swap _ choices.localeCompare, htie]
      rfl
    have hback := @ids_upsertBoth_of_tie choices second first hright.1 hleft.1 hrightid hleftid
      (Ne.symm hids) rfl rfl hts.symm hswap
    rw [hcomm, hback] at hforth
    exact hids (List.cons.inj hforth).1.symm
  · intro happart
    refine ⟨fun messages hkeyed => ?_, fun messages first second hkeyed hfirst hsecond hids => ?_⟩
    · exact reconcile_again choices fun message hmem => (hkeyed message hmem).1
    · exact upsertBoth_comm happart hkeyed hfirst hsecond hids

/-! ### One letter, written in two ways -/

/-- The canonical decomposition, as far as it is needed: U+00E9 is `e` and an accent. -/
def decompose (text : String) : String :=
  String.ofList (text.toList.flatMap fun c =>
    if c = Char.ofNat 0xe9 then [Char.ofNat 0x65, Char.ofNat 0x301] else [c])

/-- `localeCompare` takes canonically equivalent strings for equal. -/
def canonicalChoices : Mobile.Choices :=
  ⟨fun left right => compare (decompose left) (decompose right),
    transCmp_pullback compare decompose, .insertion⟩

def composedMessage : ChatMessage :=
  skewedSessionMessage (String.ofList [Char.ofNat 0xe9]) .chat 5 []

def decomposedMessage : ChatMessage :=
  skewedSessionMessage (String.ofList [Char.ofNat 0x65, Char.ofNat 0x301]) .chat 5 []

theorem arrival_order_shows : jsTrim composedMessage.id ≠ jsTrim decomposedMessage.id ∧
    upsertBoth canonicalChoices [] composedMessage decomposedMessage ≠
      upsertBoth canonicalChoices [] decomposedMessage composedMessage := by
  have hids : jsTrim composedMessage.id ≠ jsTrim decomposedMessage.id := by decide +kernel
  have hforth : (upsertBoth canonicalChoices [] composedMessage decomposedMessage).messages.map
      ChatMessage.id = [jsTrim composedMessage.id, jsTrim decomposedMessage.id] := by
    decide +kernel
  have hback : (upsertBoth canonicalChoices [] decomposedMessage composedMessage).messages.map
      ChatMessage.id = [jsTrim decomposedMessage.id, jsTrim composedMessage.id] := by
    decide +kernel
  refine ⟨hids, fun heq => ?_⟩
  rw [heq, hback] at hforth
  exact hids (List.cons.inj hforth).1.symm

end OpenClaw.Chat
